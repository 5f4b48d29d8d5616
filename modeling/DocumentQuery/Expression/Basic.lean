import DocumentQuery.Encoding.HostDocument
import DocumentQuery.Expression.Scalar

/-!
# Expressions

An `Expression` is a tree of literals. It holds no registry, so one tree can be evaluated with
several of them.

**Construction.** Scalars of the host program become literals, lists of them arrays of literals.
`ofOptions` takes a list in which elements may be missing, and refuses it if one is.

**Types.** The type of an expression is fixed by its constructor, before any evaluation. Null
belongs to every type.
-/

namespace DocumentQuery

/-- A literal of any shape. -/
inductive Expression (H : HostTypes) where
  | literal (s : Scalar)
  | array (items : List (Expression H))
  | document (source : DocumentSource H)
  | null

/-- What kind of value an expression stands for. -/
inductive ExpressionType where
  | boolean
  | integer
  | number
  | date
  | string
  | array
  | document
  | any
  deriving DecidableEq, Repr

def ExpressionType.name : ExpressionType → String
  | .boolean => "boolean"
  | .integer => "integer"
  | .number => "number"
  | .date => "date"
  | .string => "string"
  | .array => "array"
  | .document => "document"
  | .any => "any"

/-- Why an expression cannot be built or evaluated. -/
inductive ExpressionError where
  /-- An element of an array is missing. -/
  | missingElement
  /-- An argument is not acceptable, for the reason given. -/
  | badArgument (reason : String)
  /-- A host object in the expression has no encoding. -/
  | encoding (e : EncodingError)
  deriving DecidableEq, Repr

namespace ExpressionError

def message : ExpressionError → String
  | .missingElement => "Invalid argument: elements of array must not be null"
  | .badArgument reason => "Invalid argument: " ++ reason
  | .encoding e => "Encoding error: " ++ e.message

end ExpressionError

def Scalar.expressionType : Scalar → ExpressionType
  | .bool _ => .boolean
  | .int _ | .long _ => .integer
  | .double _ | .decimal _ => .number
  | .date _ => .date
  | .string _ => .string

namespace Expression

variable {H : HostTypes}

def expressionType : Expression H → ExpressionType
  | .literal s => s.expressionType
  | .array _ => .array
  | .document _ => .document
  | .null => .any

def isNull : Expression H → Bool
  | .null => true
  | _ => false

/-- The literal of a host scalar. -/
def of {α : Type} [ToScalar α] (a : α) : Expression H := .literal (toScalar a)

/-- The array of the literals of host scalars. -/
def ofScalars {α : Type} [ToScalar α] (as : List α) : Expression H := .array (as.map of)

/-- The literal of a host scalar that may be missing. -/
def ofOption {α : Type} [ToScalar α] : Option α → Except ExpressionError (Expression H)
  | some a => .ok (of a)
  | none => .error .missingElement

/-- The array of the literals of host scalars, none of which may be missing. -/
def ofOptions {α : Type} [ToScalar α] (as : List (Option α)) :
    Except ExpressionError (Expression H) :=
  (as.mapM ofOption).map .array

/-- The literal of a document. -/
def ofDocument (d : Document) : Expression H := .document (.plain d)

/-- The literal of a document with host objects. -/
def ofHostDocument (d : HostDocument H) : Expression H := .document (.host d)

mutual

/-- The host objects, from left to right and depth first. -/
def objects : Expression H → List (HostObject H)
  | .literal _ => []
  | .array items => objectsOfItems items
  | .document source => source.objects
  | .null => []

def objectsOfItems : List (Expression H) → List (HostObject H)
  | [] => []
  | item :: rest => objects item ++ objectsOfItems rest

end

end Expression

end DocumentQuery
