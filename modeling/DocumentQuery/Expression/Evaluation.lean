import DocumentQuery.Expression.Basic

/-!
# Evaluation of expressions

`Expression.evaluate` renders an expression as a value, with a registry for its host objects.

**Literal documents.** A document is rendered under the single name `$literal`, so nothing in it
is ever taken for an operator.

**Errors.** The only error is that of the first host object without an encoding.
-/

namespace DocumentQuery

namespace Expression

variable {H : HostTypes}

/-- The name under which a document is rendered. -/
def literalName : String := "$literal"

mutual

/-- The value of an expression. -/
def evaluate (R : Registry H) : Expression H → Except ExpressionError Value
  | .literal s => .ok s.toValue
  | .array items => (evaluateItems R items).map .array
  | .document source =>
    match source.encode R with
    | .ok d => .ok (.document (.singleton literalName (.document d)))
    | .error e => .error (.encoding e)
  | .null => .ok .null

def evaluateItems (R : Registry H) : List (Expression H) → Except ExpressionError (List Value)
  | [] => .ok []
  | item :: rest => do
    let v ← evaluate R item
    let vs ← evaluateItems R rest
    return v :: vs

end

/-- The document with the value of an expression as its only field. -/
def toField (e : Expression H) (name : String) (R : Registry H) :
    Except ExpressionError Document :=
  (e.evaluate R).map (.singleton name)

end Expression

end DocumentQuery
