import DocumentQuery.Value.Basic

/-!
# Search paths

A search path says which fields of a document a search looks at.

**Field paths** name one field exactly: the path is not empty and has no star. Such a path can be
searched with another analyzer than the default one, whose name is not empty.

**Wildcard paths** are patterns with at least one star, and no two stars side by side.

**Rendering.** A plain field path is rendered under `path`, one with an analyzer under `value` and
`multi`, and a wildcard path under `wildcard`.
-/

namespace DocumentQuery

/-- Why a search path cannot be built. -/
inductive SearchPathError where
  | emptyPath
  | starInPath
  | emptyPattern
  | doubledStar
  | missingStar
  | emptyAnalyzer
  | noPaths
  /-- An argument is not acceptable, for the reason given. -/
  | badArgument (reason : String)
  deriving DecidableEq, Repr

namespace SearchPathError

def reason : SearchPathError → String
  | .emptyPath => "path must not be empty"
  | .starInPath => "path must not contain '*'"
  | .emptyPattern => "wildcardPath must not be empty"
  | .doubledStar => "wildcardPath must not contain '**'"
  | .missingStar => "wildcardPath must contain '*'"
  | .emptyAnalyzer => "analyzerName must not be empty"
  | .noPaths => "paths must not be empty"
  | .badArgument reason => reason

def message (e : SearchPathError) : String := "Invalid argument: " ++ e.reason

end SearchPathError

/-- Two stars stand side by side. -/
def hasDoubledStar : List Char → Bool
  | '*' :: '*' :: _ => true
  | _ :: rest => hasDoubledStar rest
  | [] => false

/-- One field, by its exact path. -/
structure FieldPath where
  path : String
  /-- The analyzer used instead of the default one. -/
  analyzer : Option String
  path_ne : path ≠ ""
  star_notMem : '*' ∉ path.toList
  analyzer_ne : analyzer ≠ some ""
  deriving DecidableEq

/-- The fields whose paths match a pattern. -/
structure WildcardPath where
  pattern : String
  star_mem : '*' ∈ pattern.toList
  stars_apart : hasDoubledStar pattern.toList = false
  deriving DecidableEq

/-- The fields that a search looks at. -/
inductive SearchPath where
  | field (p : FieldPath)
  | wildcard (p : WildcardPath)
  deriving DecidableEq

namespace FieldPath

/-- The field with this path, searched with the default analyzer. -/
def ofString (path : String) : Except SearchPathError FieldPath :=
  if h : path = "" then .error .emptyPath
  else if h' : '*' ∈ path.toList then .error .starInPath
  else .ok ⟨path, none, h, h', by simp⟩

/-- The same field, searched with another analyzer. -/
def withAnalyzer (p : FieldPath) (name : String) : Except SearchPathError FieldPath :=
  if h : name = "" then .error .emptyAnalyzer
  else .ok { p with analyzer := some name, analyzer_ne := by simpa using h }

/-- Sets one analyzer after the other. -/
def withAnalyzers (p : FieldPath) (names : List String) : Except SearchPathError FieldPath :=
  names.foldlM withAnalyzer p

def render (p : FieldPath) : Document :=
  match p.analyzer with
  | none => .singleton "path" (.string p.path)
  | some name => .ofList [("value", .string p.path), ("multi", .string name)]

end FieldPath

namespace WildcardPath

/-- The fields that match this pattern. -/
def ofString (pattern : String) : Except SearchPathError WildcardPath :=
  if pattern = "" then .error .emptyPattern
  else if h : hasDoubledStar pattern.toList then .error .doubledStar
  else if h' : '*' ∈ pattern.toList then .ok ⟨pattern, h', by simpa using h⟩
  else .error .missingStar

def render (p : WildcardPath) : Document := .singleton "wildcard" (.string p.pattern)

end WildcardPath

namespace SearchPath

/-- The text that the path was made from. -/
def raw : SearchPath → String
  | .field p => p.path
  | .wildcard p => p.pattern

def render : SearchPath → Document
  | .field p => p.render
  | .wildcard p => p.render

end SearchPath

end DocumentQuery
