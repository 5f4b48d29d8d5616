import DocumentQuery.SearchPath.Basic

/-!
# The compact form of search paths

A document that holds nothing but a text under `path` is written as that text; any other document
stays as it is. The path option of a search is the compact form of its only path, or the array of
the compact forms of its paths.
-/

namespace DocumentQuery

/-- The text of a document whose only field is a text under `path`, else the document. -/
def Document.compact (d : Document) : Value :=
  match d.single? with
  | some ("path", .string s) => .string s
  | _ => .document d

def FieldPath.compact (p : FieldPath) : Value := p.render.compact

def WildcardPath.compact (p : WildcardPath) : Value := p.render.compact

namespace SearchPath

def compact (p : SearchPath) : Value := p.render.compact

/-- The path option of a search with these paths. -/
def combine (ps : List SearchPath) : Except SearchPathError Value :=
  match ps.map compact with
  | [] => .error .noPaths
  | [v] => .ok v
  | vs => .ok (.array vs)

end SearchPath

end DocumentQuery
