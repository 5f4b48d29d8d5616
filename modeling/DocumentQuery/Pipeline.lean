import DocumentQuery.Error
import DocumentQuery.Expression.Evaluation
import DocumentQuery.SearchPath.Compact

/-!
# Search pipelines

A pipeline that searches for a text in some fields and adds one computed field to what it finds.
-/

namespace DocumentQuery

namespace Pipeline

/-- The stage that searches for a text, with the rendered path option. -/
def searchStage (query : String) (path : Value) : Document :=
  .singleton "$search" (.document (.singleton "text"
    (.document (.ofList [("query", .string query), ("path", path)]))))

/-- The stage that adds the fields of a document. -/
def addFieldsStage (fields : Document) : Document := .singleton "$addFields" (.document fields)

/-- The search for `query` in the fields `paths`, then the field `name` with the value of `e`. Of
several errors the first is reported, in the order of the pipeline: that of the paths, of the path
option, of the expression, of its value. -/
def searchAndAdd {H : HostTypes} (query : String) (paths : Except SearchPathError (List SearchPath))
    (name : String) (e : Except ExpressionError (Expression H)) (R : Registry H) :
    Except QueryError Value := do
  let path ← (paths.bind SearchPath.combine).mapError .searchPath
  let e ← e.mapError .expression
  let fields ← (e.toField name R).mapError .expression
  return .array [.document (searchStage query path), .document (addFieldsStage fields)]

end Pipeline

end DocumentQuery
