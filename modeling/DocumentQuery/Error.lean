import DocumentQuery.Expression.Basic
import DocumentQuery.SearchPath.Basic

/-!
# Errors of the library

Any error of building or rendering a query, with the part of the library that it comes from.
-/

namespace DocumentQuery

/-- An error of any part of the library. -/
inductive QueryError where
  | expression (e : ExpressionError)
  | searchPath (e : SearchPathError)
  | encoding (e : EncodingError)
  deriving DecidableEq, Repr

namespace QueryError

def message : QueryError → String
  | .expression e => "Expression error: " ++ e.message
  | .searchPath e => "Search path error: " ++ e.message
  | .encoding e => "Encoding error: " ++ e.message

/-- The error is that an argument was refused while something was built. -/
def isInvalidArgument : QueryError → Bool
  | .expression .missingElement => true
  | .expression (.badArgument _) => true
  | .expression (.encoding _) => false
  | .searchPath _ => true
  | .encoding _ => false

end QueryError

end DocumentQuery
