import DocumentQuery.Double.Layout
import DocumentQuery.Text.Described
import DocumentQuery.Value.Basic

/-!
# Descriptions of values

The text of a value for people who look into it: the name of its kind with its contents in
parentheses. Every kind shows, and the names and strings in it are described as texts are, so
nothing in them is hidden from sight.
-/

namespace DocumentQuery

open Text

def Instant.description (t : Instant) : String :=
  describeTuple "DateTime" (String.ofList (signed t.toInt))

namespace Value

mutual

def description : Value → String
  | .null => "Null"
  | .bool b => describeTuple "Boolean" (if b then "true" else "false")
  | .int n => describeTuple "Int32" (String.ofList (signed n.toInt))
  | .long n => describeTuple "Int64" (String.ofList (signed n.toInt))
  | .double d => describeTuple "Double" (String.ofList (d.write .described))
  | .decimal d => describeTuple "Decimal" (String.ofList d.write)
  | .date t => describeTuple "DateTime" t.description
  | .string s => describeTuple "String" (describe s)
  | .array items => describeTuple "Array" (describeList (describeItems items))
  | .document fields =>
    describeTuple "Document"
      (describeRecord "Document" "entries" (describeSet (describeFields fields.slots)))

def describeItems : List Value → List String
  | [] => []
  | item :: rest => description item :: describeItems rest

def describeFields {names : List String} : Slots String Value names → List String
  | .nil => []
  | .cons name value rest => (describe name ++ ": " ++ description value) :: describeFields rest

end

end Value

def Document.description (d : Document) : String :=
  describeRecord "Document" "entries" (describeSet (Value.describeFields d.slots))

end DocumentQuery
