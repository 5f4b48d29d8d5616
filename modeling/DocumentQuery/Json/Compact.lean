import DocumentQuery.Json.Basic
import DocumentQuery.Double.Layout
import DocumentQuery.Text.Quoted

/-!
# Compact JSON text

`Json.write` is the text of a tree without any space: items and fields are separated by commas,
and fields are in the order of the object. Real numbers have a point or an exponent, so they never
look like whole ones.
-/

namespace DocumentQuery

namespace Json

/-- Texts with a comma between any two. -/
def commaSeparated (texts : List (List Char)) : List Char := [','].intercalate texts

mutual

/-- The compact text of a tree. -/
def write : Json → List Char
  | .null => "null".toList
  | .bool b => if b then "true".toList else "false".toList
  | .whole n => Text.signed n.val
  | .real d => d.val.write .plain
  | .string s => Text.quoted s
  | .array items => '[' :: commaSeparated (writeItems items) ++ [']']
  | .object fields => '\x7b' :: commaSeparated (writeFields fields.slots) ++ ['\x7d']

def writeItems : List Json → List (List Char)
  | [] => []
  | item :: rest => write item :: writeItems rest

def writeFields {names : List String} : Slots String Json names → List (List Char)
  | .nil => []
  | .cons name value rest => (Text.quoted name ++ ':' :: write value) :: writeFields rest

end

/-- The compact text of a tree, as a string. -/
def compact (j : Json) : String := String.ofList j.write

end Json

end DocumentQuery
