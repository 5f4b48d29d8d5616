import DocumentQuery.Text.CharClass

/-!
# Texts described

A text is described to people between quotes, in such a way that every character of it can be
seen and told from every other.

**Visible characters.** A character is visible if it has a printed form of its own: it is not
unprintable, does not merely extend the character before it, and is not blank like the fillers of
Hangul. The space is visible, and so are the halfwidth sound marks, which extend the character
before them but take a place of their own.

**Escapes.** Quotes and backslashes are escaped by a backslash, four controls have a letter or
digit of their own, and every other character that is not visible is written as its code point.
-/

namespace DocumentQuery.Text

/-- The letters that are blank. -/
def hangulFillers : List CharRange :=
  [(0x115F, 0x1160), (0x3164, 0x3164), (0xFFA0, 0xFFA0)]

/-- The sound marks of halfwidth Katakana, which are drawn beside the character they belong to. -/
def halfwidthSoundMarks : List CharRange := [(0xFF9E, 0xFF9F)]

/-- The character is drawn on the one before it. -/
def isAttached (c : Char) : Bool :=
  inRanges graphemeExtend c.toNat && !inRanges halfwidthSoundMarks c.toNat

/-- The character has a printed form of its own. -/
def isVisible (c : Char) : Bool :=
  !inRanges unprintable c.toNat && !isAttached c && !inRanges hangulFillers c.toNat

/-- The spelling of one character in a description. -/
def describeChar (c : Char) : List Char :=
  if c = '"' ∨ c = '\\' then ['\\', c]
  else if c = '\n' then ['\\', 'n']
  else if c = '\r' then ['\\', 'r']
  else if c = '\t' then ['\\', 't']
  else if c = '\x00' then ['\\', '0']
  else if isVisible c then [c]
  else ['\\', 'u', '\x7b'] ++ Nat.toDigits 16 c.toNat ++ ['\x7d']

/-- A text between quotes, for people to read. -/
def describe (s : String) : String :=
  "\"" ++ String.ofList (s.toList.flatMap describeChar) ++ "\""

/-- Descriptions in brackets, with a comma between any two. -/
def describeList (texts : List String) : String := "[" ++ ", ".intercalate texts ++ "]"

/-- Descriptions in braces, with a comma between any two. -/
def describeSet (texts : List String) : String := "\x7b" ++ ", ".intercalate texts ++ "\x7d"

/-- A name with contents in parentheses. -/
def describeTuple (name contents : String) : String := name ++ "(" ++ contents ++ ")"

/-- A name with a named part in braces. -/
def describeRecord (name part contents : String) : String :=
  name ++ " \x7b " ++ part ++ ": " ++ contents ++ " \x7d"

end DocumentQuery.Text
