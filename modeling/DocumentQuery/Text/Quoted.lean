/-!
# Quoted text

A text is quoted by writing it between double quotes, with an escape for each character that
may not stand there itself.

**Escapes.** The quote, the backslash and the characters below U+0020 are escaped. Five of the
latter have a letter of their own (`\b`, `\f`, `\n`, `\r`, `\t`), the others are written with
four lower-case hexadecimal digits. Every other character stands for itself.
-/

namespace DocumentQuery.Text

/-- The spelling of one character between quotes. -/
def escape (c : Char) : List Char :=
  if c = '"' then ['\\', '"']
  else if c = '\\' then ['\\', '\\']
  else if c = '\x08' then ['\\', 'b']
  else if c = '\x0c' then ['\\', 'f']
  else if c = '\n' then ['\\', 'n']
  else if c = '\r' then ['\\', 'r']
  else if c = '\t' then ['\\', 't']
  else if c.toNat < 0x20 then
    ['\\', 'u', '0', '0', Nat.digitChar (c.toNat / 16), Nat.digitChar (c.toNat % 16)]
  else [c]

/-- The spelling of a run of characters between quotes. -/
def escapeAll (cs : List Char) : List Char := cs.flatMap escape

/-- A text between double quotes. -/
def quoted (s : String) : List Char := '"' :: escapeAll s.toList ++ ['"']

theorem escapeAll_cons (c : Char) (cs : List Char) :
    escapeAll (c :: cs) = escape c ++ escapeAll cs := rfl

end DocumentQuery.Text
