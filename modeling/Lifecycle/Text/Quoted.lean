import Lifecycle.Text.Glyphless
import Lifecycle.Text.Hex

/-!
# Quoted texts

A text between double quotes in which everything can be told apart by eye: quotes and backslashes
are escaped, and what has no glyph of its own is shown by its code.
-/

namespace Lifecycle

namespace Text

/-- One character as it stands between quotes. -/
def quoteChar (c : Char) : List Char :=
  if c = '"' then ['\\', '"']
  else if c = '\\' then ['\\', '\\']
  else if c = '\n' then ['\\', 'n']
  else if c = '\r' then ['\\', 'r']
  else if c = '\t' then ['\\', 't']
  else if c = '\x00' then ['\\', '0']
  else if isGlyphless c then
    ['\\', 'u', '\x7b'] ++ Hex.digits c.toNat ++ ['\x7d']
  else [c]

/-- A text between double quotes. -/
def quote (text : String) : String :=
  "\"" ++ String.ofList (text.toList.flatMap quoteChar) ++ "\""

end Text

end Lifecycle
