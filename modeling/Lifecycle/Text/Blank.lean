/-!
# Blank characters

White space in two senses: the Unicode property White_Space, by which people separate the parts of
a date, and the four characters that a JSON document ignores between its tokens.
-/

namespace Lifecycle

namespace Text

/-- The Unicode property White_Space. -/
def isBlank (c : Char) : Bool :=
  (0x09 ≤ c.toNat && c.toNat ≤ 0x0d) || c.toNat == 0x20 || c.toNat == 0x85 || c.toNat == 0xa0 ||
    c.toNat == 0x1680 || (0x2000 ≤ c.toNat && c.toNat ≤ 0x200a) || c.toNat == 0x2028 ||
    c.toNat == 0x2029 || c.toNat == 0x202f || c.toNat == 0x205f || c.toNat == 0x3000

/-- A text without the blank characters that it starts with. -/
def trimStart (text : List Char) : List Char :=
  text.dropWhile isBlank

/-- The white space of a JSON document: space, line feed, tab and carriage return. -/
def isInsignificant (c : Char) : Bool :=
  c == ' ' || c == '\n' || c == '\t' || c == '\r'

/-- A document from its next token on. -/
def skipInsignificant (text : List Char) : List Char :=
  text.dropWhile isInsignificant

end Text

end Lifecycle
