import Lifecycle.Json.Error
import Lifecycle.Text.Utf8

/-!
# Strings of JSON documents

The characters between two quotes. Writing escapes quotes, backslashes and control characters and
nothing else. Reading undoes every escape; a character outside the basic plane may be spelled by
two escapes in a row, the halves of a surrogate pair.
-/

namespace Lifecycle

namespace Json

/-- A control character as it is written: by a letter where there is one, else by its code. -/
def escapeControl (c : Char) : List Char :=
  if c = '\x08' then ['\\', 'b']
  else if c = '\t' then ['\\', 't']
  else if c = '\n' then ['\\', 'n']
  else if c = '\x0c' then ['\\', 'f']
  else if c = '\r' then ['\\', 'r']
  else ['\\', 'u'] ++ Text.Hex.padded 4 c.toNat

/-- One character as it is written between quotes. -/
def escapeChar (c : Char) : List Char :=
  if c = '"' then ['\\', '"']
  else if c = '\\' then ['\\', '\\']
  else if c.toNat < 0x20 then escapeControl c
  else [c]

/-- A string as it is written, with its quotes. -/
def writeString (text : String) : List Char :=
  '"' :: text.toList.flatMap escapeChar ++ ['"']

/-- The character that a letter after a backslash stands for. -/
def escaped? (c : Char) : Option Char :=
  if c = '"' ∨ c = '\\' ∨ c = '/' then some c
  else if c = 'b' then some '\x08'
  else if c = 'f' then some '\x0c'
  else if c = 'n' then some '\n'
  else if c = 'r' then some '\r'
  else if c = 't' then some '\t'
  else none

/-- Whether a code is the first half of a surrogate pair. -/
def isHighSurrogate (code : Nat) : Bool :=
  0xd800 ≤ code && code < 0xdc00

/-- Whether a code is the second half of a surrogate pair. -/
def isLowSurrogate (code : Nat) : Bool :=
  0xdc00 ≤ code && code < 0xe000

/-- The character that a surrogate pair spells. -/
def combine (high low : Nat) : Char :=
  Char.ofNat (0x10000 + (high - 0xd800) * 0x400 + (low - 0xdc00))

/-- Where the reading of a string stands. -/
inductive Phase where
  /-- Between characters. -/
  | plain
  /-- After a backslash. -/
  | escape
  /-- Within a code of four digits, of which `count` are read and spell `value`. When the code is
  the second half of a surrogate pair, `high` is the first half. -/
  | code (high : Option Nat) (count value : Nat)
  /-- After the first half of a surrogate pair: a backslash is due. -/
  | pairBackslash (high : Nat)
  /-- After the first half of a surrogate pair and a backslash: the letter `u` is due. -/
  | pairLetter (high : Nat)
deriving DecidableEq, Repr

/-- Why a code breaks off at a character that is no digit. A document that ends within the four
bytes that a code takes has ended too early, whatever stands there. -/
def brokenCode (count : Nat) (text : List Char) : Error :=
  if count + Text.Utf8.size text < 4 then .endInString else .invalidEscape

/-- Put a character before those that were read. -/
def prepend (c : Char) (read : Except Error (List Char × List Char)) :
    Except Error (List Char × List Char) :=
  read.map fun (characters, rest) => (c :: characters, rest)

/-- Read the characters of a string up to its closing quote, and return them with what follows. -/
def readCharacters : Phase → List Char → Except Error (List Char × List Char)
  | _, [] => .error .endInString
  | .plain, c :: rest =>
    if c = '"' then .ok ([], rest)
    else if c = '\\' then readCharacters .escape rest
    else if c.toNat < 0x20 then .error .controlCharacter
    else prepend c (readCharacters .plain rest)
  | .escape, c :: rest =>
    if c = 'u' then readCharacters (.code none 0 0) rest
    else match escaped? c with
      | some meant => prepend meant (readCharacters .plain rest)
      | none => .error .invalidEscape
  | .code high count value, c :: rest =>
    match Text.Hex.value? c with
    | none => .error (brokenCode count (c :: rest))
    | some digit =>
      let value := 16 * value + digit
      if count < 3 then readCharacters (.code high (count + 1) value) rest
      -- the code is complete
      else match high with
        | none =>
          if isLowSurrogate value then .error .loneSurrogate
          else if isHighSurrogate value then readCharacters (.pairBackslash value) rest
          else prepend (Char.ofNat value) (readCharacters .plain rest)
        | some high =>
          if isLowSurrogate value then
            prepend (combine high value) (readCharacters .plain rest)
          else .error .loneSurrogate
  | .pairBackslash high, c :: rest =>
    if c = '\\' then readCharacters (.pairLetter high) rest else .error .unpairedSurrogate
  | .pairLetter high, c :: rest =>
    if c = 'u' then readCharacters (.code (some high) 0 0) rest else .error .unpairedSurrogate

/-- Read a string after its opening quote. -/
def readString (text : List Char) : Except Error (String × List Char) :=
  (readCharacters .plain text).map fun (characters, rest) => (String.ofList characters, rest)

/-- Pass over the characters of a string up to its closing quote. Escapes must be well formed, but
surrogates need not be paired. -/
def skipCharacters : Phase → List Char → Except Error (List Char)
  | _, [] => .error .endInString
  | .plain, c :: rest =>
    if c = '"' then .ok rest
    else if c = '\\' then skipCharacters .escape rest
    else if c.toNat < 0x20 then .error .controlCharacter
    else skipCharacters .plain rest
  | .escape, c :: rest =>
    if c = 'u' then skipCharacters (.code none 0 0) rest
    else if (escaped? c).isSome then skipCharacters .plain rest
    else .error .invalidEscape
  | .code high count value, c :: rest =>
    if Text.Hex.isDigit c then
      if count < 3 then skipCharacters (.code high (count + 1) value) rest
      else skipCharacters .plain rest
    else .error (brokenCode count (c :: rest))
  | .pairBackslash _, _ :: rest => skipCharacters .plain rest
  | .pairLetter _, _ :: rest => skipCharacters .plain rest

/-- Pass over a string after its opening quote. -/
def skipString (text : List Char) : Except Error (List Char) :=
  skipCharacters .plain text

end Json

end Lifecycle
