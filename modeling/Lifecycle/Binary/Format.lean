import Lifecycle.Text.Utf8

/-!
# Binary formats

Values as bytes, one after the other and without any mark between them: integers have a fixed
width and begin with their least byte, a text or list begins with its length as an integer of 64
bits. Reading takes a value from the front of the bytes and returns it with what follows.
-/

namespace Lifecycle

namespace Binary

/-- Why bytes are refused. -/
inductive Error where
  /-- A value of fixed width is cut short. -/
  | endInNumber
  /-- Fewer bytes are left than the length of a text says. -/
  | endInText
  /-- The bytes of a text are no UTF-8. -/
  | encoding (error : Text.Utf8.Error)
  /-- A byte is no truth value. -/
  | truthValue (found : UInt8)
  /-- The content of a text or of bytes is refused by whoever reads it. -/
  | refused (reason : String)
deriving DecidableEq, Repr

namespace Error

/-- The error in words. -/
def message : Error → String
  | endInNumber => "io error: unexpected end of file"
  | endInText => "io error: "
  | encoding error => "string is not valid utf8: " ++ error.message
  | truthValue found =>
    "invalid u8 while decoding bool, expected 0 or 1, found " ++ toString found.toNat
  | refused reason => reason

end Error

/-- Reads a value from the front of some bytes. -/
abbrev Reader (α : Type) := List UInt8 → Except Error (α × List UInt8)

/-- How values of a type are read and written. -/
structure Format (α : Type) where
  /-- Read a value. -/
  read : Reader α
  /-- Write a value. -/
  write : α → List UInt8

/-- A natural in `width` bytes, the least first. -/
def writeNatural : (width : Nat) → Nat → List UInt8
  | 0, _ => []
  | width + 1, value => UInt8.ofNat value :: writeNatural width (value / 256)

/-- The natural in the first `width` bytes, the least first. -/
def readNatural : (width : Nat) → Reader Nat
  | 0, bytes => .ok (0, bytes)
  | _ + 1, [] => .error .endInNumber
  | width + 1, byte :: bytes => do
    let (value, bytes) ← readNatural width bytes
    return (byte.toNat + 256 * value, bytes)

/-- A length, and as many bytes. -/
def readBlock : Reader (List UInt8) := fun bytes => do
  let (length, bytes) ← readNatural 8 bytes
  if length ≤ bytes.length then return (bytes.take length, bytes.drop length)
  else throw .endInText

/-- A length, and the bytes after it. -/
def writeBlock (bytes : List UInt8) : List UInt8 :=
  writeNatural 8 bytes.length ++ bytes

/-- As many values as `count` says. Each takes at least one byte, so that `fuel` never runs out
when it exceeds the number of bytes: a count beyond that is met by the end of the bytes. -/
def readMany (read : Reader α) : (fuel count : Nat) → Reader (List α)
  | _, 0, bytes => .ok ([], bytes)
  | 0, _ + 1, _ => .error .endInNumber
  | fuel + 1, count + 1, bytes => do
    let (value, bytes) ← read bytes
    let (values, bytes) ← readMany read fuel count bytes
    return (value :: values, bytes)

namespace Format

/-- An integer of 32 bits. -/
def word32 : Format UInt32 where
  read bytes := do
    let (value, bytes) ← readNatural 4 bytes
    return (UInt32.ofNat value, bytes)
  write value := writeNatural 4 value.toNat

/-- An integer of 64 bits. -/
def word64 : Format UInt64 where
  read bytes := do
    let (value, bytes) ← readNatural 8 bytes
    return (UInt64.ofNat value, bytes)
  write value := writeNatural 8 value.toNat

/-- A truth value, one byte. -/
def boolean : Format Bool where
  read
    | [] => .error .endInNumber
    | byte :: bytes =>
      if byte = 0 then .ok (false, bytes)
      else if byte = 1 then .ok (true, bytes)
      else .error (.truthValue byte)
  write value := if value then [1] else [0]

/-- Bytes whose content means something. -/
def block (meaning : List UInt8 → Except String α) (content : α → List UInt8) : Format α where
  read bytes := do
    let (found, bytes) ← readBlock bytes
    match meaning found with
    | .ok value => return (value, bytes)
    | .error reason => throw (.refused reason)
  write value := writeBlock (content value)

/-- A text whose content means something. -/
def text (meaning : String → Except String α) (content : α → String) : Format α where
  read bytes := do
    let (found, bytes) ← readBlock bytes
    match Text.Utf8.decode found with
    | .error error => throw (.encoding error)
    | .ok characters =>
      match meaning (String.ofList characters) with
      | .ok value => return (value, bytes)
      | .error reason => throw (.refused reason)
  write value := writeBlock (Text.Utf8.encode (content value).toList)

/-- A text. -/
def string : Format String :=
  text .ok id

/-- One value after another. -/
def pair (first : Format α) (second : Format β) : Format (α × β) where
  read bytes := do
    let (left, bytes) ← first.read bytes
    let (right, bytes) ← second.read bytes
    return ((left, right), bytes)
  write value := first.write value.1 ++ second.write value.2

/-- A count, and as many values. -/
def list (format : Format α) : Format (List α) where
  read bytes := do
    -- the count is trusted until the bytes run out
    let (count, bytes) ← readNatural 8 bytes
    readMany format.read bytes.length count bytes
  write values := writeNatural 8 values.length ++ values.flatMap format.write

/-- The format of a type whose values stand for those of another. -/
def transfer (format : Format α) (wrap : α → β) (unwrap : β → α) : Format β where
  read bytes := do
    let (value, bytes) ← format.read bytes
    return (wrap value, bytes)
  write value := format.write (unwrap value)

/-- Read a value and ignore what follows. -/
def parse (format : Format α) (bytes : List UInt8) : Except Error α :=
  (format.read bytes).map Prod.fst

end Format

end Binary

end Lifecycle
