import Lifecycle.Text.Hex
import Lifecycle.Text.Utf8

/-!
# Identifiers of records

Universally unique identifiers: 128 bits, written as 32 hexadecimal digits in five groups. Reading
also takes the digits without hyphens, and the grouped form between braces or after the prefix of
the URN scheme.
-/

namespace Lifecycle

/-- The identifier of a record. -/
structure Uuid where
  /-- The bits, the first digit most significant. -/
  bits : BitVec 128
deriving DecidableEq, Repr

namespace Uuid

/-- The identifier of a natural, reduced to 128 bits. -/
def ofNat (value : Nat) : Uuid := ⟨BitVec.ofNat 128 value⟩

/-- The 32 digits in lower case. -/
def digits (uuid : Uuid) : List Char :=
  Text.Hex.padded 32 uuid.bits.toNat

/-- The lengths of the groups of digits. -/
def groupLengths : List Nat := [8, 4, 4, 4, 12]

/-- Digits in groups, with hyphens between them. -/
def hyphenate (digits : List Char) : List Char :=
  digits.take 8 ++ '-' :: (digits.drop 8).take 4 ++ '-' :: (digits.drop 12).take 4 ++
    '-' :: (digits.drop 16).take 4 ++ '-' :: digits.drop 20

/-- The text of an identifier. -/
def text (uuid : Uuid) : String :=
  String.ofList (hyphenate uuid.digits)

/-- The sixteen bytes, most significant first. -/
def toBytes (uuid : Uuid) : List UInt8 :=
  (List.range 16).map fun index => UInt8.ofNat (uuid.bits.toNat / Nat.pow 256 (15 - index))

/-- The identifier of sixteen bytes, most significant first. -/
def ofBytes (bytes : List UInt8) : Uuid :=
  ofNat (bytes.foldl (fun value byte => 256 * value + byte.toNat) 0)

/-- Why a text or some bytes are no identifier. -/
inductive ReadError where
  /-- A character is neither a digit nor a hyphen. The index counts bytes. -/
  | character (found : Char) (index : Nat)
  /-- The text has another length than any form of identifiers. -/
  | length (found : Nat)
  /-- There are not five groups of digits. -/
  | groupCount (found : Nat)
  /-- A group has the wrong length. -/
  | groupLength (group expected found : Nat)
  /-- There are not sixteen bytes. -/
  | byteCount (found : Nat)
deriving DecidableEq, Repr

namespace ReadError

/-- The error in words. -/
def message (error : ReadError) : String :=
  "UUID parsing failed: " ++ match error with
    | character found index =>
      "invalid character: found `" ++ found.toString ++ "` at " ++ toString index
    | length found => "invalid length: found " ++ toString found
    | groupCount found => "invalid group count: expected 5, found " ++ toString found
    | groupLength group expected found =>
      "invalid group length in group " ++ toString group ++ ": expected " ++ toString expected ++
        ", found " ++ toString found
    | byteCount found => "invalid length: expected 16 bytes, found " ++ toString found

end ReadError

/-- The identifier of 32 digits. -/
def ofDigits? (digits : List Char) : Option Uuid :=
  if digits.length = 32 then (Text.Hex.number? digits).map ofNat else none

/-- The identifier of digits in groups. -/
def ofGroups? (text : List Char) : Option Uuid :=
  let digits := text.filter (· != '-')
  if text = hyphenate digits then ofDigits? digits else none

/-- What the URN scheme puts before an identifier, in letters of either case. -/
def urnScheme : List Char := ['u', 'r', 'n', ':', 'u', 'u', 'i', 'd', ':']

/-- What braces or the URN scheme surround, with the number of characters before it. -/
def wrapped? (text : List Char) : Option (List Char × Nat) :=
  match text with
  | '\x7b' :: rest =>
    if rest.getLast? = some '\x7d' then some (rest.dropLast, 1) else none
  | _ => if (text.take 9).map Char.toLower = urnScheme then some (text.drop 9, 9) else none

/-- The first character that is neither a digit nor a hyphen, with its index in bytes. -/
def stranger? (index : Nat) : List Char → Option (Char × Nat)
  | [] => none
  | c :: rest =>
    if Text.Hex.isDigit c || c == '-' then stranger? (index + 1) rest else some (c, index)

/-- The lengths of the runs between hyphens. -/
def runLengths (text : List Char) : List Nat :=
  (text.splitOn '-').map List.length

/-- The first of the four leading groups that has the wrong length. -/
def wrongGroup? (found : List Nat) : Option ReadError :=
  ((found.zip groupLengths).take 4).zipIdx.findSome? fun ((found, expected), group) =>
    if found = expected then none else some (.groupLength group expected found)

/-- What is wrong with digits in groups. Strange characters come first, then the number of groups,
then the first group of the wrong length. Indices start at `offset`, and the length of the last
group is counted to the end of a text of `size` bytes. -/
def groupFault (offset size : Nat) (content : List Char) : ReadError :=
  match stranger? offset content with
  | some (found, index) => .character found index
  | none =>
    let runs := runLengths content
    if runs.length ≠ 5 then .groupCount runs.length
    else (wrongGroup? runs).getD (.groupLength 4 12 (size - 24))

/-- The text that can only be meant as digits in groups, because it has their length, alone or
inside braces or after the URN scheme. -/
def grouped? (text : List Char) : Option (List Char) :=
  if Text.Utf8.size text = 36 then some text
  else (wrapped? text).bind fun (content, _) =>
    if Text.Utf8.size content = 36 then some content else none

/-- What is wrong with a text that is no identifier. In a text of the right length for groups,
indices count from the start of the groups, in any other from the start of the text. -/
def diagnose (text : List Char) : ReadError :=
  let size := Text.Utf8.size text
  if size = 0 ∨ 45 < size then .length size
  else match grouped? text, wrapped? text with
    | some content, _ => groupFault 0 size content
    | none, some (content, offset) => groupFault offset size content
    | none, none =>
      -- without any hyphen the text was meant to be the plain 32 digits
      if text.all Text.Hex.isDigit then .length size else groupFault 0 size text

/-- The identifier that a text spells in one of the accepted forms. -/
def ofText? (text : List Char) : Option Uuid :=
  match wrapped? text with
  | some (content, _) => ofGroups? content
  | none => (ofDigits? text).or (ofGroups? text)

/-- Read an identifier. -/
def parse (text : String) : Except ReadError Uuid :=
  match ofText? text.toList with
  | some uuid => .ok uuid
  | none => .error (diagnose text.toList)

/-- Read an identifier from its bytes. -/
def parseBytes (bytes : List UInt8) : Except ReadError Uuid :=
  if bytes.length = 16 then .ok (ofBytes bytes) else .error (.byteCount bytes.length)

end Uuid

end Lifecycle
