/-!
# UTF-8

Characters as one to four bytes. Decoding accepts exactly the shortest form of scalar values and
says of a fault where it starts and, unless the bytes simply ran out, how many bytes belong to it:
those that were a possible beginning of a character, and at least one.
-/

namespace Lifecycle

namespace Text

namespace Utf8

/-- The bytes of a character, shortest form. -/
def encodeChar (c : Char) : List UInt8 :=
  let code := c.toNat
  if code < 0x80 then [UInt8.ofNat code]
  else if code < 0x800 then
    [UInt8.ofNat (0xc0 + code / 0x40), UInt8.ofNat (0x80 + code % 0x40)]
  else if code < 0x10000 then
    [UInt8.ofNat (0xe0 + code / 0x1000), UInt8.ofNat (0x80 + code / 0x40 % 0x40),
      UInt8.ofNat (0x80 + code % 0x40)]
  else
    [UInt8.ofNat (0xf0 + code / 0x40000), UInt8.ofNat (0x80 + code / 0x1000 % 0x40),
      UInt8.ofNat (0x80 + code / 0x40 % 0x40), UInt8.ofNat (0x80 + code % 0x40)]

/-- The bytes of a text. -/
def encode (text : List Char) : List UInt8 :=
  text.flatMap encodeChar

/-- The number of bytes of a text. -/
def size (text : List Char) : Nat :=
  (encode text).length

/-- Why bytes are no text. -/
inductive Error where
  /-- From `index` on, `length` bytes cannot be part of any character. -/
  | invalid (length index : Nat)
  /-- The bytes ran out within the character that starts at `index`. -/
  | incomplete (index : Nat)
deriving DecidableEq, Repr

namespace Error

/-- The error in words. -/
def message : Error → String
  | invalid length index =>
    "invalid utf-8 sequence of " ++ toString length ++ " bytes from index " ++ toString index
  | incomplete index => "incomplete utf-8 byte sequence from index " ++ toString index

end Error

/-- Whether a byte lies between two bounds. -/
def within (low high : Nat) (byte : UInt8) : Bool :=
  low ≤ byte.toNat && byte.toNat ≤ high

/-- Whether a byte continues a character. -/
def isContinuation (byte : UInt8) : Bool :=
  within 0x80 0xbf byte

/-- Whether a byte may follow the first byte of a three-byte character: no overlong form and no
surrogate. -/
def followsThree (first second : UInt8) : Bool :=
  if first.toNat = 0xe0 then within 0xa0 0xbf second
  else if first.toNat = 0xed then within 0x80 0x9f second
  else isContinuation second

/-- Whether a byte may follow the first byte of a four-byte character: no overlong form and nothing
above U+10FFFF. -/
def followsFour (first second : UInt8) : Bool :=
  if first.toNat = 0xf0 then within 0x90 0xbf second
  else if first.toNat = 0xf4 then within 0x80 0x8f second
  else isContinuation second

/-- The six bits that a continuing byte contributes. -/
def payload (byte : UInt8) : Nat :=
  byte.toNat - 0x80

/-- Decode bytes of which the first has the given index. -/
def decodeFrom (index : Nat) : List UInt8 → Except Error (List Char)
  | [] => .ok []
  | first :: rest =>
    if first.toNat < 0x80 then
      (decodeFrom (index + 1) rest).map (Char.ofNat first.toNat :: ·)
    else if within 0xc2 0xdf first then
      match rest with
      | [] => .error (.incomplete index)
      | second :: rest =>
        if isContinuation second then
          (decodeFrom (index + 2) rest).map
            (Char.ofNat ((first.toNat - 0xc0) * 0x40 + payload second) :: ·)
        else .error (.invalid 1 index)
    else if within 0xe0 0xef first then
      match rest with
      | [] => .error (.incomplete index)
      | second :: rest =>
        if followsThree first second then
          match rest with
          | [] => .error (.incomplete index)
          | third :: rest =>
            if isContinuation third then
              (decodeFrom (index + 3) rest).map
                (Char.ofNat ((first.toNat - 0xe0) * 0x1000 + payload second * 0x40 +
                  payload third) :: ·)
            else .error (.invalid 2 index)
        else .error (.invalid 1 index)
    else if within 0xf0 0xf4 first then
      match rest with
      | [] => .error (.incomplete index)
      | second :: rest =>
        if followsFour first second then
          match rest with
          | [] => .error (.incomplete index)
          | third :: rest =>
            if isContinuation third then
              match rest with
              | [] => .error (.incomplete index)
              | fourth :: rest =>
                if isContinuation fourth then
                  (decodeFrom (index + 4) rest).map
                    (Char.ofNat ((first.toNat - 0xf0) * 0x40000 + payload second * 0x1000 +
                      payload third * 0x40 + payload fourth) :: ·)
                else .error (.invalid 3 index)
            else .error (.invalid 2 index)
        else .error (.invalid 1 index)
    else .error (.invalid 1 index)

/-- Decode bytes. -/
def decode (bytes : List UInt8) : Except Error (List Char) :=
  decodeFrom 0 bytes

end Utf8

end Text

end Lifecycle
