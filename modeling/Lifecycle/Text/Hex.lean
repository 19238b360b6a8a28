/-!
# Hexadecimal digits

One digit as a number and back, and bytes written as pairs of digits. Reading takes both cases and
writing gives lower case.
-/

namespace Lifecycle

namespace Text

namespace Hex

/-- The value of a digit of either case. -/
def value? (c : Char) : Option Nat :=
  if '0' ≤ c ∧ c ≤ '9' then some (c.toNat - '0'.toNat)
  else if 'a' ≤ c ∧ c ≤ 'f' then some (c.toNat - 'a'.toNat + 10)
  else if 'A' ≤ c ∧ c ≤ 'F' then some (c.toNat - 'A'.toNat + 10)
  else none

/-- Whether a character is a digit of either case. -/
def isDigit (c : Char) : Bool :=
  (value? c).isSome

/-- The digit of a value below sixteen, in lower case. -/
def digit (value : Nat) : Char :=
  if value < 10 then Char.ofNat ('0'.toNat + value) else Char.ofNat ('a'.toNat + (value - 10))

/-- The digits of a number, at least one, in lower case. -/
def digits (number : Nat) : List Char :=
  if number < 16 then [digit number] else digits (number / 16) ++ [digit (number % 16)]

/-- The last `width` digits of a number, padded with zeros. -/
def padded (width number : Nat) : List Char :=
  match width with
  | 0 => []
  | width + 1 => padded width (number / 16) ++ [digit (number % 16)]

/-- The number that some digits spell, absent when one of them is no digit. -/
def number? (digits : List Char) : Option Nat :=
  digits.foldlM (fun number c => (value? c).map fun value => 16 * number + value) 0

/-- A byte as two digits. -/
def ofByte (byte : UInt8) : List Char :=
  [digit (byte.toNat / 16), digit (byte.toNat % 16)]

/-- Bytes as text. -/
def ofBytes (bytes : List UInt8) : String :=
  String.ofList (bytes.flatMap ofByte)

/-- The bytes that a text of digit pairs spells. -/
def toBytes? : List Char → Option (List UInt8)
  | [] => some []
  | [_] => none
  | high :: low :: rest => do
    let high ← value? high
    let low ← value? low
    let bytes ← toBytes? rest
    return UInt8.ofNat (16 * high + low) :: bytes

end Hex

end Text

end Lifecycle
