import Lifecycle.Json.Error

/-!
# Numbers of JSON documents

Reading a number has two steps. `Literal.read` takes the digits by the grammar. `Literal.value`
says what they mean: an integer that fits 64 bits is exact, and anything else becomes a
floating-point number, made of as many leading digits as fit 64 bits and a power of ten.
-/

namespace Lifecycle

namespace Json

open Number (Binary64)

/-- The digits of a number as they are written. -/
structure Literal where
  /-- Whether a minus sign stands before the number. -/
  negative : Bool
  /-- The digits before the point. -/
  whole : List Char
  /-- The digits after the point, if there is one. -/
  fraction : Option (List Char)
  /-- The sign and the digits of the exponent, if there is one. -/
  exponent : Option (Bool × List Char)
deriving DecidableEq, Repr

namespace Literal

/-- The leading decimal digits of a text, and the rest. -/
def digits (text : List Char) : List Char × List Char :=
  (text.takeWhile Char.isDigit, text.dropWhile Char.isDigit)

/-- At least one digit, and the rest. -/
def someDigits (text : List Char) : Except Error (List Char × List Char) :=
  match text with
  | [] => .error .endInValue
  | c :: _ => if c.isDigit then .ok (digits text) else .error .invalidNumber

/-- The digits before the point: a single zero, or digits that do not begin with zero. -/
def readWhole (text : List Char) : Except Error (List Char × List Char) :=
  match text with
  | '0' :: rest =>
    if (rest.head?.any Char.isDigit) then .error .invalidNumber else .ok (['0'], rest)
  | _ => someDigits text

/-- The digits after the point, if a point follows. -/
def readFraction (text : List Char) : Except Error (Option (List Char) × List Char) :=
  match text with
  | '.' :: rest => (someDigits rest).map fun (found, rest) => (some found, rest)
  | _ => .ok (none, text)

/-- The exponent, if one follows: its letter, a sign that may be left out, and digits. -/
def readExponent (text : List Char) :
    Except Error (Option (Bool × List Char) × List Char) :=
  match text with
  | letter :: rest =>
    if letter = 'e' ∨ letter = 'E' then
      match rest with
      | '-' :: rest => (someDigits rest).map fun (found, rest) => (some (true, found), rest)
      | '+' :: rest => (someDigits rest).map fun (found, rest) => (some (false, found), rest)
      | _ => (someDigits rest).map fun (found, rest) => (some (false, found), rest)
    else .ok (none, text)
  | [] => .ok (none, text)

/-- Read a number after its sign. -/
def read (negative : Bool) (text : List Char) : Except Error (Literal × List Char) := do
  let (whole, text) ← readWhole text
  let (fraction, text) ← readFraction text
  let (exponent, text) ← readExponent text
  return ({ negative, whole, fraction, exponent }, text)

/-- The natural that some digits spell. -/
def natural (digits : List Char) : Nat :=
  digits.foldl (fun number c => 10 * number + (c.toNat - '0'.toNat)) 0

/-- Extend a significand by digits while it fits 64 bits; the digits that no longer fit are left. -/
def absorb (significand : Nat) : List Char → Nat × List Char
  | [] => (significand, [])
  | c :: rest =>
    let extended := 10 * significand + (c.toNat - '0'.toNat)
    if extended < UInt64.size then absorb extended rest else (significand, c :: rest)

/-- A number divided by `10 ^ power`, at most `10 ^ 308` at a time. -/
def shrink (number : Binary64) (power : Nat) : Binary64 :=
  if power ≤ 308 then number.div (.ofNat (Nat.pow 10 power))
  else if number.mantissa = 0 then .zero
  else shrink (number.div (.ofNat (Nat.pow 10 308))) (power - 308)
termination_by power

/-- A significand times a power of ten, refused when it is too large. -/
def magnitude (significand : Nat) (exponent : Int) : Except Error Binary64 :=
  let number := Binary64.ofNat significand
  match exponent with
  | .ofNat power =>
    if power ≤ 308 then
      let product := number.mul (.ofNat (Nat.pow 10 power))
      if product.isInfinite then .error .numberOutOfRange else .ok product
    else if significand = 0 then .ok .zero
    else .error .numberOutOfRange
  | .negSucc power => .ok (shrink number (power + 1))

/-- The exponent as an integer, zero when there is none. -/
def exponentValue (literal : Literal) : Int :=
  match literal.exponent with
  | none => 0
  | some (negative, digits) =>
    if negative then -(natural digits : Int) else natural digits

/-- The number as a floating-point number. -/
def real (literal : Literal) : Except Error Numeral :=
  let fraction := literal.fraction.getD []
  -- digits dropped before the point count for the exponent, those after it do not count at all
  let (significand, dropped) := absorb 0 literal.whole
  let (significand, ignored) := absorb significand fraction
  let taken := fraction.length - ignored.length
  (magnitude significand (dropped.length - taken + literal.exponentValue)).map
    (.real literal.negative)

/-- What the number means. Minus zero and integers of more than 64 bits are no integers here. -/
def value (literal : Literal) : Except Error Numeral :=
  if literal.fraction.isNone ∧ literal.exponent.isNone then
    let number := natural literal.whole
    if literal.negative then
      if 0 < number ∧ number ≤ Nat.pow 2 63 then .ok (.integer (-number)) else literal.real
    else if number < UInt64.size then .ok (.integer number) else literal.real
  else literal.real

end Literal

/-- Read the number that a text begins with, its sign included. -/
def readNumeral (text : List Char) : Except Error (Numeral × List Char) := do
  let (literal, rest) ← match text with
    | '-' :: rest => Literal.read true rest
    | _ => Literal.read false text
  return (← literal.value, rest)

/-- Pass over the number that a text begins with. Its value does not matter, and any breach of the
grammar is the same one. -/
def skipNumeral (text : List Char) : Except Error (List Char) :=
  let literal := match text with
    | '-' :: rest => Literal.read true rest
    | _ => Literal.read false text
  match literal with
  | .ok (_, rest) => .ok rest
  | .error _ => .error .invalidNumber

end Json

end Lifecycle
