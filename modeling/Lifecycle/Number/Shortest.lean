import Lifecycle.Number.Binary64

/-!
# Shortest decimal text

Among the decimals that read back as a given binary number, those with the fewest digits are
found first, and the nearest of them is taken. `Style` says how such a decimal is laid out.
-/

namespace Lifecycle

namespace Number

/-- The number `digits * 10 ^ exponent`. -/
structure Decimal where
  /-- The significant digits as one natural. -/
  digits : Nat
  /-- The decimal exponent of the last digit. -/
  exponent : Int
deriving DecidableEq, Repr

namespace Decimal

/-- The same number without trailing zeros among its digits. -/
def trim (decimal : Decimal) : Decimal :=
  if decimal.digits ≠ 0 ∧ decimal.digits % 10 = 0 then
    trim { digits := decimal.digits / 10, exponent := decimal.exponent + 1 }
  else decimal
termination_by decimal.digits
decreasing_by omega

end Decimal

namespace Binary64

/-- The distance from the number down to the end of the interval of reals that round to it, in
quarters of the last bit. It is halved where the mantissa is the least of its binade, because the
numbers below lie closer together. Upwards the distance is always two quarters. -/
def lowerQuarters (number : Binary64) : Nat :=
  if number.mantissa = Nat.pow 2 52 ∧ -1074 < number.exponent then 1 else 2

/-- The count of decimal digits of a natural. -/
def digitCount (value : Nat) : Nat :=
  (Nat.toDigits 10 value).length

/-- The decimal exponent of the leading digit of a ratio of at least `10 ^ (-400)`. -/
def leadingExponent (num den : Nat) : Int :=
  (digitCount (num * Nat.pow 10 400 / den) : Int) - 401

/-- A ratio over `10 ^ exponent`, as a ratio. -/
def overPowerOfTen (num den : Nat) (exponent : Int) : Nat × Nat :=
  match exponent with
  | .ofNat power => (num, den * Nat.pow 10 power)
  | .negSucc power => (num * Nat.pow 10 (power + 1), den)

/-- Whether the decimal `digits * 10 ^ exponent` rounds to the number. The ends of the interval
belong to it when the mantissa is even. -/
def roundsFrom (number : Binary64) (digits : Nat) (exponent : Int) : Bool :=
  let unit := toRatio { number with mantissa := 1 }
  let unitOnGrid := overPowerOfTen unit.1 unit.2 exponent
  let low := (4 * number.mantissa - number.lowerQuarters) * unitOnGrid.1
  let high := (4 * number.mantissa + 2) * unitOnGrid.1
  let point := 4 * digits * unitOnGrid.2
  if number.mantissa % 2 = 0 then low ≤ point && point ≤ high else low < point && point < high

/-- The nearest decimal with `count` digits that reads back, if there is one. -/
def shortestWith? (number : Binary64) (count : Nat) : Option Decimal :=
  let ratio := number.toRatio
  let exponent := leadingExponent ratio.1 ratio.2 - (count : Int) + 1
  let onGrid := overPowerOfTen ratio.1 ratio.2 exponent
  -- the two neighbours of the number among the decimals of this exponent
  let below := onGrid.1 / onGrid.2
  let nearest := roundDiv onGrid.1 onGrid.2
  let other := if nearest = below then below + 1 else below
  if number.roundsFrom nearest exponent then some { digits := nearest, exponent }
  else if number.roundsFrom other exponent then some { digits := other, exponent }
  else none

/-- The shortest decimal that reads back. Seventeen digits always suffice. -/
def shortest (number : Binary64) : Decimal :=
  if number.mantissa = 0 then { digits := 0, exponent := 0 }
  else
    (((List.range 17).findSome? fun count => number.shortestWith? (count + 1)).getD
      { digits := 0, exponent := 0 }).trim

end Binary64

/-- How a decimal is laid out. -/
structure Style where
  /-- The least exponent of the leading digit that is written positionally. -/
  positionalFrom : Int
  /-- The first exponent of the leading digit that is no longer written positionally. -/
  positionalBelow : Int

namespace Style

/-- Positional between `0.00001` and sixteen digits before the point, and always with a fraction;
otherwise one digit before the point and a signed exponent. -/
def standard : Style where
  positionalFrom := -5
  positionalBelow := 16

/-- The exponent after the letter `e`, always with a sign. -/
def exponentText (exponent : Int) : String :=
  "e" ++ (if exponent < 0 then "-" else "+") ++ toString exponent.natAbs

/-- The text of a decimal. -/
def render (layout : Style) (decimal : Decimal) : String :=
  let digits := (toString decimal.digits).toList
  let count := digits.length
  if decimal.digits = 0 then "0.0"
  else
    let leading : Int := decimal.exponent + count - 1
    if layout.positionalFrom ≤ leading ∧ leading < layout.positionalBelow then
      if leading < 0 then
        "0." ++ String.ofList (List.replicate (leading.natAbs - 1) '0' ++ digits)
      else
        let whole := leading.toNat + 1
        let padded := digits ++ List.replicate (whole - count) '0'
        let fraction := padded.drop whole
        String.ofList (padded.take whole) ++ "." ++
          (if fraction.isEmpty then "0" else String.ofList fraction)
    else
      let tail := digits.drop 1
      String.ofList (digits.take 1) ++
        (if tail.isEmpty then "" else "." ++ String.ofList tail) ++ exponentText leading

end Style

end Number

end Lifecycle
