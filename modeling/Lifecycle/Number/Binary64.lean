/-!
# Binary floating-point numbers of 64 bits

Non-negative numbers `mantissa * 2 ^ exponent` with at most 53 bits of mantissa and no exponent
below -1074. A ratio of naturals is rounded to the nearest of them, and of two equally near ones
to the even mantissa; products and quotients are the rounded exact ones. What would need an
exponent above 971 counts as infinite.
-/

namespace Lifecycle

namespace Number

/-- The quotient rounded to the nearest natural, a half to the even one. -/
def roundDiv (num den : Nat) : Nat :=
  let quotient := num / den
  let twice := 2 * (num % den)
  if twice < den then quotient
  else if den < twice then quotient + 1
  else if quotient % 2 = 0 then quotient else quotient + 1

/-- The non-negative number `mantissa * 2 ^ exponent`. -/
structure Binary64 where
  /-- The significant bits. -/
  mantissa : Nat
  /-- The binary exponent of the last significant bit. -/
  exponent : Int
deriving DecidableEq, Repr

namespace Binary64

/-- Zero. -/
def zero : Binary64 := { mantissa := 0, exponent := -1074 }

/-- The ratio `num / den` over `2 ^ exponent`, as a ratio. -/
def scale (num den : Nat) (exponent : Int) : Nat × Nat :=
  match exponent with
  | .ofNat power => (num, den * Nat.pow 2 power)
  | .negSucc power => (num * Nat.pow 2 (power + 1), den)

/-- The number nearest to a ratio. -/
def ofRatio (num den : Nat) : Binary64 :=
  if num = 0 then zero
  else
    -- over the guess the ratio lies between 2 ^ 52 and 2 ^ 54, so that one correction is enough
    let guess : Int := (num.log2 : Int) - (den.log2 : Int) - 53
    let wide := scale num den guess
    let fitting := if wide.2 * Nat.pow 2 53 ≤ wide.1 then guess + 1 else guess
    let exponent := max fitting (-1074)
    let scaled := scale num den exponent
    let mantissa := roundDiv scaled.1 scaled.2
    -- rounding up may reach the next power of two
    if mantissa = Nat.pow 2 53 then { mantissa := Nat.pow 2 52, exponent := exponent + 1 }
    else { mantissa, exponent }

/-- The number as a ratio. -/
def toRatio (number : Binary64) : Nat × Nat :=
  match number.exponent with
  | .ofNat power => (number.mantissa * Nat.pow 2 power, 1)
  | .negSucc power => (number.mantissa, Nat.pow 2 (power + 1))

/-- The number nearest to a natural. -/
def ofNat (value : Nat) : Binary64 :=
  ofRatio value 1

/-- The rounded product. -/
def mul (left right : Binary64) : Binary64 :=
  ofRatio (left.toRatio.1 * right.toRatio.1) (left.toRatio.2 * right.toRatio.2)

/-- The rounded quotient; division by zero gives zero. -/
def div (left right : Binary64) : Binary64 :=
  if right.mantissa = 0 then zero
  else ofRatio (left.toRatio.1 * right.toRatio.2) (left.toRatio.2 * right.toRatio.1)

/-- Whether the number is too large for the format. -/
def isInfinite (number : Binary64) : Bool :=
  971 < number.exponent

end Binary64

end Number

end Lifecycle
