/-!
Floating-point numbers of double precision: 53 binary digits and exponents from -1074 to 971. A
decimal number is rounded to the nearest of them, a tie going to the even significand.
-/

set_option autoImplicit false
set_option relaxedAutoImplicit false

namespace PeerLink

/-- A finite number is its significand times that power of two. -/
inductive Binary64 where
  | finite (negative : Bool) (significand : Nat) (exponent : Int)
  | infinite (negative : Bool)
  | nan
  deriving DecidableEq

namespace Binary64

def leastExponent : Int := -1074

def greatestExponent : Int := 971

def zero (negative : Bool) : Binary64 := finite negative 0 leastExponent

/-- The natural number nearest to a quotient, a tie going to the even one. -/
def roundQuotient (numerator denominator : Nat) : Nat :=
  let quotient := numerator / denominator
  let remainder := numerator % denominator
  if denominator < 2 * remainder ∨ denominator = 2 * remainder ∧ quotient % 2 = 1 then
    quotient + 1
  else quotient

/-- Two sides of a comparison with `base ^ exponent` multiplied onto the first; a negative power
goes to the second instead. -/
def scaled (base : Nat) (exponent : Int) (first second : Nat) : Nat × Nat :=
  (first * base.pow exponent.toNat, second * base.pow (-exponent).toNat)

/-- The greatest power of two that is not above a positive quotient. -/
def binaryMagnitude (numerator denominator : Nat) : Int :=
  let guess : Int := (numerator.log2 : Int) - denominator.log2
  let (low, high) := scaled 2 guess denominator numerator
  if low ≤ high then guess else guess - 1

/-- The nearest number of double precision to a positive quotient, and infinity beyond the greatest
of them. -/
def ofQuotient (negative : Bool) (numerator denominator : Nat) : Binary64 :=
  let exponent := max leastExponent (binaryMagnitude numerator denominator - 52)
  let (denominator, numerator) := scaled 2 exponent denominator numerator
  let significand := roundQuotient numerator denominator
  let (significand, exponent) :=
    if significand = Nat.pow 2 53 then (Nat.pow 2 52, exponent + 1) else (significand, exponent)
  if greatestExponent < exponent then infinite negative
  else finite negative significand exponent

/-- `digits` times that power of ten. Powers far beyond the range are not worked out. -/
def ofDecimal (negative : Bool) (digits : Nat) (exponent : Int) : Binary64 :=
  let magnitude : Int := (Nat.toDigits 10 digits).length + exponent
  if digits = 0 ∨ magnitude < -330 then zero negative
  else if 310 < magnitude then infinite negative
  else
    let (numerator, denominator) := scaled 10 exponent digits 1
    ofQuotient negative numerator denominator

end Binary64

end PeerLink
