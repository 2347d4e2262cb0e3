import PeerLink.Decimal.Binary64

/-!
The text of a floating-point number: the fewest decimal digits that still round to it, and of those
the nearest, in positional notation with at least one place behind the point.
-/

set_option autoImplicit false
set_option relaxedAutoImplicit false

namespace PeerLink.Binary64

/-- The decimal numbers that round to a finite number, in quarters of its last binary place, and
whether both ends belong to them. -/
structure Interval where
  low : Nat
  middle : Nat
  high : Nat
  closed : Bool
  exponent : Int

/-- Below a power of two the numbers lie twice as close. -/
def interval (significand : Nat) (exponent : Int) : Interval where
  low :=
    if significand = Nat.pow 2 52 ∧ leastExponent < exponent then 4 * significand - 1
    else 4 * significand - 2
  middle := 4 * significand
  high := 4 * significand + 2
  closed := significand % 2 = 0
  exponent := exponent - 2

/-- The nearest multiple of that power of ten inside an interval, if there is one; a tie goes up. -/
def Interval.multiple? (interval : Interval) (power : Int) : Option Nat :=
  let (unit, binary) := scaled 2 (-interval.exponent) 1 1
  let (unit, tenth) := scaled 10 power unit 1
  let place := fun quarters : Nat ↦ quarters * binary * tenth
  let inside := fun count : Nat ↦
    if interval.closed then place interval.low ≤ count * unit ∧ count * unit ≤ place interval.high
    else place interval.low < count * unit ∧ count * unit < place interval.high
  let below := place interval.middle / unit
  let nearAbove := unit ≤ 2 * (place interval.middle % unit)
  let candidates := if nearAbove then [below + 1, below] else [below, below + 1]
  candidates.find? fun count ↦ decide (inside count)

/-- The first power of ten, from `power` down, that has a multiple inside the interval. -/
def Interval.search (interval : Interval) : Nat → Int → Nat × Int
  | 0, power => (0, power)
  | steps + 1, power =>
    match interval.multiple? power with
    | some count => (count, power)
    | none => interval.search steps (power - 1)

/-- The digits of a positive number and the power of ten they count. Seventeen digits always
suffice, and the search starts at most three places above the first. -/
def shortest (significand : Nat) (exponent : Int) : Nat × Int :=
  let magnitude := (significand.log2 : Int) + exponent + 1
  (interval significand exponent).search 24 (Int.fdiv (magnitude * 30103) 100000 + 1)

/-- A count of a power of ten in positional notation. -/
def positional (count : Nat) (power : Int) : String :=
  let digits := Nat.toDigits 10 count
  if 0 ≤ power then
    String.ofList (digits ++ List.replicate power.toNat '0') ++ ".0"
  else
    let places := (-power).toNat
    let padded := List.replicate (places + 1 - digits.length) '0' ++ digits
    let whole := padded.length - places
    String.ofList (padded.take whole) ++ "." ++ String.ofList (padded.drop whole)

def text : Binary64 → String
  | nan => "NaN"
  | infinite negative => if negative then "-inf" else "inf"
  | finite negative significand exponent =>
    let (count, power) := if significand = 0 then (0, 0) else shortest significand exponent
    (if negative then "-" else "") ++ positional count power

end PeerLink.Binary64
