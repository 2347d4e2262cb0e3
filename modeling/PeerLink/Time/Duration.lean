/-!
Lengths of time, exact to the nanosecond. The clock ticks in whole milliseconds, so a deadline is
reached at the first tick at or after it.
-/

set_option autoImplicit false
set_option relaxedAutoImplicit false

namespace PeerLink

structure Duration where
  nanoseconds : Nat
  deriving DecidableEq

namespace Duration

/-- The nanoseconds of a second. -/
def perSecond : Nat := 1000000000

/-- The nanoseconds of a millisecond. -/
def perMillisecond : Nat := 1000000

def ofSeconds (seconds : Nat) : Duration := ⟨seconds * perSecond⟩

def ofMilliseconds (milliseconds : Nat) : Duration := ⟨milliseconds * perMillisecond⟩

def wholeSeconds (duration : Duration) : Nat := duration.nanoseconds / perSecond

/-- The nanoseconds beyond the last whole second. -/
def subsecondNanoseconds (duration : Duration) : Nat := duration.nanoseconds % perSecond

def wholeMilliseconds (duration : Duration) : Nat := duration.nanoseconds / perMillisecond

/-- The ticks until the duration has passed. -/
def ticks (duration : Duration) : Nat :=
  (duration.nanoseconds + (perMillisecond - 1)) / perMillisecond

@[simp] theorem wholeMilliseconds_ofMilliseconds (milliseconds : Nat) :
    (ofMilliseconds milliseconds).wholeMilliseconds = milliseconds := by
  simp [ofMilliseconds, wholeMilliseconds, perMillisecond]

instance : LE Duration := ⟨fun first second ↦ first.nanoseconds ≤ second.nanoseconds⟩

instance : LT Duration := ⟨fun first second ↦ first.nanoseconds < second.nanoseconds⟩

instance (first second : Duration) : Decidable (first ≤ second) :=
  inferInstanceAs (Decidable (first.nanoseconds ≤ second.nanoseconds))

instance (first second : Duration) : Decidable (first < second) :=
  inferInstanceAs (Decidable (first.nanoseconds < second.nanoseconds))

/-- Rounding down to milliseconds does not move a duration below a whole number of them. -/
theorem le_wholeMilliseconds_iff {milliseconds : Nat} {duration : Duration} :
    milliseconds ≤ duration.wholeMilliseconds ↔ ofMilliseconds milliseconds ≤ duration :=
  Nat.le_div_iff_mul_le (by decide)

/-- Rounding down to seconds takes everything before the next second to this one. -/
theorem wholeSeconds_le_iff {seconds : Nat} {duration : Duration} :
    duration.wholeSeconds ≤ seconds ↔ duration < ofSeconds (seconds + 1) := by
  rw [← Nat.lt_add_one_iff]
  exact Nat.div_lt_iff_lt_mul (by decide)

/-- The deadline of an operation that names none. -/
def standard : Duration := ofSeconds 5

end Duration

end PeerLink
