/-!
Work under a deadline on a clock of whole milliseconds. Work is tried before its deadline is looked
at, so work that is ready at the deadline itself still counts.
-/

set_option autoImplicit false
set_option relaxedAutoImplicit false

namespace PeerLink

/-- What became of work under a deadline. -/
inductive Attempt (α : Type) where
  | done (value : α)
  | expired
  deriving DecidableEq

namespace Attempt

variable {α β : Type}

def map (f : α → β) : Attempt α → Attempt β
  | done value => .done (f value)
  | expired => .expired

theorem ne_done_of_expired {attempt : Attempt α} (h : attempt = expired) (value : α) :
    attempt ≠ done value := by
  rw [h]
  nofun

theorem ne_ok_of_error {ε : Type} {attempt : Attempt (Except ε α)} {failure : ε}
    (h : attempt = done (.error failure)) (value : α) : attempt ≠ done (.ok value) := by
  rw [h]
  nofun

end Attempt

/-- An attempt on a stream, the time at which it ended and the stream it left behind. -/
structure Timed (σ α : Type) where
  outcome : Attempt α
  now : Nat
  stream : σ

end PeerLink
