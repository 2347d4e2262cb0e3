import PeerLink.Counters
import PeerLink.Stream.Basic
import PeerLink.Time.Duration

/-!
Where traffic takes place: a clock in whole milliseconds, the stream in use, the traffic counters
and the log. Operations are functions from scene to scene.
-/

set_option autoImplicit false
set_option relaxedAutoImplicit false

namespace PeerLink

structure Scene (σ : Type) where
  now : Nat := 0
  stream : σ
  counters : Counters := {}
  log : List Log.Event := []

namespace Scene

variable {σ α : Type}

/-- The scene at a later time, with the stream as it is then. -/
def moveTo (now : Nat) (stream : σ) (scene : Scene σ) : Scene σ :=
  { scene with now, stream }

def count (change : Counters → Counters) (scene : Scene σ) : Scene σ :=
  { scene with counters := change scene.counters }

def note (events : List Log.Event) (scene : Scene σ) : Scene σ :=
  { scene with log := scene.log ++ events }

/-- The time at which `limit` has passed. -/
def deadline (limit : Duration) (scene : Scene σ) : Nat := scene.now + limit.ticks

end Scene

namespace Attempt

/-- Abandoned work is a timeout. -/
def orTimeout {α : Type} : Attempt (Except ProtocolError α) → Except ProtocolError α
  | done result => result
  | expired => .error .timeout

end Attempt

/-- Work that takes `duration`, or for ever, under the deadline `limit`, both starting at `now`:
its result, or a timeout, and the time then. -/
def underDeadline {α : Type} (limit : Duration) (duration : Option Nat) (now : Nat)
    (result : Except ProtocolError α) : Except ProtocolError α × Nat :=
  match duration with
  | some duration =>
    if duration ≤ limit.ticks then (result, now + duration)
    else (.error .timeout, now + limit.ticks)
  | none => (.error .timeout, now + limit.ticks)

theorem underDeadline_of_le {α : Type} {limit : Duration} {duration : Nat}
    (h : duration ≤ limit.ticks) (now : Nat) (result : Except ProtocolError α) :
    underDeadline limit (some duration) now result = (result, now + duration) := by
  simp only [underDeadline, if_pos h]

end PeerLink
