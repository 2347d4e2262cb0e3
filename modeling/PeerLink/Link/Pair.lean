import PeerLink.Link.Holder
import PeerLink.Stream.Pipe

/-!
Two holders at the ends of one pair of pipes, sharing clock, counters and log. One side acts at a
time.
-/

set_option autoImplicit false
set_option relaxedAutoImplicit false

namespace PeerLink

structure Pair where
  scene : Scene Pipe.Duplex
  a : Holder
  b : Holder

namespace Pair

/-- Two connections over pipes of `capacity` octets. -/
def connect (capacity : Nat) (a b : Connection) : Pair where
  scene := Connection.register (Connection.register { stream := Pipe.Duplex.ofCapacity capacity })
  a := .framed a
  b := .framed b

def holder (pair : Pair) : Pipe.Side → Holder
  | .a => pair.a
  | .b => pair.b

def setHolder (pair : Pair) (holder : Holder) : Pipe.Side → Pair
  | .a => { pair with a := holder }
  | .b => { pair with b := holder }

def act (patience : Duration) (side : Pipe.Side) (action : Action) (pair : Pair) :
    Option (Answer × Pair) := do
  let scene : Scene Pipe.End := { pair.scene with stream := ⟨pair.scene.stream, side⟩ }
  let (answer, holder, scene) ← (pair.holder side).act patience action scene
  return (answer,
    { pair with scene := { scene with stream := scene.stream.duplex } }.setHolder holder side)

end Pair

end PeerLink
