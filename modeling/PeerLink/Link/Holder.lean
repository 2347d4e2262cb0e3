import PeerLink.Link.Connection
import PeerLink.Link.OneShot

/-!
What the owner of a stream does with it over time: packets through a connection, or, once the
connection is unwrapped, octets through the bare stream. Unwrapping and dropping a connection lose
what it had buffered.
-/

set_option autoImplicit false
set_option relaxedAutoImplicit false

namespace PeerLink

/-- How a stream is held. -/
inductive Holder where
  | framed (connection : Connection)
  | bare
  | gone

inductive Action where
  | send (packet : Packet)
  | receive
  | limits (send receive : Duration)
  | close
  | drop
  | unwrap
  | write (bytes : Bytes)
  | read (limit : Nat)
  | rewrap

/-- The answer to an action; `never` stands for a wait that outlasted every patience. -/
inductive Answer where
  | done
  | packet (packet : Packet)
  | octets (bytes : Bytes)
  | failed (failure : ProtocolError)
  | never

namespace Answer

def ofUnit : Except ProtocolError Unit → Answer
  | .ok () => done
  | .error failure => failed failure

def ofPacket : Except ProtocolError Packet → Answer
  | .ok received => packet received
  | .error failure => failed failure

def ofAttempt {α : Type} (answer : Except ProtocolError α → Answer) :
    Attempt (Except ProtocolError α) → Answer
  | .done result => answer result
  | .expired => never

end Answer

namespace Holder

variable {σ : Type} [ByteStream σ]

def writeBare (bytes : Bytes) (deadline : Nat) (scene : Scene σ) : Answer × Scene σ :=
  let drain := ByteStream.drain OneShot.writeZero deadline bytes scene.now scene.stream
  let attempt := drain.outcome.map fun result ↦ result.mapError ProtocolError.transport
  (.ofAttempt .ofUnit attempt, scene.moveTo drain.now drain.stream)

def readBare (limit deadline : Nat) (scene : Scene σ) : Answer × Scene σ :=
  let reading := ByteStream.read limit scene.now deadline scene.stream
  let scene := scene.moveTo reading.now reading.stream
  match reading.outcome with
  | .done (.ok bytes) => (.octets bytes, scene)
  | .done (.error fault) => (.failed (.transport fault), scene)
  | .expired => (.never, scene)

/-- One action, given up after `patience` where it has no deadline of its own. An action that the
holder cannot take has no answer. -/
def act (patience : Duration) (action : Action) (holder : Holder) (scene : Scene σ) :
    Option (Answer × Holder × Scene σ) :=
  match holder, action with
  | framed connection, .send packet =>
    let (result, connection, scene) := connection.send packet scene
    some (.ofUnit result, framed connection, scene)
  | framed connection, .receive =>
    let (result, connection, scene) := connection.receive scene
    some (.ofPacket result, framed connection, scene)
  | framed connection, .limits send receive =>
    some (.done, framed (connection.withLimits send receive), scene)
  | framed connection, .close =>
    let (attempt, scene) := connection.close (scene.deadline patience) scene
    some (.ofAttempt .ofUnit attempt, gone, scene)
  | framed _, .drop => some (.done, gone, Connection.release scene)
  | framed _, .unwrap => some (.done, bare, Connection.retire scene)
  | bare, .write bytes =>
    let (answer, scene) := writeBare bytes (scene.deadline patience) scene
    some (answer, bare, scene)
  | bare, .read limit =>
    let (answer, scene) := readBare limit (scene.deadline patience) scene
    some (answer, bare, scene)
  | bare, .rewrap => some (.done, framed {}, Connection.register scene)
  | bare, .drop =>
    some (.done, gone, { scene with stream := ByteStream.release scene.stream })
  | _, _ => none

end Holder

end PeerLink
