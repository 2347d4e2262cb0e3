import PeerLink.Link.Scene

/-!
Streams beside the record of all calls on them. The record changes nothing: a call on a recorded
stream is the call on the stream itself, and is noted with its outcome.
-/

set_option autoImplicit false
set_option relaxedAutoImplicit false

namespace PeerLink

/-- A call on a stream and how it ended. -/
inductive Exchange where
  | read (limit : Nat) (outcome : Attempt (Except TransportFault Bytes))
  | write (offered : Bytes) (outcome : Attempt (Except TransportFault Nat))
  | flush (outcome : Attempt (Except TransportFault Unit))
  | shutdown (outcome : Attempt (Except TransportFault Unit))

namespace Exchange

/-- What the stream took of the octets that it was offered. -/
def accepted : Exchange → Bytes
  | write offered (.done (.ok count)) => offered.take count
  | _ => []

/-- The fault that the call met. A write that takes nothing counts as `stuck`. -/
def fault? (stuck : TransportFault) : Exchange → Option TransportFault
  | read _ (.done (.error fault)) | write _ (.done (.error fault)) | flush (.done (.error fault))
  | shutdown (.done (.error fault)) => some fault
  | write _ (.done (.ok 0)) => some stuck
  | _ => none

/-- Whether the call was given up before it ended. -/
def isAbandoned : Exchange → Bool
  | read _ .expired | write _ .expired | flush .expired | shutdown .expired => true
  | _ => false

end Exchange

structure Recorded (σ : Type) where
  stream : σ
  exchanges : List Exchange := []

namespace Recorded

variable {σ α : Type}

/-- The call that ended as `timed`, noted behind `exchanges`. -/
def note (exchange : Attempt α → Exchange) (exchanges : List Exchange) (timed : Timed σ α) :
    Timed (Recorded σ) α :=
  ⟨timed.outcome, timed.now, ⟨timed.stream, exchanges ++ [exchange timed.outcome]⟩⟩

instance [ByteStream σ] : ByteStream (Recorded σ) where
  read limit now deadline recorded :=
    note (.read limit) recorded.exchanges (ByteStream.read limit now deadline recorded.stream)
  write bytes now deadline recorded :=
    note (.write bytes) recorded.exchanges (ByteStream.write bytes now deadline recorded.stream)
  flush now deadline recorded :=
    note .flush recorded.exchanges (ByteStream.flush now deadline recorded.stream)
  shutdown now deadline recorded :=
    note .shutdown recorded.exchanges (ByteStream.shutdown now deadline recorded.stream)
  release recorded := { recorded with stream := ByteStream.release recorded.stream }
  incoming recorded := ByteStream.incoming recorded.stream
  incoming_read := ByteStream.incoming_read

end Recorded

namespace Scene

variable {σ : Type}

/-- The scene with a record that is still empty. -/
def recorded (scene : Scene σ) : Scene (Recorded σ) := { scene with stream := ⟨scene.stream, []⟩ }

/-- The scene without the record. -/
def unrecorded (scene : Scene (Recorded σ)) : Scene σ :=
  { scene with stream := scene.stream.stream }

end Scene

end PeerLink
