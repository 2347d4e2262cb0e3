import PeerLink.Stream.Basic

/-!
Two ends joined by a bounded pipe in each direction. A write takes what fits and waits while its
pipe is full; a read waits while its pipe is empty, and meets the end of the input once the pipe is
empty and closed. A pipe is closed by a shutdown of its writer and by either end being dropped.
-/

set_option autoImplicit false
set_option relaxedAutoImplicit false

namespace PeerLink.Pipe

/-- One direction. -/
structure Channel where
  capacity : Nat
  content : Bytes := []
  closed : Bool := false

namespace Channel

def close (channel : Channel) : Channel := { channel with closed := true }

/-- The octets a read is handed, unless it has to wait. -/
def take? (limit : Nat) (channel : Channel) : Option (Bytes × Channel) :=
  if channel.content.isEmpty && !channel.closed then none
  else
    some (channel.content.take limit, { channel with content := channel.content.drop limit })

/-- The octets a write gets in, unless it has to wait. -/
def put? (bytes : Bytes) (channel : Channel) : Option (Nat × Channel) :=
  let free := channel.capacity - channel.content.length
  if free = 0 then none
  else
    some (min free bytes.length, { channel with content := channel.content ++ bytes.take free })

end Channel

inductive Side where
  | a
  | b
  deriving DecidableEq

/-- Both directions, named for their writers. -/
structure Duplex where
  fromA : Channel
  fromB : Channel

namespace Duplex

def ofCapacity (capacity : Nat) : Duplex := ⟨{ capacity }, { capacity }⟩

def outgoing (duplex : Duplex) : Side → Channel
  | .a => duplex.fromA
  | .b => duplex.fromB

def incoming (duplex : Duplex) : Side → Channel
  | .a => duplex.fromB
  | .b => duplex.fromA

def setOutgoing (duplex : Duplex) (channel : Channel) : Side → Duplex
  | .a => { duplex with fromA := channel }
  | .b => { duplex with fromB := channel }

def setIncoming (duplex : Duplex) (channel : Channel) : Side → Duplex
  | .a => { duplex with fromB := channel }
  | .b => { duplex with fromA := channel }

end Duplex

/-- The pipes as one side holds them. -/
structure End where
  duplex : Duplex
  side : Side

/-- The end towards a peer that has sent `reply` and nothing after it, and that takes up to
`capacity` octets. -/
def End.toward (capacity : Nat) (reply : Bytes) : End :=
  ⟨⟨{ capacity }, { capacity, content := reply, closed := true }⟩, .a⟩

namespace End

def brokenPipe : TransportFault := ⟨.brokenPipe, "broken pipe"⟩

def read (limit now deadline : Nat) (pipe : End) : Timed End (Except TransportFault Bytes) :=
  match (pipe.duplex.incoming pipe.side).take? limit with
  | none => ⟨.expired, deadline, pipe⟩
  | some (bytes, channel) =>
    ⟨.done (.ok bytes), now,
      { pipe with duplex := pipe.duplex.setIncoming channel pipe.side }⟩

def write (bytes : Bytes) (now deadline : Nat) (pipe : End) :
    Timed End (Except TransportFault Nat) :=
  let channel := pipe.duplex.outgoing pipe.side
  if channel.closed then ⟨.done (.error brokenPipe), now, pipe⟩
  else
    match channel.put? bytes with
    | none => ⟨.expired, deadline, pipe⟩
    | some (count, channel) =>
      ⟨.done (.ok count), now,
        { pipe with duplex := pipe.duplex.setOutgoing channel pipe.side }⟩

def flush (now _deadline : Nat) (pipe : End) : Timed End (Except TransportFault Unit) :=
  ⟨.done (.ok ()), now, pipe⟩

def closeOutgoing (pipe : End) : End :=
  let channel := (pipe.duplex.outgoing pipe.side).close
  { pipe with duplex := pipe.duplex.setOutgoing channel pipe.side }

def shutdown (now _deadline : Nat) (pipe : End) : Timed End (Except TransportFault Unit) :=
  ⟨.done (.ok ()), now, pipe.closeOutgoing⟩

/-- Both directions end with the side that is gone. -/
def release (pipe : End) : End :=
  let pipe := pipe.closeOutgoing
  let channel := (pipe.duplex.incoming pipe.side).close
  { pipe with duplex := pipe.duplex.setIncoming channel pipe.side }

def pending (pipe : End) : Nat := (pipe.duplex.incoming pipe.side).content.length

theorem pending_read {limit now deadline : Nat} {pipe : End} {bytes : Bytes}
    (h : (read limit now deadline pipe).outcome = .done (.ok bytes)) :
    pending (read limit now deadline pipe).stream + bytes.length ≤ pending pipe := by
  unfold read at h ⊢
  split at h
  · cases h
  · rename_i taken channel htake
    cases h
    dsimp only
    unfold Channel.take? at htake
    split at htake
    · cases htake
    · cases htake
      cases hside : pipe.side <;>
        simp only [pending, Duplex.setIncoming, Duplex.incoming, hside, List.length_take,
          List.length_drop] <;> omega

instance : ByteStream End where
  read := read
  write := write
  flush := flush
  shutdown := shutdown
  release := release
  incoming := pending
  incoming_read := pending_read

end End

end PeerLink.Pipe
