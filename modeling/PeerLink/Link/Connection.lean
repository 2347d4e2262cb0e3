import PeerLink.Link.Scene
import PeerLink.Wire.FrameBuffer

/-!
A long-lived packet stream. Reads are gathered in the inbox until a frame is complete, and packets
wait in the outbox until the stream has accepted them, so neither a split frame nor an abandoned
call loses an octet. After an error the next receive reports that the connection is closed, and
later ones go on with whatever the next read brings.
-/

set_option autoImplicit false
set_option relaxedAutoImplicit false

namespace PeerLink

/-- Whether the inbox is worth looking at: not before another read, at once, or not until the end
has been reported after an error. -/
inductive ReadMode where
  | waiting
  | ready
  | failed
  deriving DecidableEq

structure Connection where
  options : DecodeOptions := {}
  /-- The inbox is filled up to this size, and an outbox of this size is emptied before more is
  put into it. -/
  capacity : Nat := 8192
  inbox : Bytes := []
  outbox : Bytes := []
  inputEnded : Bool := false
  mode : ReadMode := .waiting
  sendLimit : Duration := .standard
  receiveLimit : Duration := .standard

namespace Connection

variable {σ : Type}

def withLimits (sendLimit receiveLimit : Duration) (connection : Connection) : Connection :=
  { connection with sendLimit, receiveLimit }

/-- A connection counts as live from here to `retire`. -/
def register (scene : Scene σ) : Scene σ := scene.count Counters.established

def retire (scene : Scene σ) : Scene σ := scene.count Counters.closed

/-- How much a read may bring: up to the capacity, to the end of the frame that has begun, and at
least one octet. A capacity that could not hold a length field is raised to eight octets. -/
def room (connection : Connection) : Nat :=
  let base := if connection.capacity < 2 then 8 else connection.capacity
  let frame := (FrameBuffer.frameSize? connection.inbox).getD 0
  max (max base frame) (connection.inbox.length + 1) - connection.inbox.length

/-- A result from the inbox alone, if there is one. -/
def takeReady (connection : Connection) :
    Option (Except ProtocolError Packet) × Connection :=
  let step :=
    if connection.inputEnded then FrameBuffer.finalStep connection.options connection.inbox
    else FrameBuffer.step connection.options connection.inbox
  match step with
  | .packet packet inbox => (some (.ok packet), { connection with inbox })
  | .failed failure inbox => (some (.error failure), { connection with inbox, mode := .failed })
  | .waiting =>
    (if connection.inputEnded then some (.error .connectionClosed) else none,
      { connection with mode := .waiting })

/-- A receive under way: how it ended, the connection, the time and the stream. -/
structure Reception (σ : Type) where
  outcome : Attempt (Except ProtocolError Packet)
  connection : Connection
  now : Nat
  stream : σ

section Streams

variable [ByteStream σ]

/-- Reads until the inbox gives a result. -/
def gather (deadline : Nat) (connection : Connection) (now : Nat) (stream : σ) : Reception σ :=
  let reading := ByteStream.read connection.room now deadline stream
  match _h : reading.outcome with
  | .expired => ⟨.expired, connection, reading.now, reading.stream⟩
  | .done (.error fault) =>
    ⟨.done (.error (.transport fault)), { connection with mode := .failed }, reading.now,
      reading.stream⟩
  | .done (.ok []) =>
    if connection.inputEnded then
      ⟨.done (.error .connectionClosed), connection, reading.now, reading.stream⟩
    else
      let (result, connection) :=
        { connection with inputEnded := true, mode := .ready }.takeReady
      ⟨.done (result.getD (.error .connectionClosed)), connection, reading.now, reading.stream⟩
  | .done (.ok (octet :: octets)) =>
    let inbox := connection.inbox ++ octet :: octets
    match { connection with inbox, inputEnded := false, mode := .ready }.takeReady with
    | (some result, connection) => ⟨.done result, connection, reading.now, reading.stream⟩
    | (none, connection) => gather deadline connection reading.now reading.stream
termination_by ByteStream.incoming stream
decreasing_by
  have hread := ByteStream.incoming_read _h
  simp only [List.length_cons] at hread
  omega

def receiveFrom (deadline : Nat) (connection : Connection) (now : Nat) (stream : σ) :
    Reception σ :=
  match connection.mode with
  | .failed =>
    ⟨.done (.error .connectionClosed), { connection with mode := .waiting }, now, stream⟩
  | .waiting => gather deadline connection now stream
  | .ready =>
    match connection.takeReady with
    | (some result, connection) => ⟨.done result, connection, now, stream⟩
    | (none, connection) => gather deadline connection now stream

def receiveFailed (failure : ProtocolError) : Log.Event where
  level := .warn
  origin := .connection
  message := "Failed to receive packet"
  fields := [("error", .text failure.message)]

def packetReceived (packet : Packet) : Log.Event where
  level := .debug
  origin := .connection
  message := "Received packet"
  fields :=
    [("message_type", .text packet.type.name), ("length", .number packet.head.length.toNat)]

def receive (connection : Connection) (scene : Scene σ) :
    Except ProtocolError Packet × Connection × Scene σ :=
  let reception :=
    receiveFrom (scene.deadline connection.receiveLimit) connection scene.now scene.stream
  let scene := scene.moveTo reception.now reception.stream
  match reception.outcome.orTimeout with
  | .error failure =>
    (.error failure, reception.connection,
      (scene.note [receiveFailed failure]).count (Counters.failed failure))
  | .ok packet =>
    (.ok packet, reception.connection,
      (scene.note [packetReceived packet]).count
        (Counters.received (UInt64.ofNat packet.wireLength)))

/-- The fault of a stream that accepts nothing of the outbox. -/
def frameNotWritten : TransportFault := ⟨.writeZero, "failed to write frame to transport"⟩

/-- Empties the outbox into the stream and flushes it. -/
def emptyOutbox (deadline : Nat) (outbox : Bytes) (now : Nat) (stream : σ) : Drain σ :=
  ByteStream.drainAndFlush frameNotWritten deadline outbox now stream

/-- A send under way: how it ended, the outbox, the time and the stream. -/
structure Dispatch (σ : Type) where
  outcome : Attempt (Except ProtocolError Unit)
  outbox : Bytes
  now : Nat
  stream : σ

namespace Dispatch

def ofDrain (drain : Drain σ) : Dispatch σ where
  outcome := drain.outcome.map fun result ↦ result.mapError ProtocolError.transport
  outbox := drain.left
  now := drain.now
  stream := drain.stream

end Dispatch

/-- Puts the wire form of `packet` into the outbox and empties it. -/
def push (deadline : Nat) (packet : Packet) (outbox : Bytes) (now : Nat) (stream : σ) :
    Dispatch σ :=
  match packet.appendTo outbox with
  | .error failure => ⟨.done (.error failure), outbox, now, stream⟩
  | .ok outbox => .ofDrain (emptyOutbox deadline outbox now stream)

/-- An outbox that has reached the capacity is emptied before anything is added. -/
def sendTo (deadline : Nat) (connection : Connection) (packet : Packet) (now : Nat) (stream : σ) :
    Dispatch σ :=
  if connection.capacity ≤ connection.outbox.length then
    let drain := emptyOutbox deadline connection.outbox now stream
    match drain.outcome with
    | .done (.ok ()) => push deadline packet drain.left drain.now drain.stream
    | _ => .ofDrain drain
  else
    push deadline packet connection.outbox now stream

def sendFailed (failure : ProtocolError) : Log.Event where
  level := .warn
  origin := .connection
  message := "Failed to send packet"
  fields := [("error", .text failure.message)]

def send (connection : Connection) (packet : Packet) (scene : Scene σ) :
    Except ProtocolError Unit × Connection × Scene σ :=
  let dispatch :=
    sendTo (scene.deadline connection.sendLimit) connection packet scene.now scene.stream
  let connection := { connection with outbox := dispatch.outbox }
  let scene := scene.moveTo dispatch.now dispatch.stream
  match dispatch.outcome.orTimeout with
  | .error failure =>
    (.error failure, connection,
      (scene.note [sendFailed failure]).count (Counters.failed failure))
  | .ok () =>
    (.ok (), connection, scene.count (Counters.sent (UInt64.ofNat packet.wireLength)))

def closedNotice : Log.Event where
  level := .debug
  origin := .connection
  message := "Connection closed"

/-- The stream once the connection is gone, however it went. -/
def release (scene : Scene σ) : Scene σ :=
  retire { scene with stream := ByteStream.release scene.stream }

/-- Empties the outbox and ends the stream's outgoing direction. The connection is over in every
case. -/
def close (connection : Connection) (deadline : Nat) (scene : Scene σ) :
    Attempt (Except ProtocolError Unit) × Scene σ :=
  let drain := emptyOutbox deadline connection.outbox scene.now scene.stream
  let ending : Timed σ (Except TransportFault Unit) :=
    match drain.outcome with
    | .done (.ok ()) => ByteStream.shutdown drain.now deadline drain.stream
    | outcome => ⟨outcome, drain.now, drain.stream⟩
  let scene := scene.moveTo ending.now ending.stream
  match ending.outcome with
  | .expired => (.expired, release scene)
  | .done (.error fault) => (.done (.error (.transport fault)), release scene)
  | .done (.ok ()) => (.done (.ok ()), release (scene.note [closedNotice]))

end Streams

end Connection

end PeerLink
