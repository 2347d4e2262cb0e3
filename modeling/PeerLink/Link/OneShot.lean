import PeerLink.Link.Scene
import PeerLink.Wire.SessionKey

/-!
Single packets over a stream without a connection. `receive` makes one bounded read and decodes the
packet at the front of it, discarding what follows; `send` writes a whole packet and flushes.
Every outcome is counted once, except that an abandoned operation leaves the counters alone.
-/

set_option autoImplicit false
set_option relaxedAutoImplicit false

namespace PeerLink.OneShot

variable {σ : Type} [ByteStream σ]

/-- An operation that may be abandoned at its deadline, and the scene it leaves. -/
abbrev Outcome (σ α : Type) := Attempt (Except ProtocolError α) × Scene σ

def zeroBufferError : ProtocolError :=
  .configuration "Read buffer size must be greater than 0"

def readFailed (fault : TransportFault) : Log.Event where
  level := .error
  origin := .transport
  message := "Error on read from connection"
  fields := [("error", .text fault.text)]

def nothingRead : Log.Event where
  level := .debug
  origin := .transport
  message := "Received 0 bytes"

def bytesRead (bytes : Bytes) : Log.Event where
  level := .trace
  origin := .transport
  message := "Received bytes"
  fields := [("bytes", .number bytes.length), ("data", .text (Bytes.decimalList bytes))]

def decodeFailed (failure : ProtocolError) (size : Nat) : Log.Event where
  level := .warn
  origin := .transport
  message := "Unable to decode packet"
  fields := [("error", .text failure.message), ("bytes", .number size)]

def discarded (count : Nat) : Log.Event where
  level := .debug
  origin := .transport
  message := "Bytes after packet discarded"
  fields := [("discarded", .number count)]

def packetReceived (packet : Packet) : Log.Event where
  level := .debug
  origin := .transport
  message := "Received packet"
  fields :=
    [("message_type", .text packet.type.name),
     ("version", .number packet.head.version.toNat),
     ("length", .number packet.head.length.toNat)]

/-- What is done with the octets of one read. -/
def accept (options : DecodeOptions) (key : Option Bytes) (bytes : Bytes) (scene : Scene σ) :
    Except ProtocolError Packet × Scene σ :=
  let scene := scene.note [bytesRead bytes]
  let (decoded, notices) := Packet.decodeFrontKeyed options key bytes
  let scene := scene.note notices
  match decoded with
  | .error failure =>
    (.error failure,
      (scene.note [decodeFailed failure bytes.length]).count (Counters.failed failure))
  | .ok front =>
    let scene :=
      if front.consumed < bytes.length then
        scene.note [discarded (bytes.length - front.consumed)]
      else scene
    (.ok front.packet,
      (scene.note [packetReceived front.packet]).count
        (Counters.received (UInt64.ofNat front.consumed)))

/-- One read of at most `maxBytes`, at least one, and the packet at the front of it. There is taken
to be memory for that many octets: no size is refused because it could not be allocated. -/
def receiveWith (options : DecodeOptions) (key : Option Bytes) (maxBytes deadline : Nat)
    (scene : Scene σ) : Outcome σ Packet :=
  if maxBytes = 0 then
    (.done (.error zeroBufferError), scene)
  else
    let reading := ByteStream.read maxBytes scene.now deadline scene.stream
    let scene := scene.moveTo reading.now reading.stream
    match reading.outcome with
    | .expired => (.expired, scene)
    | .done (.error fault) =>
      let failure := ProtocolError.transport fault
      (.done (.error failure), (scene.note [readFailed fault]).count (Counters.failed failure))
    | .done (.ok bytes) =>
      if bytes.isEmpty then
        (.done (.error .emptyRead),
          (scene.note [nothingRead]).count (Counters.failed .emptyRead))
      else
        let (result, scene) := accept options key bytes scene
        (.done result, scene)

/-- Octets behind the first packet are tolerated; its version has to be the current one. -/
def receive (key : Option Bytes) (maxBytes deadline : Nat) (scene : Scene σ) : Outcome σ Packet :=
  receiveWith .streaming key maxBytes deadline scene

def receiveWithin (limit : Duration) (key : Option Bytes) (maxBytes : Nat) (scene : Scene σ) :
    Except ProtocolError Packet × Scene σ :=
  let (attempt, after) := receive key maxBytes (scene.deadline limit) scene
  (attempt.orTimeout, after)

def encodeFailed (type : MessageType) (failure : ProtocolError) : Log.Event where
  level := .error
  origin := .transport
  message := "Error on encoding " ++ type.name
  fields := [("error", .text failure.message)]

def sending (type : MessageType) (size : Nat) : Log.Event where
  level := .debug
  origin := .transport
  message := "Sending " ++ type.name ++ " message"
  fields := [("bytes", .number size)]

def writeFailed (type : MessageType) (fault : TransportFault) : Log.Event where
  level := .error
  origin := .transport
  message := "Error on write " ++ type.name
  fields := [("error", .text fault.text)]

def messageSent (type : MessageType) (size : Nat) : Log.Event where
  level := .trace
  origin := .transport
  message := type.name ++ " message sent"
  fields := [("bytes", .number size)]

/-- The fault of a sink that accepts nothing of a packet. -/
def writeZero : TransportFault := ⟨.writeZero, "write zero"⟩

def send (packet : Packet) (deadline : Nat) (scene : Scene σ) : Outcome σ Unit :=
  match packet.encode with
  | .error failure =>
    (.done (.error failure), scene.note [encodeFailed packet.type failure])
  | .ok wire =>
    let scene := scene.note [sending packet.type wire.length]
    let writing := ByteStream.drainAndFlush writeZero deadline wire scene.now scene.stream
    let scene := scene.moveTo writing.now writing.stream
    match writing.outcome with
    | .expired => (.expired, scene)
    | .done (.error fault) =>
      let failure := ProtocolError.transport fault
      (.done (.error failure),
        (scene.note [writeFailed packet.type fault]).count (Counters.failed failure))
    | .done (.ok ()) =>
      (.done (.ok ()),
        (scene.note [messageSent packet.type wire.length]).count
          (Counters.sent (UInt64.ofNat wire.length)))

def sendWithin (limit : Duration) (packet : Packet) (scene : Scene σ) :
    Except ProtocolError Unit × Scene σ :=
  let (attempt, after) := send packet (scene.deadline limit) scene
  (attempt.orTimeout, after)

end PeerLink.OneShot
