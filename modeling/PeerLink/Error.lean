import PeerLink.Bytes
import PeerLink.FaultKind
import PeerLink.MessageType

/-!
Everything that can go wrong while packets are framed, decoded, encoded and moved. Each cause is a
constructor; `message` alone words them and `category` alone sorts them for the counters.
-/

set_option autoImplicit false
set_option relaxedAutoImplicit false

namespace PeerLink

/-- A failure of the stream itself, with the text it came with. -/
structure TransportFault where
  kind : FaultKind
  text : String
  deriving DecidableEq

inductive ProtocolError where
  | tooShort (available : Nat)
  | unreadableLength
  | unreadableVersion
  | unreadableType
  | unknownType (tag : UInt8)
  | unreadableVector
  | unreadableMessage (expected available : Nat)
  | invalidLength (declared : UInt16) (minimum : Nat)
  | unsupportedVersion (version : UInt8)
  | trailingBytes (count : Nat)
  | missingVector (type : MessageType)
  | oversizedPacket (size : Nat)
  | transport (fault : TransportFault)
  | emptyRead
  | connectionClosed
  | timeout
  | unexpectedMessage (type : MessageType)
  | configuration (reason : String)
  | custom (reason : String)
  deriving DecidableEq

/-- The three groups an error can fall into: malformed input, a failing stream or connection,
and everything else. -/
inductive ErrorCategory where
  | decode
  | transport
  | other
  deriving DecidableEq

namespace ProtocolError

def category : ProtocolError → ErrorCategory
  | tooShort _ | unreadableLength | unreadableVersion | unreadableType | unknownType _
  | unreadableVector | unreadableMessage _ _ | invalidLength _ _ | unsupportedVersion _
  | trailingBytes _ => .decode
  | transport _ | emptyRead | connectionClosed | timeout => .transport
  | missingVector _ | oversizedPacket _ | unexpectedMessage _ | configuration _ | custom _ =>
    .other

/-- Malformed input, one cause for each rule of decoding. -/
def isDecode : ProtocolError → Bool
  | tooShort _ | unreadableLength | unreadableVersion | unreadableType | unknownType _
  | unreadableVector | unreadableMessage _ _ | invalidLength _ _ | unsupportedVersion _
  | trailingBytes _ => true
  | _ => false

/-- Failures of the stream, and what the life of a connection brings with it. -/
def isTransport : ProtocolError → Bool
  | transport _ | emptyRead | connectionClosed | timeout => true
  | _ => false

theorem isDecode_iff {failure : ProtocolError} :
    failure.isDecode ↔ failure.category = .decode := by
  have h : failure.isDecode = decide (failure.category = .decode) := by cases failure <;> rfl
  rw [h, decide_eq_true_iff]

theorem isTransport_iff {failure : ProtocolError} :
    failure.isTransport ↔ failure.category = .transport := by
  have h : failure.isTransport = decide (failure.category = .transport) := by cases failure <;> rfl
  rw [h, decide_eq_true_iff]

/-- The two groups that are counted have no error in common. -/
theorem not_isDecode_and_isTransport (failure : ProtocolError) :
    ¬ (failure.isDecode ∧ failure.isTransport) := by
  rw [isDecode_iff, isTransport_iff]
  rintro ⟨hdecode, htransport⟩
  rw [hdecode] at htransport
  exact ErrorCategory.noConfusion htransport

def message : ProtocolError → String
  | tooShort available => s!"Packet too short: {available} bytes (minimum 4)"
  | unreadableLength => "Unable to read length"
  | unreadableVersion => "Unable to read version"
  | unreadableType => "Unable to read type"
  | unknownType tag => "Unknown message type: 0x" ++ Bytes.hex [tag]
  | unreadableVector => "Unable to read vector"
  | unreadableMessage expected available =>
    s!"Unable to read message: expected {expected} bytes, {available} available"
  | invalidLength declared minimum =>
    s!"Declared length {declared} is shorter than the {minimum} bytes the type requires"
  | unsupportedVersion version => s!"Unsupported protocol version: {version}"
  | trailingBytes count => s!"{count} trailing bytes after packet"
  | missingVector type => s!"{type.name} packet requires a vector"
  | oversizedPacket size => s!"Packet too large: {size} bytes"
  | transport fault => s!"Transport error: {fault.text}"
  | emptyRead => "Received 0 bytes"
  | connectionClosed => "Connection closed"
  | timeout => "Timeout occurred"
  | unexpectedMessage type => s!"No handler registered for {type.name}"
  | configuration reason => s!"Configuration error: {reason}"
  | custom reason => s!"Custom error: {reason}"

end ProtocolError

end PeerLink
