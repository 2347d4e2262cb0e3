import PeerLink.Wire.Header

/-!
Packets as values: a header, and a body of a type, an optional 16-octet vector and a message.
A packet may hold more than its wire form shows: a stale length, a vector its type does not carry,
or a message variant of another type. `canonical` is the packet that the wire form stands for.
-/

set_option autoImplicit false
set_option relaxedAutoImplicit false

namespace PeerLink

/-- The fixed auxiliary field of the types that carry one. -/
structure BodyVector where
  octets : Bytes
  length_eq : octets.length = 16
  deriving DecidableEq

namespace BodyVector

def size : Nat := 16

def zero : BodyVector := ⟨List.replicate 16 0, rfl⟩

def ofBytes (octets : Bytes) : Except ProtocolError BodyVector :=
  if h : octets.length = 16 then .ok ⟨octets, h⟩ else .error .unreadableVector

/-- The vector at the front of `bytes` and what follows it, if `bytes` are long enough. -/
def split? (bytes : Bytes) : Option (BodyVector × Bytes) :=
  if h : (bytes.take 16).length = 16 then some (⟨bytes.take 16, h⟩, bytes.drop 16) else none

def describe (vector : BodyVector) : String :=
  "Vector(" ++ Bytes.hex vector.octets ++ ")"

theorem split?_append (vector : BodyVector) (rest : Bytes) :
    split? (vector.octets ++ rest) = some (vector, rest) := by
  have h := vector.length_eq
  have htake : (vector.octets ++ rest).take 16 = vector.octets := by
    rw [← h]; exact List.take_left
  have hdrop : (vector.octets ++ rest).drop 16 = rest := by
    rw [← h]; exact List.drop_left
  simp [split?, htake, hdrop, h]

theorem split?_eq_none_iff (bytes : Bytes) : split? bytes = none ↔ bytes.length < 16 := by
  simp only [split?]
  split <;> rename_i h <;> simp only [List.length_take] at h <;> simp <;> omega

theorem exists_split?_eq_some {bytes : Bytes} (h : size ≤ bytes.length) :
    ∃ vector, split? bytes = some (vector, bytes.drop size) := by
  have htake : (bytes.take size).length = size := by
    rw [List.length_take]
    exact Nat.min_eq_left h
  exact ⟨⟨bytes.take size, htake⟩, dif_pos htake⟩

theorem append_of_split? {bytes rest : Bytes} {vector : BodyVector}
    (h : split? bytes = some (vector, rest)) : vector.octets ++ rest = bytes := by
  simp only [split?] at h
  split at h
  · simp only [Option.some.injEq, Prod.mk.injEq] at h
    obtain ⟨rfl, rfl⟩ := h
    exact List.take_append_drop 16 bytes
  · simp at h

end BodyVector

/-- A payload, and whether its type has a decode rule. -/
inductive Message where
  | handshake (payload : Bytes)
  | ok (payload : Bytes)
  | undecoded (payload : Bytes)
  deriving DecidableEq

namespace Message

/-- The only place where decode rules are attached to registered types. -/
def ofWire : MessageType → Bytes → Message
  | .handshake, payload => .handshake payload
  | .ok, payload => .ok payload
  | .heartbeat, payload | .gone, payload | .transfer, payload | .peerInfo, payload =>
    .undecoded payload

def payload : Message → Bytes
  | handshake payload | ok payload | undecoded payload => payload

/-- The name of the variant, whatever it holds. -/
def variant : Message → String
  | handshake _ => "Handshake"
  | ok _ => "Ok"
  | undecoded _ => "Undecoded"

def isDecoded : Message → Bool
  | handshake _ | ok _ => true
  | undecoded _ => false

def wireLength (message : Message) : Nat := message.payload.length

def write (message : Message) : Bytes := message.payload

@[simp] theorem payload_ofWire (type : MessageType) (payload : Bytes) :
    (ofWire type payload).payload = payload := by
  cases type <;> rfl

end Message

/-- Everything behind the header. -/
structure Body where
  type : MessageType
  vector : Option BodyVector
  message : Message
  deriving DecidableEq

namespace Body

/-- The vector as it appears on the wire: types that carry none drop it. -/
def wireVector (body : Body) : Option BodyVector :=
  if body.type.carriesVector then body.vector else none

/-- The octets of a vector that may be absent. -/
def vectorOctets : Option BodyVector → Bytes
  | some vector => vector.octets
  | none => []

def wireLength (body : Body) : Nat :=
  1 + (if body.wireVector.isSome then BodyVector.size else 0) + body.message.wireLength

def write (body : Body) : Bytes :=
  body.type.tag :: vectorOctets body.wireVector ++ body.message.write

@[simp] theorem length_vectorOctets (vector : Option BodyVector) :
    (vectorOctets vector).length = if vector.isSome then BodyVector.size else 0 := by
  cases vector with
  | none => rfl
  | some vector => exact vector.length_eq

@[simp] theorem length_write (body : Body) : body.write.length = body.wireLength := by
  simp only [write, wireLength, Message.write, Message.wireLength, List.length_append,
    List.length_cons, length_vectorOctets]
  omega

end Body

structure Packet where
  head : Header
  body : Body
  deriving DecidableEq

namespace Packet

/-- The largest body the length field can describe. -/
def maxBody : Nat := 65535

/-- The largest complete packet. -/
def maxSize : Nat := Header.size + maxBody

/-- The shortest input that can be decoded: a header and a type. -/
def minSize : Nat := Header.size + 1

def type (packet : Packet) : MessageType := packet.body.type

/-- The size of the wire form, header included. -/
def wireLength (packet : Packet) : Nat := Header.size + packet.body.wireLength

/-- A packet whose header fits `body`; a body too long for the length field gets the largest
length, and encoding refuses it. -/
def ofBody (body : Body) : Packet :=
  ⟨.ofLength (UInt16.ofNat (min body.wireLength maxBody)), body⟩

/-- A packet of any type; types that carry no vector drop it. -/
def withVector (type : MessageType) (vector : BodyVector) (payload : Bytes) : Packet :=
  ofBody ⟨type, if type.carriesVector then some vector else none, .ofWire type payload⟩

def handshake (payload : Bytes) : Packet := ofBody ⟨.handshake, none, .ofWire .handshake payload⟩

def ok (payload : Bytes) : Packet := ofBody ⟨.ok, none, .ofWire .ok payload⟩

/-- The packet that the wire form of `packet` stands for. -/
def canonical (packet : Packet) : Packet where
  head := ⟨UInt16.ofNat packet.body.wireLength, packet.head.version⟩
  body :=
    { type := packet.type
      vector := packet.body.wireVector
      message := .ofWire packet.type packet.body.message.payload }

end Packet

end PeerLink
