import PeerLink.Wire.Encode

/-!
Octets to packets, in one pass from front to back: the first rule that an input violates is the
error. `decodeFront` reads the packet at the front of the input; framing says whether octets behind
it are an error or left to the caller, and the version policy whether foreign versions pass.
-/

set_option autoImplicit false
set_option relaxedAutoImplicit false

namespace PeerLink

/-- Whether input behind the declared end of a packet is an error. -/
inductive Framing where
  | strict
  | streaming
  deriving DecidableEq

inductive VersionPolicy where
  | current
  | any
  deriving DecidableEq

namespace VersionPolicy

def accepts : VersionPolicy → UInt8 → Bool
  | current, version => version == currentVersion
  | any, _ => true

end VersionPolicy

structure DecodeOptions where
  framing : Framing := .strict
  versions : VersionPolicy := .current
  deriving DecidableEq

namespace DecodeOptions

def streaming : DecodeOptions := { framing := .streaming }

end DecodeOptions

namespace Packet

/-- A packet and how many octets of the input it took up. -/
structure Front where
  packet : Packet
  consumed : Nat
  deriving DecidableEq

/-- The last rules: `size` octets of payload must follow the fields already read, and under strict
framing nothing else may. -/
def decodePayload (framing : Framing) (head : Header) (type : MessageType)
    (vector : Option BodyVector) (size : Nat) (bytes : Bytes) : Except ProtocolError Front :=
  if bytes.length < size then
    .error (.unreadableMessage size bytes.length)
  else if framing = .strict ∧ size < bytes.length then
    .error (.trailingBytes (bytes.length - size))
  else
    .ok ⟨⟨head, ⟨type, vector, .ofWire type (bytes.take size)⟩⟩, Header.size + head.length.toNat⟩

/-- The rules on the body of a known type, `bytes` being what follows the type. -/
def decodeBody (framing : Framing) (head : Header) (type : MessageType) (bytes : Bytes) :
    Except ProtocolError Front :=
  let declared := head.length.toNat
  if declared = 0 then
    .error (.invalidLength head.length 1)
  else if type.carriesVector then
    match BodyVector.split? bytes with
    | none => .error .unreadableVector
    | some (vector, rest) =>
      if declared < 1 + BodyVector.size then
        .error (.invalidLength head.length (1 + BodyVector.size))
      else
        decodePayload framing head type (some vector) (declared - (1 + BodyVector.size)) rest
  else
    decodePayload framing head type none (declared - 1) bytes

def decodeFront (options : DecodeOptions) : Bytes → Except ProtocolError Front
  | high :: low :: version :: tag :: rest =>
    if options.versions.accepts version then
      match MessageType.ofTag? tag with
      | none => .error (.unknownType tag)
      | some type => decodeBody options.framing ⟨Bytes.toWord high low, version⟩ type rest
    else
      .error (.unsupportedVersion version)
  | bytes => .error (.tooShort bytes.length)

def decodeWith (options : DecodeOptions) (bytes : Bytes) : Except ProtocolError Packet :=
  (decodeFront options bytes).map Front.packet

theorem decodeWith_eq_ok_iff {options : DecodeOptions} {bytes : Bytes} {packet : Packet} :
    decodeWith options bytes = .ok packet ↔
      ∃ front, decodeFront options bytes = .ok front ∧ front.packet = packet := by
  unfold decodeWith
  cases decodeFront options bytes <;> simp [Except.map]

theorem decodeWith_eq_error_iff {options : DecodeOptions} {bytes : Bytes}
    {failure : ProtocolError} :
    decodeWith options bytes = .error failure ↔ decodeFront options bytes = .error failure := by
  unfold decodeWith
  cases decodeFront options bytes <;> simp [Except.map]

/-- Exactly one packet of the current version. -/
def decode (bytes : Bytes) : Except ProtocolError Packet := decodeWith {} bytes

/-- The packet at the front of `bytes`, whatever follows it and whatever framing is asked for. -/
def decodePrefix (options : DecodeOptions) (bytes : Bytes) : Except ProtocolError Front :=
  decodeFront { options with framing := .streaming } bytes

/-- How decoding packet after packet went: those that were read, the error that ended it if one
did, and the offset where it stopped. -/
structure Run where
  fronts : List Front
  failure : Option ProtocolError
  offset : Nat

theorem consumed_of_decodePayload {framing : Framing} {head : Header} {type : MessageType}
    {vector : Option BodyVector} {size : Nat} {bytes : Bytes} {front : Front}
    (h : decodePayload framing head type vector size bytes = .ok front) :
    front.consumed = Header.size + head.length.toNat ∧ size ≤ bytes.length := by
  unfold decodePayload at h
  split at h
  · cases h
  · split at h
    · cases h
    · cases h
      exact ⟨rfl, by omega⟩

theorem consumed_of_decodeBody {framing : Framing} {head : Header} {type : MessageType}
    {bytes : Bytes} {front : Front} (h : decodeBody framing head type bytes = .ok front) :
    front.consumed = Header.size + head.length.toNat ∧
      1 ≤ head.length.toNat ∧ head.length.toNat ≤ 1 + bytes.length := by
  unfold decodeBody at h
  dsimp only at h
  split at h
  · cases h
  · split at h
    · split at h
      · cases h
      · rename_i vector rest hsplit
        have hlen := congrArg List.length (BodyVector.append_of_split? hsplit)
        rw [List.length_append, vector.length_eq] at hlen
        split at h
        · cases h
        · obtain ⟨hconsumed, hsize⟩ := consumed_of_decodePayload h
          simp only [BodyVector.size] at *
          exact ⟨hconsumed, by omega, by omega⟩
    · obtain ⟨hconsumed, hsize⟩ := consumed_of_decodePayload h
      exact ⟨hconsumed, by omega, by omega⟩

theorem consumed_of_decodeFront {options : DecodeOptions} {bytes : Bytes} {front : Front}
    (h : decodeFront options bytes = .ok front) :
    minSize ≤ front.consumed ∧ front.consumed ≤ bytes.length := by
  unfold decodeFront at h
  split at h
  · split at h
    · split at h
      · cases h
      · obtain ⟨hconsumed, hlow, hhigh⟩ := consumed_of_decodeBody h
        simp only [minSize, Header.size, List.length_cons] at *
        omega
    · cases h
  · cases h

/-- Decodes from `offset` on for as long as octets remain. -/
def decodeAllFrom (options : DecodeOptions) (offset : Nat) (bytes : Bytes) : Run :=
  if bytes.isEmpty then
    ⟨[], none, offset⟩
  else
    match _h : decodePrefix options bytes with
    | .error failure => ⟨[], some failure, offset⟩
    | .ok front =>
      let run := decodeAllFrom options (offset + front.consumed) (bytes.drop front.consumed)
      { run with fronts := front :: run.fronts }
termination_by bytes.length
decreasing_by
  have hc := consumed_of_decodeFront _h
  simp only [minSize, Header.size, List.length_drop] at *
  omega

def decodeAll (options : DecodeOptions) (bytes : Bytes) : Run := decodeAllFrom options 0 bytes

end Packet

end PeerLink
