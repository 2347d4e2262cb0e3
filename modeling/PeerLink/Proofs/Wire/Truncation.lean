import PeerLink.Proofs.Wire.PacketQueue
import PeerLink.Proofs.Wire.PrefixLoop

/-!
A wire form that is cut short is noticed wherever the cut falls. Decoding names the first field that
is not whole (`Packet.cutFailure`), whether it is asked for the packet alone or for the one at the
front, and a buffer that holds the same octets waits for the others. No cut is taken for a packet,
and on the whole wire form all three give the canonical packet
(`Packet.decode_take_encode`).
-/

set_option autoImplicit false
set_option relaxedAutoImplicit false

namespace PeerLink

namespace Packet

/-- What decoding reports of a wire form that ends after `size` octets. Header and type are four of
them, and a vector is the next sixteen. -/
def cutFailure (packet : Packet) (size : Nat) : ProtocolError :=
  if size < 4 then .tooShort size
  else if packet.type.carriesVector ∧ size < 20 then .unreadableVector
  else
    .unreadableMessage packet.body.message.payload.length
      (size - if packet.type.carriesVector then 20 else 4)

variable {packet : Packet} {wire : Bytes}

/-- The octets in front of the fields that differ in size, and what they say of those fields. -/
theorem exists_fields_of_encode (h : packet.encode = .ok wire) :
    ∃ high low octets, wire = high :: low :: packet.head.version :: packet.type.tag :: octets ∧
      (Bytes.toWord high low).toNat = 1 + octets.length ∧
      octets.length = packet.type.vectorSize + packet.body.message.payload.length := by
  obtain ⟨hencodable, rfl⟩ := encode_eq_ok_iff.mp h
  have hlength := hencodable.length_canonical
  have hroom := Body.length_vectorOctets_wireVector hencodable.vector_isSome
  have hwire := Body.wireLength_eq hencodable.vector_isSome
  have hoctets : (Body.vectorOctets packet.body.wireVector ++ packet.body.message.write).length =
      packet.type.vectorSize + packet.body.message.payload.length := by
    rw [List.length_append, hroom]
    rfl
  refine ⟨_, _, Body.vectorOctets packet.body.wireVector ++ packet.body.message.write, rfl, ?_,
    hoctets⟩
  rw [Bytes.toWord_ofWord, hlength, hwire, hoctets, Nat.add_assoc]
  rfl

theorem decodeFront_take_encode (h : packet.encode = .ok wire) (options : DecodeOptions)
    (haccepts : options.versions.accepts packet.head.version) {size : Nat}
    (hsize : size < wire.length) :
    decodeFront options (wire.take size) = .error (packet.cutFailure size) := by
  have hlength : (wire.take size).length = size := by
    rw [List.length_take]
    omega
  unfold cutFailure
  by_cases hshort : size < 4
  · rw [if_pos hshort, decodeFront_of_length_lt (by omega), hlength]
  obtain ⟨behind, rfl⟩ := Nat.exists_eq_add_of_le' (Nat.le_of_not_lt hshort)
  obtain ⟨high, low, octets, rfl, hdeclared, hoctets⟩ := exists_fields_of_encode h
  have hbehind : (octets.take behind).length = behind := by
    simp only [List.take_succ_cons, List.length_cons] at hlength
    omega
  have hless : behind < octets.length := by
    simp only [List.length_cons] at hsize
    omega
  have hcut : (high :: low :: packet.head.version :: packet.type.tag :: octets).take (behind + 4) =
      high :: low :: packet.head.version :: packet.type.tag :: octets.take behind := rfl
  have hpayload : (Bytes.toWord high low).toNat - (1 + packet.type.vectorSize) =
      packet.body.message.payload.length := by omega
  rw [if_neg hshort, hcut, decodeFront_cons haccepts (MessageType.ofTag?_tag _),
    decodeBody_of_length_lt _ (by dsimp only; omega) (by dsimp only; omega), hbehind, hpayload]
  unfold MessageType.vectorSize BodyVector.size
  by_cases hcarries : packet.type.carriesVector
  · by_cases hvector : behind < 16
    · rw [if_pos hcarries, if_pos hvector, if_pos ⟨hcarries, by omega⟩]
    · rw [if_pos hcarries, if_neg hvector, if_neg (fun hboth ↦ hvector (by omega)),
        if_pos hcarries, Nat.add_sub_add_right behind 4 16]
  · rw [if_neg hcarries, if_neg (by omega), if_neg (fun hboth ↦ hcarries hboth.1),
      if_neg hcarries, Nat.add_sub_cancel, Nat.sub_zero]

end Packet

namespace FrameBuffer

open Packet (declaredLength)

variable {packet : Packet} {wire : Bytes}

/-- The octets of a frame that is not whole are too few for any frame with these in front. -/
theorem lt_frameEnd_take_encode (h : packet.encode = .ok wire) {size : Nat}
    (hsize : size < wire.length) : (wire.take size).length < frameEnd (wire.take size) := by
  by_contra hdecided
  have hend := frameEnd_encode_append h []
  have hlength : (wire.take size).length = size := by
    rw [List.length_take]
    omega
  have hdecided := Nat.le_of_not_lt hdecided
  have hwhole := frameEnd_append (wire.drop size) (two_le_length hdecided)
  rw [List.take_append_drop] at hwhole
  rw [List.append_nil, hwhole] at hend
  omega

end FrameBuffer

namespace Packet

/-- Wherever a wire form is cut, decoding fails at the field that is cut and a buffer waits as it
is; the whole wire form is the canonical packet to both. Neither the key nor the framing matters. -/
theorem decode_take_encode {packet : Packet} {wire : Bytes} (h : packet.encode = .ok wire)
    (options : DecodeOptions) (haccepts : options.versions.accepts packet.head.version)
    (key : Option Bytes) :
    (∀ size < wire.length,
      (decodeKeyed options key (wire.take size)).1 = .error (packet.cutFailure size) ∧
        (decodePrefixKeyed options key (wire.take size)).1 = .error (packet.cutFailure size) ∧
        FrameBuffer.act options (wire.take size) .decode = (.decoded (.ok none), wire.take size)) ∧
      (decodeKeyed options key wire).1 = .ok packet.canonical ∧
      (decodePrefixKeyed options key wire).1 = .ok ⟨packet.canonical, wire.length⟩ ∧
      FrameBuffer.act options wire .decode = (.decoded (.ok (some packet.canonical)), []) := by
  refine ⟨fun size hsize ↦ ⟨?_, ?_, ?_⟩, ?_, ?_, ?_⟩
  · change (decodeFront options (wire.take size)).map Front.packet = _
    rw [decodeFront_take_encode h options haccepts hsize]
    rfl
  · exact decodeFront_take_encode h { options with framing := .streaming } haccepts hsize
  · have hwaiting : FrameBuffer.step options (wire.take size) = .waiting :=
      FrameBuffer.step_eq_waiting_iff.mpr (FrameBuffer.lt_frameEnd_take_encode h hsize)
    simp only [FrameBuffer.act, hwaiting]
  · exact (decodeWith_encode h options).trans (if_pos haccepts)
  · have hfront := decodePrefix_encode_append h haccepts []
    rwa [List.append_nil] at hfront
  · have htaken := FrameBuffer.step_encode_append h [] options
    have hcheck : options.versions.check packet.canonical = .ok packet.canonical :=
      if_pos haccepts
    rw [List.append_nil, hcheck] at htaken
    simp only [FrameBuffer.act, htaken, FrameStep.ofVerdict]

/-- One octet of payload behind a vector: a cut takes the vector's last octet or only the payload,
and with either a buffer waits. -/
theorem decode_take_encode_cut_gone :
    let options : DecodeOptions := { versions := .any }
    let packet : Packet := ⟨⟨0, 9⟩, ⟨.gone, some .zero, .ok [7]⟩⟩
    let wire : Bytes := [0, 18, 9, 3] ++ List.replicate 16 0 ++ [7]
    packet.encode = .ok wire ∧
      (decodeKeyed options (some []) (wire.take 19)).1 = .error .unreadableVector ∧
      (decodePrefixKeyed options (some []) (wire.take 20)).1 = .error (.unreadableMessage 1 0) ∧
      FrameBuffer.act options (wire.take 20) .decode = (.decoded (.ok none), wire.take 20) ∧
      FrameBuffer.act options wire .decode = (.decoded (.ok (some packet.canonical)), []) := by
  intro options packet wire
  have hencode : packet.encode = .ok wire :=
    encode_eq_ok_iff.mpr ⟨⟨by decide, by decide⟩, by decide⟩
  obtain ⟨hcut, -, -, hwhole⟩ := decode_take_encode hencode options rfl (some [])
  obtain ⟨hvector, -, -⟩ := hcut 19 (by decide)
  obtain ⟨-, hpayload, hwaiting⟩ := hcut 20 (by decide)
  exact ⟨hencode, hvector, hpayload, hwaiting, hwhole⟩

end Packet

end PeerLink
