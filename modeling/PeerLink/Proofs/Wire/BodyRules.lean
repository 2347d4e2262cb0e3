import Mathlib.Tactic.SplitIfs
import PeerLink.Wire.Decode

/-!
The rules on a body, stated for all types at once. A type that carries a vector reserves sixteen
octets in front of its payload and any other type reserves none (`vectorSize`); with that the two
branches of `decodeBody` are one sequence of rules (`decodeBody_eq`). Cutting octets into a body
(`ofOctets`) undoes writing it, and acceptance is that cut (`eq_of_decodeBody`); a body of the right
size is accepted whatever stands behind it (`decodeBody_write_append`).
-/

set_option autoImplicit false
set_option relaxedAutoImplicit false

namespace PeerLink

/-- The octets that a body of this type reserves for its vector. -/
def MessageType.vectorSize (type : MessageType) : Nat :=
  if type.carriesVector then BodyVector.size else 0

theorem MessageType.vectorSize_eq (type : MessageType) :
    type.vectorSize = 0 ∨ type.vectorSize = 16 := by
  unfold vectorSize
  split_ifs
  · exact Or.inr rfl
  · exact Or.inl rfl

namespace Body

variable {type : MessageType} {octets : Bytes}

/-! ### Vectors at the front -/

/-- The vector at the front of `octets`, for the types that carry one. -/
def leadingVector (type : MessageType) (octets : Bytes) : Option BodyVector :=
  if type.carriesVector then (BodyVector.split? octets).map Prod.fst else none

theorem leadingVector_isSome (h : type.vectorSize ≤ octets.length) :
    (leadingVector type octets).isSome = type.carriesVector := by
  unfold leadingVector
  unfold MessageType.vectorSize BodyVector.size at h
  split_ifs at h ⊢ with hcarries
  · rw [hcarries, Option.isSome_map, Option.isSome_iff_ne_none, ne_eq,
      BodyVector.split?_eq_none_iff]
    omega
  · simp [hcarries]

theorem vectorOctets_leadingVector (h : type.vectorSize ≤ octets.length) :
    vectorOctets (leadingVector type octets) = octets.take type.vectorSize := by
  unfold leadingVector
  unfold MessageType.vectorSize BodyVector.size at h ⊢
  split_ifs at h ⊢ with hcarries
  · simp [BodyVector.split?, h, vectorOctets]
  · rfl

theorem map_octets_leadingVector (h : type.vectorSize ≤ octets.length) :
    (leadingVector type octets).map BodyVector.octets =
      if type.vectorSize = 16 then some (octets.take 16) else none := by
  unfold leadingVector
  unfold MessageType.vectorSize BodyVector.size at h ⊢
  by_cases hcarries : type.carriesVector
  · rw [if_pos hcarries] at h
    simp [hcarries, BodyVector.split?, h]
  · simp [hcarries]

/-- Octets behind the reserved room have no say in the vector. -/
theorem leadingVector_take {count : Nat} (h : type.vectorSize ≤ count) :
    leadingVector type (octets.take count) = leadingVector type octets := by
  unfold leadingVector
  unfold MessageType.vectorSize BodyVector.size at h
  split_ifs at h ⊢ with hcarries
  · simp only [BodyVector.split?, List.take_take, Nat.min_eq_left h]
    split_ifs <;> rfl
  · rfl

theorem leadingVector_vectorOctets {body : Body} (h : body.type.carriesVector → body.vector.isSome)
    (rest : Bytes) :
    leadingVector body.type (vectorOctets body.wireVector ++ rest) = body.wireVector := by
  unfold leadingVector wireVector
  split_ifs with hcarries
  · obtain ⟨vector, hvector⟩ := Option.isSome_iff_exists.mp (h hcarries)
    rw [hvector, vectorOctets, BodyVector.split?_append, Option.map_some]
  · rfl

theorem wireVector_of_carriesVector {body : Body} (h : body.type.carriesVector) :
    body.wireVector = body.vector :=
  if_pos h

/-! ### Bodies and their octets -/

/-- The body of a known type that `octets`, all that follows the type, make up. -/
def ofOctets (type : MessageType) (octets : Bytes) : Body :=
  ⟨type, leadingVector type octets, .ofWire type (octets.drop type.vectorSize)⟩

@[simp] theorem wireVector_ofOctets (type : MessageType) (octets : Bytes) :
    (ofOctets type octets).wireVector = leadingVector type octets := by
  unfold wireVector ofOctets leadingVector
  split_ifs <;> rfl

theorem write_ofOctets (h : type.vectorSize ≤ octets.length) :
    (ofOctets type octets).write = type.tag :: octets := by
  unfold write
  rw [wireVector_ofOctets, vectorOctets_leadingVector h, List.cons_append]
  unfold ofOctets Message.write
  rw [Message.payload_ofWire, List.take_append_drop]

theorem wireLength_ofOctets (h : type.vectorSize ≤ octets.length) :
    (ofOctets type octets).wireLength = 1 + octets.length := by
  rw [← length_write, write_ofOctets h, List.length_cons, Nat.add_comm]

/-- With a vector wherever the type carries one, the wire form reserves exactly its room. -/
theorem length_vectorOctets_wireVector {body : Body}
    (h : body.type.carriesVector → body.vector.isSome) :
    (vectorOctets body.wireVector).length = body.type.vectorSize := by
  rw [length_vectorOctets]
  unfold wireVector MessageType.vectorSize
  by_cases hcarries : body.type.carriesVector
  · simp [hcarries, h hcarries]
  · simp [hcarries]

theorem wireLength_eq {body : Body} (h : body.type.carriesVector → body.vector.isSome) :
    body.wireLength = 1 + body.type.vectorSize + body.message.payload.length := by
  rw [← length_vectorOctets_wireVector h, length_vectorOctets]
  rfl

end Body

namespace Packet

variable {framing : Framing} {head : Header} {type : MessageType} {bytes : Bytes}

/-! ### The rules -/

theorem decodeFront_of_length_lt {options : DecodeOptions} {bytes : Bytes} (h : bytes.length < 4) :
    decodeFront options bytes = .error (.tooShort bytes.length) := by
  match bytes, h with
  | [], _ | [_], _ | [_, _], _ | [_, _, _], _ => rfl

/-- Behind a version that is accepted and a known type, the rules on the body decide. -/
theorem decodeFront_cons {versions : VersionPolicy} {high low version tag : UInt8}
    (haccepts : versions.accepts version) (htype : MessageType.ofTag? tag = some type) :
    decodeFront ⟨framing, versions⟩ (high :: low :: version :: tag :: bytes) =
      decodeBody framing ⟨Bytes.toWord high low, version⟩ type bytes := by
  simp only [decodeFront, haccepts, htype, if_true]

/-- The two branches of `decodeBody` as one sequence of rules. -/
theorem decodeBody_eq (framing : Framing) (head : Header) (type : MessageType) (bytes : Bytes) :
    decodeBody framing head type bytes =
      if head.length.toNat = 0 then
        .error (.invalidLength head.length 1)
      else if bytes.length < type.vectorSize then
        .error .unreadableVector
      else if head.length.toNat < 1 + type.vectorSize then
        .error (.invalidLength head.length (1 + type.vectorSize))
      else
        decodePayload framing head type (Body.leadingVector type bytes)
          (head.length.toNat - (1 + type.vectorSize)) (bytes.drop type.vectorSize) := by
  unfold decodeBody Body.leadingVector MessageType.vectorSize
  by_cases hzero : head.length.toNat = 0
  · simp only [hzero, if_true]
  · by_cases hcarries : type.carriesVector
    · simp only [hcarries, hzero, if_true, if_false]
      by_cases hshort : bytes.length < BodyVector.size
      · rw [(BodyVector.split?_eq_none_iff bytes).mpr hshort, if_pos hshort]
      · obtain ⟨value, hsplit⟩ := BodyVector.exists_split?_eq_some (Nat.le_of_not_lt hshort)
        rw [hsplit, if_neg hshort]
        rfl
    · have hlength : ¬ head.length.toNat < 1 := by omega
      simp [hcarries, hzero]

theorem decodePayload_append (framing : Framing) (head : Header) (type : MessageType)
    (vector : Option BodyVector) (payload rest : Bytes) :
    decodePayload framing head type vector payload.length (payload ++ rest) =
      if framing = .strict ∧ rest ≠ [] then
        .error (.trailingBytes rest.length)
      else
        .ok ⟨⟨head, ⟨type, vector, .ofWire type payload⟩⟩, Header.size + head.length.toNat⟩ := by
  have hrest : payload.length < payload.length + rest.length ↔ rest ≠ [] := by
    rw [← List.length_pos_iff]
    omega
  unfold decodePayload
  rw [List.length_append, List.take_left, if_neg (by omega), Nat.add_sub_cancel_left]
  simp only [hrest]

theorem eq_of_decodePayload {vector : Option BodyVector} {size : Nat} {front : Front}
    (h : decodePayload framing head type vector size bytes = .ok front) :
    size ≤ bytes.length ∧ (framing = .strict → bytes.length = size) ∧
      front = ⟨⟨head, ⟨type, vector, .ofWire type (bytes.take size)⟩⟩,
        Header.size + head.length.toNat⟩ := by
  unfold decodePayload at h
  split_ifs at h with hshort htrailing
  refine ⟨by omega, fun hstrict ↦ ?_, (Except.ok.inj h).symm⟩
  have hexact : ¬ size < bytes.length := fun hlt ↦ htrailing ⟨hstrict, hlt⟩
  omega

/-- An accepted body is cut from as many octets as the header declares, the type counted. -/
theorem eq_of_decodeBody {front : Front} (h : decodeBody framing head type bytes = .ok front) :
    1 + type.vectorSize ≤ head.length.toNat ∧ head.length.toNat ≤ 1 + bytes.length ∧
      (framing = .strict → head.length.toNat = 1 + bytes.length) ∧
      front = ⟨⟨head, .ofOctets type (bytes.take (head.length.toNat - 1))⟩,
        Header.size + head.length.toNat⟩ := by
  rw [decodeBody_eq] at h
  split_ifs at h with hzero hvector hlength
  obtain ⟨hsize, hstrict, hfront⟩ := eq_of_decodePayload h
  rw [List.length_drop] at hsize hstrict
  refine ⟨by omega, by omega, fun hs ↦ ?_, ?_⟩
  · have hexact := hstrict hs
    omega
  · rw [hfront, Body.ofOctets, Body.leadingVector_take (by omega), List.drop_take, Nat.sub_sub]

/-- Cutting the input off behind the declared body and decoding it strictly shows the same as
tolerating what follows, unless the cut takes octets off the vector. -/
theorem decodeBody_take (h : head.length.toNat ≤ 1 + bytes.length) :
    decodeBody .strict head type (bytes.take (head.length.toNat - 1)) =
      if 1 ≤ head.length.toNat ∧ head.length.toNat < 1 + type.vectorSize ∧
          type.vectorSize ≤ bytes.length then
        .error .unreadableVector
      else
        decodeBody .streaming head type bytes := by
  have hlength : (bytes.take (head.length.toNat - 1)).length = head.length.toNat - 1 := by
    rw [List.length_take]
    omega
  rw [decodeBody_eq, decodeBody_eq, hlength]
  by_cases hzero : head.length.toNat = 0
  · rw [if_pos hzero, if_pos hzero, if_neg (by omega)]
  · by_cases hcut : head.length.toNat < 1 + type.vectorSize
    · rw [if_neg hzero, if_neg hzero, if_pos (by omega)]
      split_ifs with hthere hshort
      · rfl
      · rfl
      · omega
    · rw [if_neg hzero, if_neg hzero, if_neg (by omega), if_neg hcut, if_neg (by omega),
        if_neg (by omega), if_neg hcut, Body.leadingVector_take (by omega)]
      have hpayload : ((bytes.take (head.length.toNat - 1)).drop type.vectorSize).length =
          head.length.toNat - (1 + type.vectorSize) := by
        rw [List.length_drop, hlength, Nat.sub_sub]
      have hsplit : bytes.drop type.vectorSize =
          (bytes.take (head.length.toNat - 1)).drop type.vectorSize ++
            bytes.drop (head.length.toNat - 1) := by
        rw [← List.drop_append_of_le_length (by omega), List.take_append_drop]
      have hstrict := decodePayload_append .strict head type (Body.leadingVector type bytes)
        ((bytes.take (head.length.toNat - 1)).drop type.vectorSize) []
      rw [List.append_nil] at hstrict
      rw [hsplit, ← hpayload, hstrict, decodePayload_append, if_neg (by simp), if_neg (by simp)]

/-- On exactly the declared octets only the room for the vector can be missing. -/
theorem decodeBody_of_length_eq (framing : Framing) (h : head.length.toNat = 1 + bytes.length) :
    decodeBody framing head type bytes =
      if bytes.length < type.vectorSize then
        .error .unreadableVector
      else
        .ok ⟨⟨head, .ofOctets type bytes⟩, Header.size + head.length.toNat⟩ := by
  rw [decodeBody_eq, if_neg (by omega)]
  split_ifs with hvector hdeclared
  · rfl
  · omega
  · have hsize : head.length.toNat - (1 + type.vectorSize) =
        (bytes.drop type.vectorSize).length := by
      rw [List.length_drop]
      omega
    have hpayload := decodePayload_append framing head type (Body.leadingVector type bytes)
      (bytes.drop type.vectorSize) []
    rw [List.append_nil, if_neg (by simp)] at hpayload
    rw [hsize, hpayload, Body.ofOctets]

/-- On fewer octets than declared the vector or the payload is not whole. -/
theorem decodeBody_of_length_lt (framing : Framing) (h : 1 + bytes.length < head.length.toNat)
    (hroom : 1 + type.vectorSize ≤ head.length.toNat) :
    decodeBody framing head type bytes =
      if bytes.length < type.vectorSize then
        .error .unreadableVector
      else
        .error (.unreadableMessage (head.length.toNat - (1 + type.vectorSize))
          (bytes.length - type.vectorSize)) := by
  rw [decodeBody_eq, if_neg (by omega)]
  split_ifs with hvector hdeclared
  · rfl
  · omega
  · rw [decodePayload, List.length_drop, if_pos (by omega)]

/-- A body of the declared size is accepted, and what stands behind it matters to strict framing
alone. -/
theorem decodeBody_write_append {body : Body} (framing : Framing)
    (h : body.type.carriesVector → body.vector.isSome)
    (hlength : head.length.toNat = body.wireLength) (rest : Bytes) :
    decodeBody framing head body.type
        (Body.vectorOctets body.wireVector ++ (body.message.payload ++ rest)) =
      if framing = .strict ∧ rest ≠ [] then
        .error (.trailingBytes rest.length)
      else
        .ok ⟨⟨head, ⟨body.type, body.wireVector, .ofWire body.type body.message.payload⟩⟩,
          Header.size + head.length.toNat⟩ := by
  have hwire := Body.wireLength_eq h
  have hroom := Body.length_vectorOctets_wireVector h
  have hpayload : head.length.toNat - (1 + body.type.vectorSize) =
      body.message.payload.length := by omega
  rw [decodeBody_eq, Body.leadingVector_vectorOctets h, if_neg (by omega), List.length_append,
    hroom, if_neg (by omega), if_neg (by omega), ← hroom, List.drop_left, hroom, hpayload,
    decodePayload_append]

end Packet

end PeerLink
