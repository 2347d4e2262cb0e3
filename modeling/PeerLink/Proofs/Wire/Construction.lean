import PeerLink.Proofs.Wire.Appending

/-!
Packets as they are constructed. A body that holds nothing but what the wire shows makes a canonical
packet for as long as the length field can describe it (`Packet.isCanonical_ofBody`). Past that the
header is the same as that of the longest body, so it is up to the encoder to tell the two apart,
and it does (`Packet.withVector_faithful`).
-/

set_option autoImplicit false
set_option relaxedAutoImplicit false

namespace PeerLink.Packet

/-! ### From a body -/

section OfBody

variable {body : Body}

theorem length_ofBody (body : Body) :
    (ofBody body).head.length.toNat = min body.wireLength maxBody := by
  change (UInt16.ofNat (min body.wireLength maxBody)).toNat = _
  rw [UInt16.toNat_ofNat']
  unfold maxBody
  exact Nat.mod_eq_of_lt (by omega)

theorem isCanonical_ofBody (hvector : body.vector = body.wireVector)
    (hmessage : body.message = .ofWire body.type body.message.payload)
    (hsize : body.wireLength ≤ maxBody) : (ofBody body).IsCanonical where
  length_eq := (length_ofBody body).trans (Nat.min_eq_left hsize)
  vector_eq := hvector
  message_eq := hmessage

end OfBody

/-- A canonical packet of the current version comes back from the wire as it was. -/
theorem IsCanonical.decode_encode {packet : Packet} {wire : Bytes} (h : packet.IsCanonical)
    (hversion : packet.head.version = currentVersion) (hencode : packet.encode = .ok wire) :
    decode wire = .ok packet := by
  have hdecoded := decodeWith_encode hencode {}
  have haccepts : VersionPolicy.current.accepts packet.head.version := beq_iff_eq.mpr hversion
  rwa [if_pos haccepts, (encode_eq_ok_iff.mp hencode).1.canonical_eq_self_iff.mpr h] at hdecoded

/-! ### With a vector -/

section WithVector

variable (type : MessageType) (vector : BodyVector) (payload : Bytes)

theorem vector_isSome_withVector (h : type.carriesVector) :
    (withVector type vector payload).body.vector.isSome := by
  have hvector : (withVector type vector payload).body.vector = some vector := if_pos h
  rw [hvector]
  rfl

theorem wireLength_withVector :
    (withVector type vector payload).body.wireLength = 1 + type.vectorSize + payload.length := by
  have hwire := @Body.wireLength_eq (withVector type vector payload).body
    (vector_isSome_withVector type vector payload)
  have hpayload : (withVector type vector payload).body.message.payload = payload :=
    Message.payload_ofWire type payload
  rwa [hpayload] at hwire

theorem wireVector_withVector :
    (withVector type vector payload).body.vector =
      (withVector type vector payload).body.wireVector := by
  unfold withVector ofBody Body.wireVector
  split_ifs <;> rfl

theorem isCanonical_withVector (h : 1 + type.vectorSize + payload.length ≤ maxBody) :
    (withVector type vector payload).IsCanonical := by
  refine isCanonical_ofBody (wireVector_withVector type vector payload) ?_ ?_
  · exact congrArg (Message.ofWire type) (Message.payload_ofWire type payload).symm
  · exact (wireLength_withVector type vector payload).symm ▸ h

theorem isEncodable_withVector (h : 1 + type.vectorSize + payload.length ≤ maxBody) :
    (withVector type vector payload).IsEncodable where
  vector_isSome := vector_isSome_withVector type vector payload
  wireLength_le := (wireLength_withVector type vector payload).symm ▸ h

end WithVector

/-- Every constructor makes what it is asked for: the current version, the vector where the type
carries one, the message that the wire would give, and a length that is that of the body or the
largest there is. A body that the length field can describe is written with its own length and read
back as the very packet; any longer one is refused with its full size. -/
theorem withVector_faithful (type : MessageType) (vector : BodyVector) (payload : Bytes) :
    let packet := withVector type vector payload
    let size := 1 + (if type.carriesVector then 16 else 0) + payload.length
    packet.head.length.toNat = min size 65535 ∧ packet.head.version = 1 ∧ packet.type = type ∧
      packet.body.vector = (if type.carriesVector then some vector else none) ∧
      packet.body.message = .ofWire type payload ∧
      (size ≤ 65535 → ∃ wire, packet.encode = .ok wire ∧ wire.length = 3 + size ∧
        declaredLength wire = size ∧ decode wire = .ok packet) ∧
      (65535 < size → packet.encode = .error (.oversizedPacket (3 + size))) ∧
      handshake payload = withVector .handshake vector payload ∧
      ok payload = withVector .ok vector payload := by
  intro packet size
  have hsize : packet.body.wireLength = size := wireLength_withVector type vector payload
  refine ⟨?_, rfl, rfl, rfl, rfl, fun hfits ↦ ?_, fun hlong ↦ ?_, rfl, rfl⟩
  · exact (length_ofBody packet.body).trans (by rw [hsize, maxBody])
  · have hencode := encode_eq_ok_iff.mpr ⟨isEncodable_withVector type vector payload hfits, rfl⟩
    have hform := wireForm_of_encode hencode
    refine ⟨_, hencode, ?_, hform.declared_eq.trans hsize, ?_⟩
    · rw [hform.length_eq, wireLength, hsize, Header.size]
    · exact (isCanonical_withVector type vector payload hfits).decode_encode rfl hencode
  · have hcarried : ¬ (packet.type.carriesVector ∧ packet.body.vector = none) := by
      rintro ⟨hcarries, hnone⟩
      have hsome := vector_isSome_withVector type vector payload hcarries
      rw [hnone] at hsome
      exact Bool.false_ne_true hsome
    have hrefused := encode_eq_oversizedPacket_iff.mpr ⟨hcarried, hsize.symm ▸ hlong⟩
    rwa [wireLength, hsize] at hrefused

/-- The longest payload of an acknowledgement and one octet more: both headers declare the same, but
only the first packet is written and read back. -/
theorem withVector_faithful_longest :
    let longest : Packet := withVector .ok .zero (List.replicate 65534 0)
    let longer : Packet := withVector .ok .zero (List.replicate 65535 0)
    longest.head.length.toNat = 65535 ∧ longer.head.length.toNat = 65535 ∧
      (∃ wire, longest.encode = .ok wire ∧ declaredLength wire = 65535 ∧
        decode wire = .ok longest) ∧
      longer.encode = .error (.oversizedPacket 65539) := by
  intro longest longer
  obtain ⟨hlongest, -, -, -, -, hfits, -⟩ :=
    withVector_faithful .ok .zero (List.replicate 65534 0)
  obtain ⟨hlonger, -, -, -, -, -, hrefused, -⟩ :=
    withVector_faithful .ok .zero (List.replicate 65535 0)
  rw [List.length_replicate] at hlongest hlonger hfits hrefused
  obtain ⟨wire, hencode, -, hdeclared, hdecoded⟩ := hfits (by decide)
  exact ⟨hlongest, hlonger, ⟨wire, hencode, hdeclared, hdecoded⟩, hrefused (by decide)⟩

end PeerLink.Packet
