import PeerLink.Proofs.Wire.PacketQueue
import PeerLink.Wire.Writing

/-!
Encoding into a buffer that is in use is exact and all or nothing. A packet without the vector that
its type carries is refused, and so is one whose body is longer than the length field can say; what
the buffer held is then all that it holds. Any other packet adds its wire form, field by field at
fixed places (`Packet.WireForm`), and every way to encode a packet gives that form or that refusal
(`Packet.put_whole_or_nothing`).
-/

set_option autoImplicit false
set_option relaxedAutoImplicit false

namespace PeerLink.Packet

/-- The fields of `packet` at their places in `wire`, with nothing between or behind them. -/
structure WireForm (packet : Packet) (wire : Bytes) : Prop where
  length_eq : wire.length = packet.wireLength
  declared_eq : declaredLength wire = packet.body.wireLength
  version_eq : wire[2]? = some packet.head.version
  tag_eq : wire[3]? = some packet.type.tag
  vector_eq : packet.type.carriesVector →
    packet.body.vector.map BodyVector.octets = some ((wire.take 20).drop 4)
  payload_eq : wire.drop (4 + packet.type.vectorSize) = packet.body.message.payload

variable {packet : Packet}

theorem wireForm_of_encode {wire : Bytes} (h : packet.encode = .ok wire) :
    packet.WireForm wire := by
  have hsize := length_of_encode h
  obtain ⟨hencodable, rfl⟩ := encode_eq_ok_iff.mp h
  have hlength := hencodable.length_canonical
  have hroom := Body.length_vectorOctets_wireVector hencodable.vector_isSome
  refine ⟨hsize, ?_, rfl, rfl, fun hcarries ↦ ?_, ?_⟩
  · rw [← hlength, ← Bytes.toWord_ofWord packet.canonical.head.length, Bytes.toNat_toWord]
    rfl
  · obtain ⟨vector, hvector⟩ := Option.isSome_iff_exists.mp (hencodable.vector_isSome hcarries)
    have hwire : packet.body.wireVector = some vector := (if_pos hcarries).trans hvector
    rw [hvector, Option.map_some, List.drop_take]
    refine congrArg some ?_
    rw [Body.write, hwire]
    exact (List.take_left' vector.length_eq).symm
  · rw [← List.drop_drop]
    exact List.drop_left' hroom

theorem encode_eq_missingVector_iff :
    packet.encode = .error (.missingVector packet.type) ↔
      packet.type.carriesVector ∧ packet.body.vector = none := by
  unfold encode
  split_ifs with hmissing hlarge
  all_goals simp only [Bool.and_eq_true, Option.isNone_iff_eq_none] at hmissing
  · exact iff_of_true rfl hmissing
  · exact iff_of_false nofun hmissing
  · exact iff_of_false nofun hmissing

theorem encode_eq_oversizedPacket_iff :
    packet.encode = .error (.oversizedPacket packet.wireLength) ↔
      ¬ (packet.type.carriesVector ∧ packet.body.vector = none) ∧
        65535 < packet.body.wireLength := by
  unfold encode
  split_ifs with hmissing hlarge
  all_goals simp only [Bool.and_eq_true, Option.isNone_iff_eq_none] at hmissing
  · exact iff_of_false nofun fun h ↦ h.1 hmissing
  · exact iff_of_true rfl ⟨hmissing, hlarge⟩
  · exact iff_of_false nofun fun h ↦ hlarge h.2

theorem failure_of_encode {failure : ProtocolError} (h : packet.encode = .error failure) :
    failure = .missingVector packet.type ∨ failure = .oversizedPacket packet.wireLength := by
  unfold encode at h
  split_ifs at h with hmissing hlarge
  · exact .inl (Except.error.inj h).symm
  · exact .inr (Except.error.inj h).symm

/-! ### On a buffer -/

theorem put_eq_error_iff {failure : ProtocolError} (buffer : Bytes) :
    (packet.put.into buffer).1 = .error failure ↔ packet.encode = .error failure := by
  rw [into_put]
  cases packet.encode with
  | error other => simp
  | ok wire => simp

/-- An encoder that hands out a new buffer hands out the one that was written. -/
theorem appendTo_eq_put (packet : Packet) (buffer : Bytes) :
    packet.appendTo buffer =
      (packet.put.into buffer).1.map fun _ ↦ (packet.put.into buffer).2 := by
  rw [appendTo, into_put]
  cases packet.encode with
  | error failure => rfl
  | ok wire => rfl

theorem act_encode_eq_put (options : DecodeOptions) (packet : Packet) (buffer : Bytes) :
    FrameBuffer.act options buffer (.encode packet) =
      (.encoded (packet.put.into buffer).1, (packet.put.into buffer).2) := by
  rw [into_put]
  cases hencode : packet.encode with
  | error failure => simp only [FrameBuffer.act, appendTo, hencode, Except.map]
  | ok wire => simp only [FrameBuffer.act, appendTo, hencode, Except.map]

/-- Whatever the buffer holds, a packet adds its whole wire form to it or leaves it alone: a vector
that is missing is reported first, then a body that is too long, and nothing else is refused.
Encoding without a buffer, behind other octets and on the buffer of a codec comes to the same. -/
theorem put_whole_or_nothing (packet : Packet) (buffer : Bytes) :
    let written := packet.put.into buffer
    (written.1 = .error (.missingVector packet.type) ↔
        packet.type.carriesVector ∧ packet.body.vector = none) ∧
      (written.1 = .error (.oversizedPacket packet.wireLength) ↔
        ¬ (packet.type.carriesVector ∧ packet.body.vector = none) ∧
          65535 < packet.body.wireLength) ∧
      (∀ failure, written.1 = .error failure →
        (failure = .missingVector packet.type ∨ failure = .oversizedPacket packet.wireLength) ∧
          written.2 = buffer ∧ packet.encode = .error failure) ∧
      (written.1 = .ok () →
        ∃ wire, written.2 = buffer ++ wire ∧ packet.WireForm wire ∧ packet.encode = .ok wire) ∧
      packet.appendTo buffer = written.1.map (fun _ ↦ written.2) ∧
      ∀ options, FrameBuffer.act options buffer (.encode packet) =
        (.encoded written.1, written.2) := by
  intro written
  refine ⟨?_, ?_, fun failure hfailed ↦ ?_, fun hdone ↦ ?_, appendTo_eq_put packet buffer,
    fun options ↦ act_encode_eq_put options packet buffer⟩
  · exact (put_eq_error_iff buffer).trans encode_eq_missingVector_iff
  · exact (put_eq_error_iff buffer).trans encode_eq_oversizedPacket_iff
  · have hencode := (put_eq_error_iff buffer).mp hfailed
    have hwritten := into_put packet buffer
    rw [hencode] at hwritten
    exact ⟨failure_of_encode hencode, congrArg Prod.snd hwritten, hencode⟩
  · have hwritten := into_put packet buffer
    cases hencode : packet.encode with
    | error failure => exact absurd (hdone.symm.trans ((put_eq_error_iff buffer).mpr hencode)) nofun
    | ok wire =>
      rw [hencode] at hwritten
      exact ⟨wire, congrArg Prod.snd hwritten, wireForm_of_encode hencode, rfl⟩

end PeerLink.Packet
