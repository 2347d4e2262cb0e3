import PeerLink.Proofs.Wire.RoundTrip

/-!
Wire forms separate packets and mark their own ends. Nothing on the wire says where a vector stops
and a payload begins, but type and length settle it: octets that begin with a wire form begin with
no other one, and the packets written as that form are those that share version, type, written
vector and payload (`Packet.SameOnWire`). All that a packet holds beyond these four is ignored, and
nothing else is (`Packet.wire_forms_prefix_free`).
-/

set_option autoImplicit false
set_option relaxedAutoImplicit false

namespace PeerLink.Packet

/-- Two packets that the wire does not tell apart. -/
structure SameOnWire (first second : Packet) : Prop where
  version_eq : first.head.version = second.head.version
  type_eq : first.type = second.type
  wireVector_eq : first.body.wireVector = second.body.wireVector
  payload_eq : first.body.message.payload = second.body.message.payload

variable {first second : Packet} {wire other : Bytes}

/-- A vector that has to be there is on the wire if it is there at all. -/
theorem IsEncodable.wireVector_isSome (h : first.IsEncodable)
    (hcarries : first.type.carriesVector) : first.body.wireVector.isSome := by
  rw [Body.wireVector_of_carriesVector hcarries]
  exact h.vector_isSome hcarries

namespace SameOnWire

theorem wireLength_eq (h : first.SameOnWire second) :
    first.body.wireLength = second.body.wireLength := by
  unfold Body.wireLength Message.wireLength
  rw [h.wireVector_eq, h.payload_eq]

theorem canonical_eq (h : first.SameOnWire second) : first.canonical = second.canonical := by
  unfold canonical
  rw [h.wireLength_eq, h.version_eq, h.type_eq, h.wireVector_eq, h.payload_eq]

theorem write_eq (h : first.SameOnWire second) : first.body.write = second.body.write := by
  have htype : first.body.type = second.body.type := h.type_eq
  unfold Body.write Message.write
  rw [htype, h.wireVector_eq, h.payload_eq]

theorem isEncodable (h : first.SameOnWire second) (hfirst : first.IsEncodable) :
    second.IsEncodable where
  vector_isSome hcarries := by
    have hwritten := hfirst.wireVector_isSome (h.type_eq ▸ hcarries)
    rwa [h.wireVector_eq, Body.wireVector_of_carriesVector hcarries] at hwritten
  wireLength_le := h.wireLength_eq ▸ hfirst.wireLength_le

theorem encode_eq (h : first.SameOnWire second) (hfirst : first.encode = .ok wire) :
    second.encode = .ok wire := by
  obtain ⟨hencodable, rfl⟩ := encode_eq_ok_iff.mp hfirst
  exact encode_eq_ok_iff.mpr ⟨h.isEncodable hencodable, by rw [h.canonical_eq, h.write_eq]⟩

/-- The canonical form keeps what the wire shows. -/
theorem of_canonical_eq (h : first.canonical = second.canonical) : first.SameOnWire second where
  version_eq := congrArg (fun packet ↦ packet.head.version) h
  type_eq := congrArg (fun packet ↦ packet.body.type) h
  wireVector_eq := congrArg (fun packet ↦ packet.body.vector) h
  payload_eq := by
    have hmessage := congrArg (fun packet ↦ packet.body.message.payload) h
    unfold canonical at hmessage
    simpa only [Message.payload_ofWire] using hmessage

end SameOnWire

/-- The octets behind a wire form say nothing of the packet, so reading the front finds the packet
and its end in all of them. -/
theorem sameOnWire_of_append_eq (hfirst : first.encode = .ok wire)
    (hsecond : second.encode = .ok other) {behind rest : Bytes}
    (h : wire ++ behind = other ++ rest) :
    first.SameOnWire second ∧ wire.length = other.length := by
  have hread : decodeFront ⟨.streaming, .any⟩ (wire ++ behind) =
      .ok ⟨first.canonical, wire.length⟩ :=
    (decodeFront_encode_append hfirst ⟨.streaming, .any⟩ behind).trans
      ((if_pos rfl).trans (if_neg nofun))
  have hother : decodeFront ⟨.streaming, .any⟩ (other ++ rest) =
      .ok ⟨second.canonical, other.length⟩ :=
    (decodeFront_encode_append hsecond ⟨.streaming, .any⟩ rest).trans
      ((if_pos rfl).trans (if_neg nofun))
  rw [h, hother] at hread
  have hfront := Except.ok.inj hread
  exact ⟨.of_canonical_eq (congrArg Front.packet hfront).symm,
    (congrArg Front.consumed hfront).symm⟩

theorem append_eq_append_iff_sameOnWire (hfirst : first.encode = .ok wire)
    (hsecond : second.encode = .ok other) (behind rest : Bytes) :
    wire ++ behind = other ++ rest ↔ behind = rest ∧ first.SameOnWire second := by
  constructor
  · intro h
    obtain ⟨hsame, hlength⟩ := sameOnWire_of_append_eq hfirst hsecond h
    exact ⟨(List.append_inj h hlength).2, hsame⟩
  · rintro ⟨rfl, hsame⟩
    rw [Except.ok.inj ((hsame.encode_eq hfirst).symm.trans hsecond)]

/-- Octets that begin with the wire forms of two packets are told apart by nothing but the octets
behind: the packets are the same on the wire. So a packet's wire form is kept by every change to its
declared length, to a vector that its type does not carry and to the variant of its message, by no
other change, and it is no proper beginning of another's. -/
theorem wire_forms_prefix_free (hfirst : first.encode = .ok wire)
    (hsecond : second.encode = .ok other) :
    (∀ behind rest : Bytes,
      wire ++ behind = other ++ rest ↔ behind = rest ∧ first.SameOnWire second) ∧
      (∀ changed : Packet, changed.encode = .ok wire ↔
        changed.head.version = first.head.version ∧ changed.type = first.type ∧
          (first.type.carriesVector → changed.body.vector = first.body.vector) ∧
          changed.body.message.payload = first.body.message.payload) ∧
      (wire <+: other → wire = other) := by
  have hforms := append_eq_append_iff_sameOnWire hfirst hsecond
  refine ⟨hforms, fun changed ↦ ⟨fun h ↦ ?_, ?_⟩, ?_⟩
  · obtain ⟨hsame, -⟩ := sameOnWire_of_append_eq h hfirst (rfl : wire ++ [] = wire ++ [])
    refine ⟨hsame.version_eq, hsame.type_eq, fun hcarries ↦ ?_, hsame.payload_eq⟩
    have hchanged : changed.type.carriesVector := hsame.type_eq ▸ hcarries
    rw [← Body.wireVector_of_carriesVector hchanged, hsame.wireVector_eq,
      Body.wireVector_of_carriesVector hcarries]
  · rintro ⟨hversion, htype, hvector, hpayload⟩
    have hsame : first.SameOnWire changed := by
      refine ⟨hversion.symm, htype.symm, ?_, hpayload.symm⟩
      have htypes : changed.body.type = first.body.type := htype
      unfold Body.wireVector
      rw [htypes]
      split_ifs with hcarries
      · exact (hvector hcarries).symm
      · rfl
    exact hsame.encode_eq hfirst
  · rintro ⟨rest, hrest⟩
    obtain ⟨hnil, -⟩ := (hforms rest []).mp (hrest.trans (List.append_nil other).symm)
    rw [← hrest, hnil, List.append_nil]

/-- Seventeen octets behind the type: with one type a vector and one octet, with the other a
payload. The wire keeps the two apart, and it does not show the stale length and variant of the
third. -/
theorem wire_forms_prefix_free_zero_payload :
    let heartbeat : Packet := ⟨⟨18, 1⟩, ⟨.heartbeat, some .zero, .undecoded [1]⟩⟩
    let acknowledgement : Packet := .ok (List.replicate 16 0 ++ [1])
    let stale : Packet := ⟨⟨999, 1⟩, ⟨.heartbeat, some .zero, .ok [1]⟩⟩
    let wire : Bytes := [0, 18, 1, 2] ++ List.replicate 16 0 ++ [1]
    let other : Bytes := [0, 18, 1, 1] ++ List.replicate 16 0 ++ [1]
    heartbeat.encode = .ok wire ∧ acknowledgement.encode = .ok other ∧
      (∀ behind rest : Bytes, wire ++ behind ≠ other ++ rest) ∧ stale.encode = .ok wire := by
  intro heartbeat acknowledgement stale wire other
  have hfirst : heartbeat.encode = .ok wire :=
    encode_eq_ok_iff.mpr ⟨⟨by decide, by decide⟩, by decide⟩
  have hsecond : acknowledgement.encode = .ok other :=
    encode_eq_ok_iff.mpr ⟨⟨by decide, by decide⟩, by decide⟩
  obtain ⟨hforms, hignored, -⟩ := wire_forms_prefix_free hfirst hsecond
  refine ⟨hfirst, hsecond, fun behind rest hequal ↦ ?_, ?_⟩
  · exact absurd ((hforms behind rest).mp hequal).2.type_eq (by decide)
  · exact (hignored stale).mpr ⟨rfl, rfl, fun _ ↦ rfl, rfl⟩

end PeerLink.Packet
