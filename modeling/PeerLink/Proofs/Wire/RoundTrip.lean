import Mathlib.Logic.Basic
import PeerLink.Proofs.Wire.BodyRules
import PeerLink.Wire.SessionKey

/-!
Encoding and decoding undo each other up to what the wire form does not show. A packet that can be
encoded is decoded as its canonical form, whatever stands behind it (`decodeFront_encode_append`);
an accepted packet is canonical, and encoding it gives back the octets it was read from
(`accepted_of_decodeFront`). Both directions hold for every type, and a session key changes neither.
-/

set_option autoImplicit false
set_option relaxedAutoImplicit false

namespace PeerLink.Packet

/-! ### Canonical packets -/

/-- The packet holds nothing that its wire form does not show. -/
structure IsCanonical (packet : Packet) : Prop where
  length_eq : packet.head.length.toNat = packet.body.wireLength
  vector_eq : packet.body.vector = packet.body.wireVector
  message_eq : packet.body.message = .ofWire packet.type packet.body.message.payload

/-- The packet has a wire form. -/
structure IsEncodable (packet : Packet) : Prop where
  vector_isSome : packet.body.type.carriesVector → packet.body.vector.isSome
  wireLength_le : packet.body.wireLength ≤ maxBody

theorem encode_eq_ok_iff {packet : Packet} {wire : Bytes} :
    packet.encode = .ok wire ↔
      packet.IsEncodable ∧ wire = packet.canonical.head.write ++ packet.body.write := by
  have hvector : (packet.type.carriesVector && packet.body.vector.isNone) = true ↔
      ¬ (packet.body.type.carriesVector → packet.body.vector.isSome) := by
    simp [type]
  unfold encode
  split_ifs with hmissing hlarge
  · refine ⟨fun h ↦ (nomatch h), fun h ↦ ?_⟩
    exact absurd h.1.vector_isSome (hvector.mp hmissing)
  · refine ⟨fun h ↦ (nomatch h), fun h ↦ ?_⟩
    exact absurd h.1.wireLength_le (Nat.not_le_of_lt hlarge)
  · have hencodable : packet.IsEncodable :=
      ⟨not_not.mp fun h ↦ hmissing (hvector.mpr h), Nat.le_of_not_lt hlarge⟩
    constructor
    · intro h
      exact ⟨hencodable, (Except.ok.inj h).symm⟩
    · rintro ⟨-, rfl⟩
      rfl

/-- A length that fits the field is written as it is. -/
theorem IsEncodable.length_canonical {packet : Packet} (h : packet.IsEncodable) :
    packet.canonical.head.length.toNat = packet.body.wireLength := by
  have hsize := h.wireLength_le
  unfold maxBody at hsize
  change (UInt16.ofNat packet.body.wireLength).toNat = _
  rw [UInt16.toNat_ofNat']
  exact Nat.mod_eq_of_lt (by omega)

theorem IsEncodable.canonical_eq_self_iff {packet : Packet} (h : packet.IsEncodable) :
    packet.canonical = packet ↔ packet.IsCanonical := by
  constructor
  · intro heq
    refine ⟨?_, ?_, ?_⟩
    · rw [← h.length_canonical, heq]
    · exact (congrArg (fun other ↦ other.body.vector) heq).symm
    · exact (congrArg (fun other ↦ other.body.message) heq).symm
  · intro hcanonical
    have hlength : UInt16.ofNat packet.body.wireLength = packet.head.length :=
      UInt16.toNat_inj.mp (h.length_canonical.trans hcanonical.length_eq.symm)
    unfold canonical
    rw [hlength, ← hcanonical.vector_eq, ← hcanonical.message_eq]
    rfl

/-! ### Decoding what was encoded -/

/-- The canonical form is read back from the front of any longer input, unless the version is
refused or strict framing finds octets behind it. -/
theorem decodeFront_encode_append {packet : Packet} {wire : Bytes} (h : packet.encode = .ok wire)
    (options : DecodeOptions) (rest : Bytes) :
    decodeFront options (wire ++ rest) =
      if options.versions.accepts packet.head.version then
        if options.framing = .strict ∧ rest ≠ [] then
          .error (.trailingBytes rest.length)
        else
          .ok ⟨packet.canonical, wire.length⟩
      else
        .error (.unsupportedVersion packet.head.version) := by
  have hsize := length_of_encode h
  obtain ⟨hencodable, rfl⟩ := encode_eq_ok_iff.mp h
  have hlength := hencodable.length_canonical
  have hbody := decodeBody_write_append options.framing hencodable.vector_isSome hlength rest
  rw [hlength] at hbody
  rw [hsize]
  simp only [Header.write, Bytes.ofWord, Body.write, Message.write, List.cons_append,
    List.nil_append, List.append_assoc, decodeFront, Bytes.toWord_ofWord, MessageType.ofTag?_tag]
  exact if_congr Iff.rfl hbody rfl

/-- Alone, without octets behind it, the wire form is judged by its version only. -/
theorem decodeWith_encode {packet : Packet} {wire : Bytes} (h : packet.encode = .ok wire)
    (options : DecodeOptions) :
    decodeWith options wire =
      if options.versions.accepts packet.head.version then
        .ok packet.canonical
      else
        .error (.unsupportedVersion packet.head.version) := by
  have hfront := decodeFront_encode_append h options []
  rw [List.append_nil] at hfront
  unfold decodeWith
  rw [hfront]
  split_ifs with haccepts hstrict
  · exact absurd rfl hstrict.2
  · rfl
  · rfl

/-- A packet is read back as its canonical form, so unchanged exactly if it held nothing that the
wire form does not show; the default options also ask for version 1. -/
theorem decodeKeyed_encode {packet : Packet} {wire : Bytes} (h : packet.encode = .ok wire)
    (key : Option Bytes) :
    (decodeKeyed ⟨.strict, .any⟩ key wire).1 = .ok packet.canonical ∧
      packet.canonical.head.length.toNat = packet.body.wireLength ∧
      ((decodeKeyed ⟨.strict, .any⟩ key wire).1 = .ok packet ↔ packet.IsCanonical) ∧
      (decodeKeyed {} key wire).1 =
        (if packet.head.version = 1 then .ok packet.canonical
        else .error (.unsupportedVersion packet.head.version)) ∧
      decode wire = (decodeKeyed {} key wire).1 := by
  have hencodable := (encode_eq_ok_iff.mp h).1
  have hany : (decodeKeyed ⟨.strict, .any⟩ key wire).1 = .ok packet.canonical :=
    decodeWith_encode h ⟨.strict, .any⟩
  have hcurrent : VersionPolicy.current.accepts packet.head.version ↔ packet.head.version = 1 :=
    beq_iff_eq
  refine ⟨hany, hencodable.length_canonical, ?_, ?_, rfl⟩
  · rw [hany, Except.ok.injEq]
    exact hencodable.canonical_eq_self_iff
  · exact (decodeWith_encode h {}).trans (if_congr hcurrent rfl rfl)

/-- Nothing of this handshake's header length, vector or message variant survives, and only
lenient options pass its version. -/
theorem decodeKeyed_encode_stale_handshake :
    let packet : Packet := ⟨⟨999, 7⟩, ⟨.handshake, some .zero, .undecoded [0x68, 0x69]⟩⟩
    packet.encode = .ok [0, 3, 7, 0, 0x68, 0x69] ∧
      (decodeKeyed ⟨.strict, .any⟩ (some [1]) [0, 3, 7, 0, 0x68, 0x69]).1 =
        .ok ⟨⟨3, 7⟩, ⟨.handshake, none, .handshake [0x68, 0x69]⟩⟩ ∧
      ¬ packet.IsCanonical ∧
      decode [0, 3, 7, 0, 0x68, 0x69] = .error (.unsupportedVersion 7) := by
  intro packet
  have hencode : packet.encode = .ok [0, 3, 7, 0, 0x68, 0x69] :=
    encode_eq_ok_iff.mpr ⟨⟨by decide, by decide⟩, by decide⟩
  obtain ⟨hany, -, hself, hdefault, hdecode⟩ := decodeKeyed_encode hencode (some [1])
  refine ⟨hencode, hany, fun hcanonical ↦ ?_, hdecode.trans hdefault⟩
  have hsame : packet.canonical = packet :=
    Except.ok.inj (hany.symm.trans (hself.mpr hcanonical))
  exact absurd hsame (by decide)

/-! ### Encoding what was decoded -/

section OfOctets

variable {head : Header} {type : MessageType} {octets : Bytes}

theorem isCanonical_ofOctets (hroom : type.vectorSize ≤ octets.length)
    (hlength : head.length.toNat = 1 + octets.length) :
    IsCanonical ⟨head, .ofOctets type octets⟩ where
  length_eq := hlength.trans (Body.wireLength_ofOctets hroom).symm
  vector_eq := (Body.wireVector_ofOctets type octets).symm
  message_eq := congrArg (Message.ofWire type) (Message.payload_ofWire type _).symm

theorem encode_ofOctets (hroom : type.vectorSize ≤ octets.length)
    (hlength : head.length.toNat = 1 + octets.length) :
    encode ⟨head, .ofOctets type octets⟩ = .ok (head.write ++ type.tag :: octets) := by
  have hwire := Body.wireLength_ofOctets hroom
  have hsize : head.length.toNat ≤ maxBody := Nat.le_of_lt_succ head.length.toNat_lt
  refine encode_eq_ok_iff.mpr ⟨⟨fun hcarries ↦ ?_, ?_⟩, ?_⟩
  · exact (Body.leadingVector_isSome hroom).trans hcarries
  · rwa [hwire, ← hlength]
  · rw [Body.write_ofOctets hroom, canonical, hwire, ← hlength, UInt16.ofNat_toNat]

end OfOctets

/-- What the length field at the front of `bytes` declares, zero while the field is not there. -/
def declaredLength : Bytes → Nat
  | high :: low :: _ => 256 * high.toNat + low.toNat
  | _ => 0

/-- What it means that `front` was accepted at the front of `bytes`. -/
structure Accepted (options : DecodeOptions) (bytes : Bytes) (front : Front) : Prop where
  version : options.versions.accepts front.packet.head.version
  canonical : front.packet.IsCanonical
  vector_iff : front.packet.body.vector.isSome ↔ front.packet.type.carriesVector
  declared_eq : front.packet.head.length.toNat = declaredLength bytes
  consumed_eq : front.consumed = Header.size + front.packet.head.length.toNat
  consumed_ge : minSize ≤ front.consumed
  consumed_le : front.consumed ≤ bytes.length
  exact : options.framing = .strict → front.consumed = bytes.length
  encode_eq : front.packet.encode = .ok (bytes.take front.consumed)

theorem accepted_of_decodeFront {options : DecodeOptions} {bytes : Bytes} {front : Front}
    (h : decodeFront options bytes = .ok front) : Accepted options bytes front := by
  unfold decodeFront at h
  split at h
  case h_2 => cases h
  rename_i high low version tag rest
  split_ifs at h with haccepts
  split at h
  case h_1 => cases h
  rename_i type htype
  obtain ⟨hlow, hhigh, hstrict, rfl⟩ := eq_of_decodeBody h
  dsimp only at hlow hhigh hstrict ⊢
  generalize hoctets : rest.take ((Bytes.toWord high low).toNat - 1) = octets
  have hlength : (Bytes.toWord high low).toNat = 1 + octets.length := by
    rw [← hoctets, List.length_take]
    omega
  have hroom : type.vectorSize ≤ octets.length := by omega
  have hconsumed : Header.size + (Bytes.toWord high low).toNat =
      (Bytes.toWord high low).toNat - 1 + 4 := by
    unfold Header.size
    omega
  refine ⟨haccepts, isCanonical_ofOctets hroom hlength, ?_,
    Bytes.toNat_toWord high low, rfl, ?_, ?_, fun hs ↦ ?_, ?_⟩
  · exact iff_of_eq (congrArg (· = true) (Body.leadingVector_isSome hroom))
  · exact Nat.add_le_add_left (by omega) Header.size
  · rw [hconsumed]
    simp only [List.length_cons]
    omega
  · have hall := hstrict hs
    rw [hconsumed]
    simp only [List.length_cons]
    omega
  · rw [encode_ofOctets hroom hlength, hconsumed, MessageType.tag_of_ofTag? htype, Header.write,
      Bytes.ofWord_toWord, ← hoctets]
    rfl

/-- A packet that fills its input is encoded as that input. -/
theorem encode_of_decodeWith {options : DecodeOptions} (hstrict : options.framing = .strict)
    {bytes : Bytes} {packet : Packet} (h : decodeWith options bytes = .ok packet) :
    packet.encode = .ok bytes := by
  obtain ⟨front, hfront, rfl⟩ := decodeWith_eq_ok_iff.mp h
  have haccepted := accepted_of_decodeFront hfront
  have hencode := haccepted.encode_eq
  rwa [haccepted.exact hstrict, List.take_length] at hencode

/-- An accepted packet is canonical and written as exactly the octets it was read from; so under
strict framing no two inputs are read as one packet, whatever the keys and the version policies. -/
theorem encode_decodePrefixKeyed (options : DecodeOptions) (key : Option Bytes) (bytes : Bytes) :
    (∀ front, (decodePrefixKeyed options key bytes).1 = .ok front →
      4 ≤ front.consumed ∧ front.consumed ≤ bytes.length ∧
        front.consumed = front.packet.wireLength ∧
        front.consumed = 3 + front.packet.head.length.toNat ∧
        front.packet.head.length.toNat = front.packet.body.wireLength ∧
        (front.packet.body.vector.isSome ↔ front.packet.type.carriesVector) ∧
        front.packet.body.message =
          .ofWire front.packet.type front.packet.body.message.payload ∧
        front.packet.encode = .ok (bytes.take front.consumed)) ∧
      (∀ packet, (decodeKeyed {} key bytes).1 = .ok packet → packet.encode = .ok bytes) ∧
      (options.framing = .strict → ∀ packet, (decodeKeyed options key bytes).1 = .ok packet →
        packet.encode = .ok bytes ∧
          ∀ (otherOptions : DecodeOptions) (otherKey : Option Bytes) (other : Bytes),
            otherOptions.framing = .strict →
              (decodeKeyed otherOptions otherKey other).1 = .ok packet → other = bytes) := by
  refine ⟨fun front h ↦ ?_, fun packet h ↦ encode_of_decodeWith rfl h, fun hstrict packet h ↦ ?_⟩
  · have haccepted := accepted_of_decodeFront h
    have hlength := haccepted.canonical.length_eq
    refine ⟨haccepted.consumed_ge, haccepted.consumed_le, ?_, haccepted.consumed_eq, hlength,
      haccepted.vector_iff, haccepted.canonical.message_eq, haccepted.encode_eq⟩
    rw [haccepted.consumed_eq, hlength, wireLength]
  · have hencode := encode_of_decodeWith hstrict h
    refine ⟨hencode, fun otherOptions otherKey other hother hsame ↦ ?_⟩
    exact Except.ok.inj ((encode_of_decodeWith hother hsame).symm.trans hencode)

/-- The shortest body that holds a vector: declared length 17 and no payload. -/
theorem encode_decodePrefixKeyed_bare_vector :
    let vector : BodyVector := ⟨List.replicate 16 9, rfl⟩
    let packet : Packet := ⟨⟨17, 1⟩, ⟨.gone, some vector, .undecoded []⟩⟩
    let bytes : Bytes := [0, 17, 1, 3] ++ List.replicate 16 9
    (decodePrefixKeyed {} none bytes).1 = .ok ⟨packet, 20⟩ ∧ packet.wireLength = 20 ∧
      packet.encode = .ok bytes ∧
      ∀ (key : Option Bytes) (other : Bytes),
        (decodeKeyed ⟨.strict, .any⟩ key other).1 = .ok packet → other = bytes := by
  intro vector packet bytes
  have hdecoded : (decodePrefixKeyed {} none bytes).1 = .ok ⟨packet, 20⟩ := rfl
  have hstrict : (decodeKeyed {} none bytes).1 = .ok packet := rfl
  obtain ⟨hfront, hdefault, hexact⟩ := encode_decodePrefixKeyed {} none bytes
  obtain ⟨-, -, hsize, -⟩ := hfront _ hdecoded
  refine ⟨hdecoded, hsize.symm, hdefault packet hstrict, fun key other hother ↦ ?_⟩
  exact (hexact rfl packet hstrict).2 ⟨.strict, .any⟩ key other rfl hother

end PeerLink.Packet
