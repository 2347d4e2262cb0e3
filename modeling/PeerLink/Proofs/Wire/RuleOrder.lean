import PeerLink.Proofs.Wire.RoundTrip

/-!
The rules on an input as one table over absolute positions, and the order in which they apply.
`Rule.Broken` says when an input violates a rule and `Rule.failure` which error that is, both from
the input alone, where decoding works its way from field to field with counts of what is left. The
first broken rule decides (`judged_decodeFront`); an input that breaks none is the packet whose
fields stand at their positions (`Spells`).
-/

set_option autoImplicit false
set_option relaxedAutoImplicit false

namespace PeerLink

theorem VersionPolicy.accepts_iff {versions : VersionPolicy} {version : UInt8} :
    versions.accepts version ↔ ¬ (versions = .current ∧ version ≠ 1) := by
  cases versions
  · simp [accepts, currentVersion]
  · simp [accepts]

theorem MessageType.ofTag?_eq_none_iff {tag : UInt8} : ofTag? tag = none ↔ 5 < tag := by
  have hlast : (5 : UInt8) < tag ↔ 5 < tag.toNat := UInt8.lt_iff_toNat_lt
  unfold ofTag?
  rw [List.find?_eq_none, hlast]
  simp only [all, MessageType.tag, List.forall_mem_cons, beq_iff_eq, ← UInt8.toNat_inj]
  simp
  omega

namespace Packet

/-! ### The table -/

def versionAt (bytes : Bytes) : UInt8 := bytes.getD 2 0

def tagAt (bytes : Bytes) : UInt8 := bytes.getD 3 0

/-- The octets between the type and the payload: a vector for the tags from 2 to 5. -/
def gap (bytes : Bytes) : Nat := if 2 ≤ tagAt bytes ∧ tagAt bytes ≤ 5 then 16 else 0

inductive Rule where
  | size
  | version
  | type
  | typeDeclared
  | vector
  | vectorDeclared
  | payload
  | ending
  deriving DecidableEq

namespace Rule

/-- The rules on the front of an input, in the order in which they apply. -/
def front : List Rule :=
  [size, version, type, typeDeclared, vector, vectorDeclared, payload]

/-- The rules on an input that should hold one packet. -/
def all : List Rule := front ++ [ending]

def Broken (options : DecodeOptions) (bytes : Bytes) : Rule → Prop
  | size => bytes.length < 4
  | version => options.versions = .current ∧ versionAt bytes ≠ 1
  | type => 5 < tagAt bytes
  | typeDeclared => declaredLength bytes = 0
  | vector => gap bytes = 16 ∧ bytes.length < 20
  | vectorDeclared => gap bytes = 16 ∧ declaredLength bytes < 17
  | payload => bytes.length < 3 + declaredLength bytes
  | ending => options.framing = .strict ∧ 3 + declaredLength bytes < bytes.length

instance (options : DecodeOptions) (bytes : Bytes) : DecidablePred (Broken options bytes)
  | size | type | payload => inferInstanceAs (Decidable (_ < _))
  | typeDeclared => inferInstanceAs (Decidable (_ = _))
  | version | vector | vectorDeclared | ending => inferInstanceAs (Decidable (_ ∧ _))

def failure (bytes : Bytes) : Rule → ProtocolError
  | size => .tooShort bytes.length
  | version => .unsupportedVersion (versionAt bytes)
  | type => .unknownType (tagAt bytes)
  | typeDeclared => .invalidLength 0 1
  | vector => .unreadableVector
  | vectorDeclared => .invalidLength (UInt16.ofNat (declaredLength bytes)) 17
  | payload =>
    .unreadableMessage (declaredLength bytes - 1 - gap bytes) (bytes.length - 4 - gap bytes)
  | ending => .trailingBytes (bytes.length - 3 - declaredLength bytes)

theorem category_failure (rule : Rule) (bytes : Bytes) :
    (rule.failure bytes).category = .decode := by
  cases rule <;> rfl

end Rule

/-- The packet's fields are those that stand in `bytes` at their positions. -/
structure Spells (bytes : Bytes) (packet : Packet) : Prop where
  length_eq : packet.head.length.toNat = declaredLength bytes
  version_eq : packet.head.version = versionAt bytes
  tag_eq : packet.type.tag = tagAt bytes
  vector_eq : packet.body.vector.map BodyVector.octets =
    if gap bytes = 16 then some ((bytes.take 20).drop 4) else none
  message_eq : packet.body.message =
    .ofWire packet.type ((bytes.take (3 + declaredLength bytes)).drop (4 + gap bytes))

/-- The first of the rules that is broken is the error, and without one the input is accepted. -/
def Judged {α : Type} (rules : List Rule) (options : DecodeOptions) (bytes : Bytes)
    (accepted : α → Prop) (result : Except ProtocolError α) : Prop :=
  match rules.find? fun rule ↦ rule.Broken options bytes with
  | some rule => result = .error (rule.failure bytes)
  | none => ∃ value, result = .ok value ∧ accepted value

section Judged

variable {α : Type} {rules : List Rule} {options : DecodeOptions} {bytes : Bytes}
  {accepted : α → Prop} {result : Except ProtocolError α}

theorem judged_of_broken (rule : Rule) (h : rule.Broken options bytes) :
    Judged (rule :: rules) options bytes accepted (.error (rule.failure bytes)) := by
  simp [Judged, h]

theorem judged_of_not_broken (rule : Rule) (h : ¬ rule.Broken options bytes)
    (hrest : Judged rules options bytes accepted result) :
    Judged (rule :: rules) options bytes accepted result := by
  simpa [Judged, h] using hrest

theorem Judged.map {β : Type} {acceptedThen : β → Prop} {f : α → β}
    (hf : ∀ value, accepted value → acceptedThen (f value))
    (h : Judged rules options bytes accepted result) :
    Judged rules options bytes acceptedThen (result.map f) := by
  unfold Judged at h ⊢
  split at h
  · rw [h]
    rfl
  · obtain ⟨value, rfl, haccepted⟩ := h
    exact ⟨f value, rfl, hf value haccepted⟩

/-- What stands behind the front is no matter to streaming, and nothing else asks for the
framing. -/
theorem judged_streaming :
    Judged Rule.all { options with framing := .streaming } bytes accepted result ↔
      Judged Rule.front options bytes accepted result := by
  have hending : ¬ Rule.ending.Broken { options with framing := .streaming } bytes := nofun
  have hfront : Judged Rule.front { options with framing := .streaming } bytes accepted result ↔
      Judged Rule.front options bytes accepted result := Iff.rfl
  rw [← hfront]
  unfold Judged Rule.all
  rw [List.find?_append]
  simp only [List.find?_singleton, hending, decide_false, Bool.false_eq_true, if_false,
    Option.or_none]

end Judged

/-! ### Decoding against the table -/

section Error

variable {options : DecodeOptions} {head : Header} {type : MessageType} {bytes rest : Bytes}
  {failure : ProtocolError}

/-- What a payload is rejected for, its size being what the declared length leaves for it. -/
theorem judged_of_decodePayload_error {α : Type} {accepted : α → Prop} {vector : Option BodyVector}
    (hdeclared : declaredLength bytes = head.length.toNat)
    (hlength : bytes.length = 4 + gap bytes + rest.length)
    (hsize : 1 + gap bytes ≤ head.length.toNat)
    (h : decodePayload options.framing head type vector (head.length.toNat - (1 + gap bytes)) rest =
      .error failure) :
    Judged [.payload, .ending] options bytes accepted (.error failure) := by
  unfold decodePayload at h
  split_ifs at h with hshort hlong
  · have hfailure : failure = Rule.payload.failure bytes := by
      cases h
      unfold Rule.failure
      rw [hdeclared, hlength, Nat.sub_sub, Nat.add_assoc, Nat.add_sub_cancel_left,
        Nat.add_sub_cancel_left]
    rw [hfailure]
    refine judged_of_broken .payload ?_
    change bytes.length < 3 + declaredLength bytes
    omega
  · have hfailure : failure = Rule.ending.failure bytes := by
      cases h
      unfold Rule.failure
      rw [hdeclared]
      congr 1
      omega
    rw [hfailure]
    refine judged_of_not_broken .payload ?_ (judged_of_broken .ending ⟨hlong.1, ?_⟩)
    · change ¬ bytes.length < 3 + declaredLength bytes
      omega
    · omega

/-- What a body is rejected for is the first rule behind the type that the input breaks. -/
theorem judged_of_decodeBody_error {α : Type} {accepted : α → Prop}
    (hdeclared : declaredLength bytes = head.length.toNat) (hgap : gap bytes = type.vectorSize)
    (hlength : bytes.length = 4 + rest.length)
    (h : decodeBody options.framing head type rest = .error failure) :
    Judged [.typeDeclared, .vector, .vectorDeclared, .payload, .ending] options bytes accepted
      (.error failure) := by
  have hroom := type.vectorSize_eq
  rw [decodeBody_eq, ← hgap] at h
  by_cases hzero : head.length.toNat = 0
  · have hlengthZero : head.length = 0 := UInt16.toNat_inj.mp hzero
    rw [if_pos hzero, hlengthZero] at h
    cases h
    exact judged_of_broken .typeDeclared (hdeclared.trans hzero)
  rw [if_neg hzero] at h
  refine judged_of_not_broken .typeDeclared (fun hbroken ↦ ?_) ?_
  · exact hzero (hdeclared.symm.trans hbroken)
  by_cases hvector : rest.length < gap bytes
  · rw [if_pos hvector] at h
    cases h
    exact judged_of_broken .vector ⟨by omega, by omega⟩
  rw [if_neg hvector] at h
  refine judged_of_not_broken .vector (fun hbroken ↦ ?_) ?_
  · obtain ⟨hsixteen, hshort⟩ := hbroken
    omega
  by_cases hshort : head.length.toNat < 1 + gap bytes
  · have hsixteen : gap bytes = 16 := by omega
    have hfailure : failure = Rule.vectorDeclared.failure bytes := by
      rw [if_pos hshort, hsixteen] at h
      cases h
      rw [Rule.failure, hdeclared, UInt16.ofNat_toNat]
    rw [hfailure]
    exact judged_of_broken .vectorDeclared ⟨hsixteen, by omega⟩
  rw [if_neg hshort] at h
  refine judged_of_not_broken .vectorDeclared (fun hbroken ↦ ?_) ?_
  · obtain ⟨hsixteen, hdeclaredShort⟩ := hbroken
    omega
  refine judged_of_decodePayload_error hdeclared ?_ (Nat.le_of_not_lt hshort) h
  rw [List.length_drop]
  omega

end Error

section Cons

variable {options : DecodeOptions} {high low version tag : UInt8} {rest : Bytes}
  {type : MessageType}

theorem gap_cons (h : MessageType.ofTag? tag = some type) :
    gap (high :: low :: version :: tag :: rest) = type.vectorSize := by
  have htag : type.tag = tag := MessageType.tag_of_ofTag? h
  unfold gap
  change (if 2 ≤ tag ∧ tag ≤ 5 then 16 else 0) = _
  rw [← htag]
  cases type <;> rfl

theorem declaredLength_eq_toWord : declaredLength (high :: low :: rest) =
    (Bytes.toWord high low).toNat :=
  (Bytes.toNat_toWord high low).symm

/-- A body cut from its octets holds what the table reads at their positions. -/
theorem spells_ofOctets (htype : MessageType.ofTag? tag = some type)
    (hlow : 1 + type.vectorSize ≤ (Bytes.toWord high low).toNat)
    (hhigh : (Bytes.toWord high low).toNat ≤ 1 + rest.length) :
    Spells (high :: low :: version :: tag :: rest)
      ⟨⟨Bytes.toWord high low, version⟩,
        .ofOctets type (rest.take ((Bytes.toWord high low).toNat - 1))⟩ where
  length_eq := declaredLength_eq_toWord.symm
  version_eq := rfl
  tag_eq := MessageType.tag_of_ofTag? htype
  vector_eq := by
    rw [gap_cons htype, Body.ofOctets, Body.leadingVector_take (by omega)]
    exact Body.map_octets_leadingVector (by omega)
  message_eq := by
    have hend : 3 + (Bytes.toWord high low).toNat = (Bytes.toWord high low).toNat - 1 + 4 := by
      omega
    rw [gap_cons htype, declaredLength_eq_toWord, hend, Nat.add_comm 4]
    rfl

theorem judged_decodeBody (htype : MessageType.ofTag? tag = some type) :
    Judged [.typeDeclared, .vector, .vectorDeclared, .payload, .ending] options
      (high :: low :: version :: tag :: rest)
      (fun front ↦ front.consumed = 3 + declaredLength (high :: low :: version :: tag :: rest) ∧
        Spells (high :: low :: version :: tag :: rest) front.packet)
      (decodeBody options.framing ⟨Bytes.toWord high low, version⟩ type rest) := by
  have hdeclared := @declaredLength_eq_toWord high low (version :: tag :: rest)
  have hgap := @gap_cons high low version tag rest type htype
  have hlength : (high :: low :: version :: tag :: rest).length = 4 + rest.length := by
    simp only [List.length_cons]
    omega
  cases hresult : decodeBody options.framing ⟨Bytes.toWord high low, version⟩ type rest with
  | error failure =>
    exact judged_of_decodeBody_error hdeclared hgap hlength hresult
  | ok front =>
    obtain ⟨hlow, hhigh, hstrict, rfl⟩ := eq_of_decodeBody hresult
    have hroom := type.vectorSize_eq
    dsimp only at hlow hhigh hstrict ⊢
    refine judged_of_not_broken .typeDeclared ?_ (judged_of_not_broken .vector ?_
      (judged_of_not_broken .vectorDeclared ?_ (judged_of_not_broken .payload ?_
        (judged_of_not_broken .ending ?_ ⟨_, rfl, ?_, spells_ofOctets htype hlow hhigh⟩))))
    · change ¬ declaredLength _ = 0
      omega
    · rintro ⟨hsixteen, hshort⟩
      omega
    · rintro ⟨hsixteen, hshort⟩
      omega
    · change ¬ _ < 3 + declaredLength _
      omega
    · rintro ⟨hframing, hlong⟩
      have hexact := hstrict hframing
      omega
    · rw [hdeclared]
      rfl

end Cons

/-- Decoding stops at the first broken rule, and where none is broken gives what stands there. -/
theorem judged_decodeFront (options : DecodeOptions) (bytes : Bytes) :
    Judged Rule.all options bytes
      (fun front ↦ front.consumed = 3 + declaredLength bytes ∧ Spells bytes front.packet)
      (decodeFront options bytes) := by
  match bytes with
  | [] | [_] | [_, _] | [_, _, _] => exact judged_of_broken .size (by simp [Rule.Broken])
  | high :: low :: version :: tag :: rest =>
    refine judged_of_not_broken .size (by simp [Rule.Broken]) ?_
    by_cases haccepts : options.versions.accepts version
    · refine judged_of_not_broken .version (VersionPolicy.accepts_iff.mp haccepts) ?_
      cases htype : MessageType.ofTag? tag with
      | none =>
        simp only [decodeFront, haccepts, htype, if_true]
        exact judged_of_broken .type (MessageType.ofTag?_eq_none_iff.mp htype)
      | some type =>
        rw [decodeFront_cons haccepts htype]
        have hknown : ¬ 5 < tag := by
          rw [← MessageType.ofTag?_eq_none_iff, htype]
          exact Option.some_ne_none type
        exact judged_of_not_broken .type hknown (judged_decodeBody htype)
    · simp only [decodeFront, haccepts, Bool.false_eq_true, if_false]
      exact judged_of_broken .version (not_not.mp (mt VersionPolicy.accepts_iff.mpr haccepts))

/-- What is refused breaks a rule, and the error is that rule's. -/
theorem exists_rule_of_decodeFront {options : DecodeOptions} {bytes : Bytes}
    {failure : ProtocolError} (h : decodeFront options bytes = .error failure) :
    ∃ rule : Rule, failure = rule.failure bytes := by
  have hjudged := judged_decodeFront options bytes
  unfold Judged at hjudged
  split at hjudged
  · rename_i rule _
    exact ⟨rule, Except.error.inj (h.symm.trans hjudged)⟩
  · obtain ⟨front, hfront, -⟩ := hjudged
    exact absurd (h.symm.trans hfront) nofun

theorem category_of_decodeFront {options : DecodeOptions} {bytes : Bytes} {failure : ProtocolError}
    (h : decodeFront options bytes = .error failure) : failure.category = .decode := by
  obtain ⟨rule, rfl⟩ := exists_rule_of_decodeFront h
  exact rule.category_failure bytes

/-- Decoding a whole input and decoding its front give what the table says, whatever the key: the
first broken rule is the error, and where none is broken the fields are those at their positions.
The prefix never asks for an ending and takes up as many octets as its header declares. -/
theorem judged_decodeKeyed (options : DecodeOptions) (key : Option Bytes) (bytes : Bytes) :
    Judged Rule.all options bytes (Spells bytes) (decodeKeyed options key bytes).1 ∧
      Judged Rule.front options bytes
        (fun front ↦ front.consumed = 3 + declaredLength bytes ∧ Spells bytes front.packet)
        (decodePrefixKeyed options key bytes).1 := by
  constructor
  · exact (judged_decodeFront options bytes).map fun front haccepted ↦ haccepted.2
  · exact judged_streaming.mp (judged_decodeFront { options with framing := .streaming } bytes)

/-- A header that declares nothing, of a refused version, in front of a heartbeat's type: five rules
are broken, and the version is what is reported. -/
example : Rule.all.filter (fun rule ↦ rule.Broken {} [0, 0, 9, 2]) =
    [.version, .typeDeclared, .vector, .vectorDeclared, .ending] := by decide

end Packet

end PeerLink
