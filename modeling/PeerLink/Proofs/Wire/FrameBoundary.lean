import Mathlib.Tactic.ByContra
import PeerLink.Proofs.Wire.RoundTrip
import PeerLink.Wire.FrameBuffer

/-!
Where a frame ends, and what a step makes of it. A step waits for `frameEnd` octets and then gives
the strict verdict on exactly these (`step_eq`), so octets that arrive later never change a verdict
(`step_append`). Decoding the front of the whole buffer shows the same, but for one case: a declared
length that ends inside a vector which the octets behind the frame could fill
(`decodePrefix_eq_verdict`).
-/

set_option autoImplicit false
set_option relaxedAutoImplicit false

namespace PeerLink

open Packet (declaredLength)

namespace FrameStep

/-- The step that takes a decoded frame off a buffer. -/
def ofVerdict : Except ProtocolError Packet → Bytes → FrameStep
  | .ok decoded, rest => .packet decoded rest
  | .error failure, rest => .failed failure rest

@[simp] theorem ofVerdict_ne_waiting (result : Except ProtocolError Packet) (rest : Bytes) :
    ofVerdict result rest ≠ .waiting := by
  cases result <;> exact nofun

@[simp] theorem ofVerdict_inj {first second : Except ProtocolError Packet}
    {firstRest secondRest : Bytes} :
    ofVerdict first firstRest = ofVerdict second secondRest ↔
      first = second ∧ firstRest = secondRest := by
  cases first <;> cases second <;> simp [ofVerdict]

end FrameStep

namespace FrameBuffer

/-! ### The end of the first frame -/

/-- How many octets decide the front of `buffer`: the declared frame, or as many as can be decoded
at all if the declared length is zero. -/
def frameEnd (buffer : Bytes) : Nat :=
  if declaredLength buffer = 0 then Packet.minSize else Header.size + declaredLength buffer

/-- The strict verdict on the octets that decide the front of `buffer`. -/
def verdict (options : DecodeOptions) (buffer : Bytes) : Except ProtocolError Packet :=
  Packet.decodeWith { options with framing := .strict } (buffer.take (frameEnd buffer))

/-- What a decided front leaves in the buffer: a header of length zero is never taken off. -/
def remainder (buffer : Bytes) : Bytes :=
  if declaredLength buffer = 0 then buffer else buffer.drop (frameEnd buffer)

theorem minSize_le_frameEnd (buffer : Bytes) : Packet.minSize ≤ frameEnd buffer := by
  unfold frameEnd Packet.minSize
  split_ifs <;> omega

theorem lt_frameEnd_iff (buffer : Bytes) :
    buffer.length < frameEnd buffer ↔
      buffer.length < 2 ∨ declaredLength buffer = 0 ∧ buffer.length < 4 ∨
        1 ≤ declaredLength buffer ∧ buffer.length < 3 + declaredLength buffer := by
  unfold frameEnd Packet.minSize Header.size
  split_ifs <;> omega

theorem frameSize?_eq (buffer : Bytes) :
    frameSize? buffer =
      if buffer.length < 2 then none else some (Header.size + declaredLength buffer) := by
  match buffer with
  | [] | [_] => rfl
  | high :: low :: rest =>
    have hlength : ¬ (high :: low :: rest).length < 2 := by simp
    rw [if_neg hlength]
    exact congrArg (fun declared ↦ some (Header.size + declared)) (Bytes.toNat_toWord high low)

/-- Four octets that declare length zero are never a packet, whatever follows them. -/
theorem decodeFront_of_declaredLength_eq_zero (options : DecodeOptions) {buffer : Bytes}
    (h : declaredLength buffer = 0) :
    ∃ failure, Packet.decodeFront options buffer = .error failure := by
  cases hfront : Packet.decodeFront options buffer with
  | error failure => exact ⟨failure, rfl⟩
  | ok front =>
    have haccepted := Packet.accepted_of_decodeFront hfront
    have hconsumed := haccepted.consumed_ge
    rw [haccepted.consumed_eq, haccepted.declared_eq, h] at hconsumed
    exact absurd hconsumed (by decide)

theorem zeroLengthError_eq (options : DecodeOptions) {buffer : Bytes}
    (hzero : declaredLength buffer = 0) (hlength : Packet.minSize ≤ buffer.length) :
    verdict options buffer = .error (zeroLengthError options buffer) := by
  have htaken : declaredLength (buffer.take Packet.minSize) = 0 := by
    match buffer, hlength with
    | _ :: _ :: _, _ => exact hzero
  obtain ⟨failure, hfailure⟩ :=
    decodeFront_of_declaredLength_eq_zero { options with framing := .strict } htaken
  rw [verdict, frameEnd, if_pos hzero, Packet.decodeWith, zeroLengthError, hfailure]
  rfl

/-- All that a step does: it waits for the octets that decide the front, then gives the verdict. -/
theorem step_eq (options : DecodeOptions) (buffer : Bytes) :
    step options buffer =
      if buffer.length < frameEnd buffer then .waiting
      else .ofVerdict (verdict options buffer) (remainder buffer) := by
  have hmin := minSize_le_frameEnd buffer
  unfold Packet.minSize Header.size at hmin
  unfold step
  rw [frameSize?_eq]
  by_cases hfield : buffer.length < 2
  · rw [if_pos hfield]
    exact (if_pos (by omega : buffer.length < frameEnd buffer)).symm
  rw [if_neg hfield]
  dsimp only
  by_cases hzero : declaredLength buffer = 0
  · rw [if_pos (by omega)]
    by_cases hlength : buffer.length < Packet.minSize
    · rw [if_pos hlength, frameEnd, if_pos hzero, if_pos hlength]
    · have hverdict := zeroLengthError_eq options hzero (Nat.le_of_not_lt hlength)
      rw [if_neg hlength, hverdict, frameEnd, if_pos hzero, if_neg hlength, remainder,
        if_pos hzero]
      rfl
  · have hframe : frameEnd buffer = Header.size + declaredLength buffer := if_neg hzero
    rw [if_neg (by omega), ← hframe]
    by_cases hlength : buffer.length < frameEnd buffer
    · rw [if_pos hlength, if_pos hlength]
    · rw [if_neg hlength, if_neg hlength, verdict, Packet.decodeWith, remainder, if_neg hzero]
      cases Packet.decodeFront { options with framing := .strict }
          (buffer.take (frameEnd buffer)) <;> rfl

theorem step_of_le {options : DecodeOptions} {buffer : Bytes}
    (h : frameEnd buffer ≤ buffer.length) :
    step options buffer = .ofVerdict (verdict options buffer) (remainder buffer) := by
  rw [step_eq, if_neg (Nat.not_lt_of_le h)]

theorem step_eq_waiting_iff {options : DecodeOptions} {buffer : Bytes} :
    step options buffer = .waiting ↔ buffer.length < frameEnd buffer := by
  rw [step_eq]
  split_ifs with hlength <;> simp [hlength]

theorem step_eq_ofVerdict_iff {options : DecodeOptions} {buffer rest : Bytes}
    (result : Except ProtocolError Packet) :
    step options buffer = .ofVerdict result rest ↔
      frameEnd buffer ≤ buffer.length ∧ verdict options buffer = result ∧
        rest = remainder buffer := by
  rw [step_eq]
  split_ifs with hlength
  · have hle : ¬ frameEnd buffer ≤ buffer.length := Nat.not_le_of_lt hlength
    simp [hle, (FrameStep.ofVerdict_ne_waiting result rest).symm]
  · rw [FrameStep.ofVerdict_inj, eq_comm (a := rest)]
    simp [Nat.le_of_not_lt hlength]

theorem step_eq_packet_iff {options : DecodeOptions} {buffer rest : Bytes} {packet : Packet} :
    step options buffer = .packet packet rest ↔
      frameEnd buffer ≤ buffer.length ∧ verdict options buffer = .ok packet ∧
        rest = remainder buffer :=
  step_eq_ofVerdict_iff (.ok packet)

theorem step_eq_failed_iff {options : DecodeOptions} {buffer rest : Bytes}
    {failure : ProtocolError} :
    step options buffer = .failed failure rest ↔
      frameEnd buffer ≤ buffer.length ∧ verdict options buffer = .error failure ∧
        rest = remainder buffer :=
  step_eq_ofVerdict_iff (.error failure)

/-- Only a frame that can hold a type is ever a packet. -/
theorem declaredLength_pos_of_verdict {options : DecodeOptions} {buffer : Bytes} {packet : Packet}
    (hlength : frameEnd buffer ≤ buffer.length) (h : verdict options buffer = .ok packet) :
    1 ≤ declaredLength buffer := by
  by_contra hzero
  have hzero : declaredLength buffer = 0 := by omega
  have hmin := Nat.le_trans (minSize_le_frameEnd buffer) hlength
  rw [zeroLengthError_eq options hzero hmin] at h
  cases h

theorem remainder_of_pos {buffer : Bytes} (h : 1 ≤ declaredLength buffer) :
    remainder buffer = buffer.drop (3 + declaredLength buffer) := by
  have hzero : ¬ declaredLength buffer = 0 := by omega
  rw [remainder, if_neg hzero, frameEnd, if_neg hzero]
  rfl

/-! ### Octets that arrive later -/

section Append

variable {buffer : Bytes} (later : Bytes)

theorem declaredLength_append (h : 2 ≤ buffer.length) :
    declaredLength (buffer ++ later) = declaredLength buffer := by
  match buffer, h with
  | _ :: _ :: _, _ => rfl

theorem frameEnd_append (h : 2 ≤ buffer.length) : frameEnd (buffer ++ later) = frameEnd buffer := by
  unfold frameEnd
  rw [declaredLength_append later h]

/-- A frame that is not there yet does not end among the octets that are. -/
theorem lt_frameEnd_append (h : buffer.length < frameEnd buffer) :
    buffer.length < frameEnd (buffer ++ later) := by
  by_cases hfield : 2 ≤ buffer.length
  · rwa [frameEnd_append later hfield]
  · have hmin := minSize_le_frameEnd (buffer ++ later)
    unfold Packet.minSize Header.size at hmin
    omega

variable (h : frameEnd buffer ≤ buffer.length)
include h

theorem two_le_length : 2 ≤ buffer.length := by
  have hmin := minSize_le_frameEnd buffer
  unfold Packet.minSize Header.size at hmin
  omega

theorem frameEnd_le_append : frameEnd (buffer ++ later) ≤ (buffer ++ later).length := by
  rw [frameEnd_append later (two_le_length h), List.length_append]
  omega

theorem verdict_append (options : DecodeOptions) :
    verdict options (buffer ++ later) = verdict options buffer := by
  unfold verdict
  rw [frameEnd_append later (two_le_length h), List.take_append_of_le_length h]

theorem remainder_append : remainder (buffer ++ later) = remainder buffer ++ later := by
  unfold remainder
  rw [declaredLength_append later (two_le_length h), frameEnd_append later (two_le_length h),
    List.drop_append_of_le_length h]
  split_ifs <;> rfl

/-- A front that is decided stays decided, and what arrives later is left in the buffer. -/
theorem step_append (options : DecodeOptions) :
    step options (buffer ++ later) =
      .ofVerdict (verdict options buffer) (remainder buffer ++ later) := by
  rw [step_of_le (frameEnd_le_append later h), verdict_append later h, remainder_append later h]

end Append

/-! ### The front of the whole buffer -/

/-- The declared length ends inside the vector of an accepted type, and octets behind the frame
could fill the vector up. -/
structure EndsInsideVector (versions : VersionPolicy) (buffer : Bytes) : Prop where
  version : ∃ version, buffer[2]? = some version ∧ versions.accepts version
  type : ∃ tag type, buffer[3]? = some tag ∧ MessageType.ofTag? tag = some type ∧
    type.carriesVector
  declared_ge : 1 ≤ declaredLength buffer
  declared_le : declaredLength buffer ≤ 16
  length_ge : 20 ≤ buffer.length

section Cons

variable {high low version tag : UInt8} {rest : Bytes} {type : MessageType}

theorem declaredLength_cons :
    declaredLength (high :: low :: rest) = 256 * high.toNat + low.toNat := rfl

theorem endsInsideVector_cons_iff {versions : VersionPolicy}
    (haccepts : versions.accepts version) (htype : MessageType.ofTag? tag = some type) :
    EndsInsideVector versions (high :: low :: version :: tag :: rest) ↔
      1 ≤ (Bytes.toWord high low).toNat ∧
        (Bytes.toWord high low).toNat < 1 + type.vectorSize ∧ type.vectorSize ≤ rest.length := by
  rw [Bytes.toNat_toWord]
  unfold MessageType.vectorSize BodyVector.size
  constructor
  · rintro ⟨-, ⟨other, known, hother, hknown, hcarries⟩, hge, hle, hlength⟩
    obtain rfl : tag = other := Option.some.inj hother
    obtain rfl : type = known := Option.some.inj (htype.symm.trans hknown)
    rw [declaredLength_cons] at hge hle
    simp only [List.length_cons] at hlength
    rw [if_pos hcarries]
    omega
  · rintro ⟨hge, hlt, hrest⟩
    have hcarries : type.carriesVector := by
      by_contra hcarries
      rw [if_neg hcarries] at hlt
      omega
    rw [if_pos hcarries] at hlt hrest
    refine ⟨⟨version, rfl, haccepts⟩, ⟨tag, type, rfl, htype, hcarries⟩, hge, ?_, ?_⟩
    · rw [declaredLength_cons]
      omega
    · simp only [List.length_cons]
      omega

/-- The frame is the header, the type and what the declared length leaves for the body. -/
theorem take_frameEnd_cons :
    (high :: low :: version :: tag :: rest).take
        (frameEnd (high :: low :: version :: tag :: rest)) =
      high :: low :: version :: tag :: rest.take ((Bytes.toWord high low).toNat - 1) := by
  have hframe : frameEnd (high :: low :: version :: tag :: rest) =
      (Bytes.toWord high low).toNat - 1 + 4 := by
    unfold frameEnd Packet.minSize Header.size
    rw [declaredLength_cons, Bytes.toNat_toWord]
    split_ifs <;> omega
  rw [hframe]
  rfl

end Cons

/-- A front that is not decided yet is no packet either. -/
theorem decodePrefix_of_lt (options : DecodeOptions) {buffer : Bytes}
    (h : buffer.length < frameEnd buffer) :
    ∃ failure, Packet.decodePrefix options buffer = .error failure := by
  cases hfront : Packet.decodePrefix options buffer with
  | error failure => exact ⟨failure, rfl⟩
  | ok front =>
    have haccepted := Packet.accepted_of_decodeFront hfront
    have hge := haccepted.consumed_ge
    have hle := haccepted.consumed_le
    rw [haccepted.consumed_eq, haccepted.declared_eq] at hge hle
    unfold frameEnd Packet.minSize at h
    unfold Packet.minSize at hge
    split_ifs at h <;> omega

theorem EndsInsideVector.frameEnd_le {versions : VersionPolicy} {buffer : Bytes}
    (h : EndsInsideVector versions buffer) : frameEnd buffer ≤ buffer.length := by
  have hle := h.declared_le
  have hlength := h.length_ge
  unfold frameEnd Packet.minSize Header.size
  split_ifs <;> omega

theorem verdict_of_endsInsideVector (options : DecodeOptions) {buffer : Bytes}
    (h : EndsInsideVector options.versions buffer) :
    verdict options buffer = .error .unreadableVector ∧
      Packet.decodePrefix options buffer =
        .error (.invalidLength (UInt16.ofNat (declaredLength buffer)) 17) := by
  match buffer, h.length_ge with
  | high :: low :: version :: tag :: rest, _ =>
    obtain ⟨⟨other, hother, haccepts⟩, ⟨otherTag, type, hotherTag, htype, hcarries⟩, -⟩ := id h
    obtain rfl : version = other := Option.some.inj hother
    obtain rfl : tag = otherTag := Option.some.inj hotherTag
    have hcut := (endsInsideVector_cons_iff haccepts htype).mp h
    have hroom : type.vectorSize = 16 := if_pos hcarries
    constructor
    · rw [verdict, Packet.decodeWith, take_frameEnd_cons, Packet.decodeFront_cons haccepts htype,
        Packet.decodeBody_take (by dsimp only; omega), if_pos hcut]
      rfl
    · rw [Packet.decodePrefix, Packet.decodeFront_cons haccepts htype, Packet.decodeBody_eq,
        if_neg (by dsimp only; omega), if_neg (by omega), if_pos hcut.2.1, hroom,
        declaredLength_cons, ← Bytes.toNat_toWord, UInt16.ofNat_toNat]

/-- Apart from a declared length that ends inside the vector, the verdict on the frame is the one on
the front of the whole buffer. -/
theorem decodePrefix_eq_verdict (options : DecodeOptions) {buffer : Bytes}
    (hlength : frameEnd buffer ≤ buffer.length) (h : ¬ EndsInsideVector options.versions buffer) :
    Packet.decodePrefix options buffer =
      (verdict options buffer).map fun packet ↦ ⟨packet, 3 + declaredLength buffer⟩ := by
  match buffer, Nat.le_trans (minSize_le_frameEnd buffer) hlength with
  | high :: low :: version :: tag :: rest, _ =>
    rw [verdict, Packet.decodeWith, take_frameEnd_cons, Packet.decodePrefix]
    by_cases haccepts : options.versions.accepts version
    · cases htype : MessageType.ofTag? tag with
      | none =>
        simp only [Packet.decodeFront, haccepts, htype, if_true]
        rfl
      | some type =>
        have hcut := mt (endsInsideVector_cons_iff haccepts htype).mpr h
        have hbody : (Bytes.toWord high low).toNat ≤ 1 + rest.length := by
          unfold frameEnd Packet.minSize Header.size at hlength
          rw [declaredLength_cons] at hlength
          rw [Bytes.toNat_toWord]
          simp only [List.length_cons] at hlength
          split_ifs at hlength <;> omega
        rw [Packet.decodeFront_cons haccepts htype, Packet.decodeFront_cons haccepts htype,
          Packet.decodeBody_take hbody, if_neg hcut, declaredLength_cons, ← Bytes.toNat_toWord]
        cases hdecoded :
            Packet.decodeBody .streaming ⟨Bytes.toWord high low, version⟩ type rest with
        | error failure => rfl
        | ok front =>
          obtain ⟨packet, consumed⟩ := front
          obtain ⟨rfl, -⟩ := Packet.consumed_of_decodeBody hdecoded
          rfl
    · simp only [Packet.decodeFront, haccepts, if_false, Bool.false_eq_true]
      rfl

theorem decodePrefix_eq_ok_iff {options : DecodeOptions} {buffer : Bytes} {packet : Packet}
    {size : Nat} :
    Packet.decodePrefix options buffer = .ok ⟨packet, size⟩ ↔
      frameEnd buffer ≤ buffer.length ∧ verdict options buffer = .ok packet ∧
        size = 3 + declaredLength buffer := by
  by_cases hlength : frameEnd buffer ≤ buffer.length
  · by_cases hcut : EndsInsideVector options.versions buffer
    · obtain ⟨hverdict, hfront⟩ := verdict_of_endsInsideVector options hcut
      rw [hverdict, hfront]
      simp
    · rw [decodePrefix_eq_verdict options hlength hcut]
      cases verdict options buffer with
      | error failure => simp [Except.map]
      | ok decoded => simp [Except.map, hlength, eq_comm]
  · obtain ⟨failure, hfailure⟩ := decodePrefix_of_lt options (Nat.lt_of_not_le hlength)
    rw [hfailure]
    simp [hlength]

/-- A step and decoding the front of the whole buffer agree: on when to wait, on packets and the
octets they take up, and on errors but for a length that ends inside the vector. -/
theorem step_decodePrefix (versions : VersionPolicy) (framing prefixFraming : Framing)
    (buffer : Bytes) :
    let declared := declaredLength buffer
    let taken := step ⟨framing, versions⟩ buffer
    let front := Packet.decodePrefix ⟨prefixFraming, versions⟩ buffer
    (taken = .waiting ↔ buffer.length < 2 ∨ declared = 0 ∧ buffer.length < 4 ∨
        1 ≤ declared ∧ buffer.length < 3 + declared) ∧
      (taken = .waiting →
        taken.buffer buffer = buffer ∧ ∃ failure, front = .error failure) ∧
      (∀ packet, (∃ rest, taken = .packet packet rest) ↔ ∃ size, front = .ok ⟨packet, size⟩) ∧
      (∀ packet rest, taken = .packet packet rest →
        front = .ok ⟨packet, 3 + declared⟩ ∧ 3 + declared ≤ buffer.length ∧
          rest = buffer.drop (3 + declared)) ∧
      (∀ failure rest, taken = .failed failure rest →
        (1 ≤ declared → 3 + declared ≤ buffer.length ∧ rest = buffer.drop (3 + declared)) ∧
          (declared = 0 → rest = buffer) ∧
          (¬ EndsInsideVector versions buffer → front = .error failure)) ∧
      (EndsInsideVector versions buffer →
        (∃ rest, taken = .failed .unreadableVector rest) ∧
          front = .error (.invalidLength (UInt16.ofNat declared) 17)) := by
  intro declared taken front
  have hfront : front = Packet.decodePrefix ⟨framing, versions⟩ buffer := rfl
  have hframe (hpos : 1 ≤ declared) (hlength : frameEnd buffer ≤ buffer.length) :
      3 + declared ≤ buffer.length := by
    rwa [frameEnd, if_neg (by omega)] at hlength
  refine ⟨step_eq_waiting_iff.trans (lt_frameEnd_iff buffer), fun htaken ↦ ⟨?_, ?_⟩,
    fun packet ↦ ⟨?_, ?_⟩, fun packet rest htaken ↦ ?_, fun failure rest htaken ↦ ⟨?_, ?_, ?_⟩,
    fun hcut ↦ ⟨?_, ?_⟩⟩
  · rw [htaken]
    rfl
  · exact decodePrefix_of_lt _ (step_eq_waiting_iff.mp htaken)
  · rintro ⟨rest, htaken⟩
    obtain ⟨hlength, hverdict, -⟩ := step_eq_packet_iff.mp htaken
    exact ⟨3 + declared, decodePrefix_eq_ok_iff.mpr ⟨hlength, hverdict, rfl⟩⟩
  · rintro ⟨size, hsize⟩
    rw [hfront] at hsize
    obtain ⟨hlength, hverdict, -⟩ := decodePrefix_eq_ok_iff.mp hsize
    exact ⟨remainder buffer, step_eq_packet_iff.mpr ⟨hlength, hverdict, rfl⟩⟩
  · obtain ⟨hlength, hverdict, hrest⟩ := step_eq_packet_iff.mp htaken
    have hpos := declaredLength_pos_of_verdict hlength hverdict
    refine ⟨decodePrefix_eq_ok_iff.mpr ⟨hlength, hverdict, rfl⟩, hframe hpos hlength, ?_⟩
    rw [hrest, remainder_of_pos hpos]
  · intro hpos
    obtain ⟨hlength, -, hrest⟩ := step_eq_failed_iff.mp htaken
    exact ⟨hframe hpos hlength, by rw [hrest, remainder_of_pos hpos]⟩
  · intro hzero
    obtain ⟨-, -, hrest⟩ := step_eq_failed_iff.mp htaken
    rw [hrest, remainder, if_pos hzero]
  · intro hcut
    obtain ⟨hlength, hverdict, -⟩ := step_eq_failed_iff.mp htaken
    rw [hfront, decodePrefix_eq_verdict ⟨framing, versions⟩ hlength hcut, hverdict]
    rfl
  · exact ⟨remainder buffer, step_eq_failed_iff.mpr
      ⟨hcut.frameEnd_le, (verdict_of_endsInsideVector ⟨framing, versions⟩ hcut).1, rfl⟩⟩
  · exact (verdict_of_endsInsideVector ⟨framing, versions⟩ hcut).2

/-- A heartbeat of declared length 5 with sixteen octets behind its type: the frame of eight octets
goes, for a vector that cannot be read, where the front reports the length. -/
theorem step_decodePrefix_cut_heartbeat :
    let buffer : Bytes := [0, 5, 1, 2] ++ List.replicate 16 0
    EndsInsideVector .current buffer ∧
      step ⟨.streaming, .current⟩ buffer = .failed .unreadableVector (buffer.drop 8) ∧
      Packet.decodePrefix ⟨.strict, .current⟩ buffer = .error (.invalidLength 5 17) := by
  intro buffer
  have hcut : EndsInsideVector .current buffer :=
    ⟨⟨1, rfl, rfl⟩, ⟨2, .heartbeat, rfl, rfl, rfl⟩, by decide, by decide, by decide⟩
  obtain ⟨-, -, -, -, hfailed, hdisagree⟩ := step_decodePrefix .current .streaming .strict buffer
  obtain ⟨⟨rest, htaken⟩, hfront⟩ := hdisagree hcut
  obtain ⟨hremoved, -, -⟩ := hfailed _ rest htaken
  obtain ⟨-, rfl⟩ := hremoved (by decide)
  exact ⟨hcut, htaken, hfront⟩

end FrameBuffer

end PeerLink
