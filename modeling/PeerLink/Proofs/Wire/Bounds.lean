import PeerLink.Proofs.Wire.FrameBoundary
import PeerLink.Proofs.Wire.RuleOrder
import PeerLink.Wire.Scanning

/-!
Decoding never asks for octets that are not there. Step by step, with every request for octets
checked, it ends as decoding does and leaves unread what decoding leaves (`Packet.on_scan`,
`FrameBuffer.on_scan`), and decoding knows no overrun. Its errors are those of the rules, so they
are of one class (`Packet.failure_of_decodeFront`), and a frame that was cut to its declared length
can only break four of them (`FrameBuffer.failure_of_verdict`).
-/

set_option autoImplicit false
set_option relaxedAutoImplicit false

namespace PeerLink

namespace Scanning

variable {α : Type}

/-- The work on `bytes` asks for nothing that is not there. -/
def WithinBounds (work : Scanning α) (bytes : Bytes) : Prop :=
  ∀ wanted available, (work.on bytes).1 ≠ .error (.overrun wanted available)

/-- Two octets are asked for where one is left. -/
example : ¬ word.WithinBounds [7] := fun h ↦ h 2 1 rfl

theorem withinBounds_of_mapError {work : Scanning α} {bytes : Bytes}
    {result : Except ProtocolError α} (h : (work.on bytes).1 = result.mapError .failure) :
    work.WithinBounds bytes := by
  intro wanted available hoverrun
  rw [h] at hoverrun
  cases result with
  | error failure => cases hoverrun
  | ok value => cases hoverrun

end Scanning

open Scanning

theorem Header.on_scan (bytes : Bytes) :
    Header.scan.on bytes = ((Header.read bytes).1.mapError .failure, (Header.read bytes).2) := by
  match bytes with
  | [] | [_] | [_, _] => rfl
  | high :: low :: version :: rest =>
    unfold Header.scan
    rw [on_unread_bind, on_ensure_bind, if_pos (by simp), on_word_bind, on_unread_bind,
      on_ensure_bind, if_pos (by simp), on_octet_bind]
    rfl

namespace Packet

/-! ### The fields of a body -/

section Body

variable {framing : Framing} {head : Header} {type : MessageType} {bytes : Bytes}

theorem on_scanVector (head : Header) (type : MessageType) (declared : Nat) (bytes : Bytes) :
    (scanVector head type declared).on bytes =
      if bytes.length < type.vectorSize then
        (.error (.failure .unreadableVector), bytes)
      else if declared < type.vectorSize then
        (.error (.failure (.invalidLength head.length (1 + type.vectorSize))),
          bytes.drop type.vectorSize)
      else
        (.ok (Body.leadingVector type bytes, declared - type.vectorSize),
          bytes.drop type.vectorSize) := by
  unfold scanVector Body.leadingVector MessageType.vectorSize
  by_cases hcarries : type.carriesVector
  · simp only [hcarries, if_true]
    rw [on_unread_bind, on_ensure_bind]
    by_cases hshort : bytes.length < BodyVector.size
    · rw [if_neg (Nat.not_le_of_lt hshort), if_pos hshort]
    · obtain ⟨value, hsplit⟩ := BodyVector.exists_split?_eq_some (Nat.le_of_not_lt hshort)
      rw [if_pos (Nat.le_of_not_lt hshort), if_neg hshort, on_bind_of_ok (on_vector hsplit),
        on_less_bind, hsplit]
      by_cases hdeclared : declared < BodyVector.size
      · rw [if_neg (Nat.not_le_of_lt hdeclared), if_pos hdeclared]
      · rw [if_pos (Nat.le_of_not_lt hdeclared), if_neg hdeclared]
        rfl
  · simp [hcarries]

theorem on_scanPayload (framing : Framing) (size : Nat) (bytes : Bytes) :
    (scanPayload framing size).on bytes =
      if bytes.length < size then
        (.error (.failure (.unreadableMessage size bytes.length)), bytes)
      else if framing = .strict ∧ size < bytes.length then
        (.error (.failure (.trailingBytes (bytes.length - size))), bytes.drop size)
      else
        (.ok (bytes.take size), bytes.drop size) := by
  unfold scanPayload
  rw [on_unread_bind, on_ensure_bind]
  by_cases hshort : bytes.length < size
  · rw [if_neg (Nat.not_le_of_lt hshort), if_pos hshort]
  · have hleft : 0 < bytes.length - size ↔ size < bytes.length := by omega
    rw [if_pos (Nat.le_of_not_lt hshort), if_neg hshort,
      on_bind_of_ok (on_take (Nat.le_of_not_lt hshort)), on_unread_bind, on_ensure_bind,
      List.length_drop, ite_not]
    simp only [hleft]
    rfl

theorem on_scanBody_of_error {failure : ProtocolError}
    (h : decodeBody framing head type bytes = .error failure) :
    ∃ left, (scanBody framing head type).on bytes = (.error (.failure failure), left) := by
  have hvectors := on_scanVector head type (head.length.toNat - 1) bytes
  rw [decodeBody_eq] at h
  unfold scanBody
  rw [on_less_bind]
  split_ifs at h with hzero hvector hdeclared
  · cases h
    exact ⟨bytes, if_neg (by omega)⟩
  · cases h
    rw [if_pos hvector] at hvectors
    exact ⟨_, (if_pos (by omega)).trans (on_bind_of_error hvectors)⟩
  · cases h
    rw [if_neg hvector, if_pos (by omega)] at hvectors
    exact ⟨_, (if_pos (by omega)).trans (on_bind_of_error hvectors)⟩
  · have hpayload := on_scanPayload framing (head.length.toNat - (1 + type.vectorSize))
      (bytes.drop type.vectorSize)
    rw [if_neg hvector, if_neg (by omega), Nat.sub_sub] at hvectors
    rw [if_pos (by omega), on_bind_of_ok hvectors]
    unfold decodePayload at h
    split_ifs at h with hshort hlong
    · cases h
      rw [if_pos hshort] at hpayload
      exact ⟨_, on_bind_of_error hpayload⟩
    · cases h
      rw [if_neg hshort, if_pos hlong] at hpayload
      exact ⟨_, on_bind_of_error hpayload⟩

theorem on_scanBody_of_ok {front : Front} (h : decodeBody framing head type bytes = .ok front) :
    (scanBody framing head type).on bytes =
      (.ok front.packet.body, bytes.drop (head.length.toNat - 1)) := by
  have hvectors := on_scanVector head type (head.length.toNat - 1) bytes
  have hpayload := on_scanPayload framing (head.length.toNat - (1 + type.vectorSize))
    (bytes.drop type.vectorSize)
  rw [decodeBody_eq] at h
  unfold scanBody
  rw [on_less_bind]
  split_ifs at h with hzero hvector hdeclared
  rw [if_neg hvector, if_neg (by omega), Nat.sub_sub] at hvectors
  rw [if_pos (by omega), on_bind_of_ok hvectors]
  unfold decodePayload at h
  split_ifs at h with hshort hlong
  cases h
  rw [if_neg hshort, if_neg hlong, List.drop_drop] at hpayload
  rw [on_bind_of_ok hpayload, on_pure]
  congr 2
  omega

end Body

/-! ### The front of an input -/

/-- Reading step by step ends as decoding does. -/
theorem on_scan (options : DecodeOptions) (bytes : Bytes) :
    ((scan options).on bytes).1 = (decodeFront options bytes).mapError .failure := by
  unfold scan
  rw [on_unread_bind, on_ensure_bind]
  by_cases hshort : bytes.length < minSize
  · rw [if_neg (Nat.not_le_of_lt hshort), decodeFront_of_length_lt hshort]
    rfl
  rw [if_pos (Nat.le_of_not_lt hshort)]
  match bytes, Nat.le_of_not_lt hshort with
  | high :: low :: version :: tag :: rest, _ =>
    have hhead : Header.scan.on (high :: low :: version :: tag :: rest) =
        (.ok ⟨Bytes.toWord high low, version⟩, tag :: rest) := Header.on_scan _
    rw [on_bind_of_ok hhead, on_ensure_bind]
    by_cases haccepts : options.versions.accepts version
    · rw [if_pos haccepts, on_unread_bind, on_ensure_bind, if_pos (by simp), on_octet_bind]
      cases htype : MessageType.ofTag? tag with
      | none =>
        simp only [decodeFront, haccepts, htype, if_true]
        rfl
      | some type =>
        rw [decodeFront_cons haccepts htype]
        dsimp only
        cases hbody : decodeBody options.framing ⟨Bytes.toWord high low, version⟩ type rest with
        | error failure =>
          obtain ⟨left, hstopped⟩ := on_scanBody_of_error hbody
          rw [on_bind_of_error hstopped]
          rfl
        | ok front =>
          obtain ⟨hlow, hhigh, -, hfront⟩ := eq_of_decodeBody hbody
          dsimp only at hlow hhigh
          have hgone : (Bytes.toWord high low).toNat - 1 + 4 ≤
              (high :: low :: version :: tag :: rest).length := by
            simp only [List.length_cons]
            omega
          have hcount : (Bytes.toWord high low).toNat - 1 + 4 =
              Header.size + (Bytes.toWord high low).toNat := by
            unfold Header.size
            omega
          have hdifference : (difference (high :: low :: version :: tag :: rest).length
              (rest.drop ((Bytes.toWord high low).toNat - 1)).length).on
                (rest.drop ((Bytes.toWord high low).toNat - 1)) =
              (.ok ((Bytes.toWord high low).toNat - 1 + 4),
                rest.drop ((Bytes.toWord high low).toNat - 1)) := on_difference_drop hgone
          rw [on_bind_of_ok (on_scanBody_of_ok hbody), on_unread_bind,
            on_bind_of_ok hdifference, hcount, hfront]
          rfl
    · rw [if_neg haccepts]
      simp only [decodeFront, haccepts, if_false, Bool.false_eq_true]
      rfl

end Packet

namespace FrameBuffer

open Packet (declaredLength declaredLength_eq_toWord)

section Frame

variable {options : DecodeOptions} {buffer : Bytes} (left : Bytes)

/-- The front of a buffer, cut where it is decided and scanned on its own. -/
theorem on_within_frame (options : DecodeOptions) (buffer left : Bytes) :
    (within (buffer.take (frameEnd buffer)) (Packet.scan { options with framing := .strict })).on
        left =
      ((Packet.decodeFront { options with framing := .strict }
        (buffer.take (frameEnd buffer))).mapError .failure, left) := by
  rw [on_within, Packet.on_scan]

theorem on_within_frame_of_error {failure : ProtocolError}
    (h : verdict options buffer = .error failure) :
    (within (buffer.take (frameEnd buffer)) (Packet.scan { options with framing := .strict })).on
        left =
      (.error (.failure failure), left) := by
  rw [on_within_frame, Packet.decodeWith_eq_error_iff.mp h]
  rfl

theorem on_within_frame_of_ok {packet : Packet} (h : verdict options buffer = .ok packet) :
    ∃ consumed, (within (buffer.take (frameEnd buffer))
        (Packet.scan { options with framing := .strict })).on left =
      (.ok ⟨packet, consumed⟩, left) := by
  obtain ⟨front, hfront, rfl⟩ := Packet.decodeWith_eq_ok_iff.mp h
  rw [on_within_frame, hfront]
  exact ⟨front.consumed, rfl⟩

end Frame

/-- A buffer is scanned with the answer of a step, and left as the step leaves it. -/
theorem on_scan (options : DecodeOptions) (buffer : Bytes) :
    (scan options).on buffer =
      ((step options buffer).result.mapError .failure, (step options buffer).buffer buffer) := by
  match buffer with
  | [] | [_] => rfl
  | high :: low :: rest =>
    have hfield : ¬ (high :: low :: rest).length < 2 := by simp
    have hhigh : (peek 0).on (high :: low :: rest) = (.ok high, high :: low :: rest) :=
      on_peek rfl
    have hlow : (peek 1).on (high :: low :: rest) = (.ok low, high :: low :: rest) := on_peek rfl
    unfold scan
    dsimp only
    rw [on_unread_bind, if_neg hfield, on_bind_of_ok hhigh, on_bind_of_ok hlow,
      ← @declaredLength_eq_toWord high low rest, step_eq]
    generalize high :: low :: rest = buffer
    by_cases hzero : declaredLength buffer = 0
    · have hend : frameEnd buffer = Packet.minSize := if_pos hzero
      rw [if_pos hzero, on_unread_bind, hend]
      by_cases hshort : buffer.length < Packet.minSize
      · rw [if_pos hshort, if_pos hshort]
        rfl
      · have hmin := Nat.le_of_not_lt hshort
        have hverdict := zeroLengthError_eq options hzero hmin
        have hframe := on_within_frame_of_error buffer hverdict
        rw [hend] at hframe
        rw [if_neg hshort, if_neg hshort, on_bind_of_ok (on_front hmin),
          on_bind_of_error hframe, hverdict, remainder, if_pos hzero]
        rfl
    · have hend : frameEnd buffer = Header.size + declaredLength buffer := if_neg hzero
      rw [if_neg hzero, on_unread_bind, remainder, if_neg hzero, ← hend]
      by_cases hshort : buffer.length < frameEnd buffer
      · rw [if_pos hshort, if_pos hshort, on_unread_bind,
          on_bind_of_ok (on_difference (Nat.le_of_lt hshort))]
        rfl
      · rw [if_neg hshort, if_neg hshort, on_bind_of_ok (on_take (Nat.le_of_not_lt hshort))]
        cases hverdict : verdict options buffer with
        | error failure =>
          rw [on_bind_of_error (on_within_frame_of_error _ hverdict)]
          rfl
        | ok packet =>
          obtain ⟨consumed, hframe⟩ :=
            on_within_frame_of_ok (buffer.drop (frameEnd buffer)) hverdict
          rw [on_bind_of_ok hframe]
          rfl

/-- On the octets of one frame few rules can be broken: no payload is missing and nothing follows,
and a length that leaves no room for the vector leaves no octets for it either. -/
theorem failure_of_verdict {options : DecodeOptions} {buffer : Bytes} {failure : ProtocolError}
    (hlength : frameEnd buffer ≤ buffer.length) (h : verdict options buffer = .error failure) :
    (∃ version, failure = .unsupportedVersion version) ∨ (∃ tag, failure = .unknownType tag) ∨
      failure = .unreadableVector ∨ failure = .invalidLength 0 1 := by
  match buffer, Nat.le_trans (minSize_le_frameEnd buffer) hlength with
  | high :: low :: version :: tag :: rest, _ =>
    have h := Packet.decodeWith_eq_error_iff.mp h
    rw [take_frameEnd_cons] at h
    by_cases haccepts : options.versions.accepts version
    · cases htype : MessageType.ofTag? tag with
      | none =>
        simp only [Packet.decodeFront, haccepts, htype, if_true] at h
        cases h
        exact .inr (.inl ⟨tag, rfl⟩)
      | some type =>
        rw [Packet.decodeFront_cons haccepts htype] at h
        by_cases hzero : (Bytes.toWord high low).toNat = 0
        · have hword : Bytes.toWord high low = 0 := UInt16.toNat_inj.mp hzero
          rw [Packet.decodeBody_eq, if_pos hzero, hword] at h
          cases h
          exact .inr (.inr (.inr rfl))
        · have hoctets : (Bytes.toWord high low).toNat =
              1 + (rest.take ((Bytes.toWord high low).toNat - 1)).length := by
            unfold frameEnd Header.size at hlength
            rw [Packet.declaredLength_eq_toWord, if_neg hzero] at hlength
            rw [List.length_take]
            simp only [List.length_cons] at hlength
            omega
          rw [Packet.decodeBody_of_length_eq .strict hoctets] at h
          split_ifs at h
          cases h
          exact .inr (.inr (.inl rfl))
    · simp only [Packet.decodeFront, haccepts, if_false, Bool.false_eq_true] at h
      cases h
      exact .inl ⟨version, rfl⟩

theorem verdict_of_result {options : DecodeOptions} {buffer : Bytes} {failure : ProtocolError}
    (h : (step options buffer).result = .error failure) :
    frameEnd buffer ≤ buffer.length ∧ verdict options buffer = .error failure := by
  cases htaken : step options buffer with
  | waiting =>
    rw [htaken] at h
    cases h
  | packet packet rest =>
    rw [htaken] at h
    cases h
  | failed other rest =>
    rw [htaken] at h
    cases h
    obtain ⟨hlength, hverdict, -⟩ := step_eq_failed_iff.mp htaken
    exact ⟨hlength, hverdict⟩

end FrameBuffer

namespace Packet

/-- A rule that is broken is a fault of the input. Where four octets are, the header and the type
can be read, so none of these is ever reported as cut short. -/
theorem failure_of_decodeFront {options : DecodeOptions} {bytes : Bytes} {failure : ProtocolError}
    (h : decodeFront options bytes = .error failure) :
    failure.isDecode ∧ ¬ failure.isTransport ∧ failure ≠ .unreadableLength ∧
      failure ≠ .unreadableVersion ∧ failure ≠ .unreadableType := by
  have hcategory := category_of_decodeFront h
  obtain ⟨rule, rfl⟩ := exists_rule_of_decodeFront h
  refine ⟨ProtocolError.isDecode_iff.mpr hcategory, fun htransport ↦ ?_, ?_, ?_, ?_⟩
  · have hother := ProtocolError.isTransport_iff.mp htransport
    exact absurd (hcategory.symm.trans hother) nofun
  all_goals cases rule <;> exact nofun

/-- Whatever octets come in, with whatever key and options, no step of decoding them asks for more
than is left, and the checked steps end as decoding does. What decoding and a buffer report is
malformed input, never that a header or a type cannot be read; a buffer reports even less, since it
cuts a frame to its length before the frame is decoded. -/
theorem decoding_within_bounds (options : DecodeOptions) (key : Option Bytes) (bytes : Bytes) :
    Header.scan.WithinBounds bytes ∧ (scan options).WithinBounds bytes ∧
      (FrameBuffer.scan options).WithinBounds bytes ∧
      ((scan options).on bytes).1.map Front.packet =
        (decodeKeyed options key bytes).1.mapError .failure ∧
      ((scan { options with framing := .streaming }).on bytes).1 =
        (decodePrefixKeyed options key bytes).1.mapError .failure ∧
      (FrameBuffer.scan options).on bytes =
        ((FrameBuffer.step options bytes).result.mapError .failure,
          (FrameBuffer.step options bytes).buffer bytes) ∧
      (∀ failure, (decodeKeyed options key bytes).1 = .error failure ∨
          (decodePrefixKeyed options key bytes).1 = .error failure ∨
          decode bytes = .error failure ∨
          (FrameBuffer.step options bytes).result = .error failure →
        failure.isDecode ∧ ¬ failure.isTransport ∧ failure ≠ .unreadableLength ∧
          failure ≠ .unreadableVersion ∧ failure ≠ .unreadableType) ∧
      (∀ failure, (FrameBuffer.step options bytes).result = .error failure →
        (∃ version, failure = .unsupportedVersion version) ∨ (∃ tag, failure = .unknownType tag) ∨
          failure = .unreadableVector ∨ failure = .invalidLength 0 1) := by
  have hframe := FrameBuffer.on_scan options bytes
  refine ⟨?_, ?_, ?_, ?_, ?_, hframe, ?_, ?_⟩
  · exact withinBounds_of_mapError (congrArg Prod.fst (Header.on_scan bytes))
  · exact withinBounds_of_mapError (on_scan options bytes)
  · exact withinBounds_of_mapError (congrArg Prod.fst hframe)
  · change _ = ((decodeFront options bytes).map Front.packet).mapError Stop.failure
    rw [on_scan]
    cases decodeFront options bytes <;> rfl
  · exact on_scan { options with framing := .streaming } bytes
  · rintro failure (hwhole | hfront | hdefault | hstep)
    · exact failure_of_decodeFront (decodeWith_eq_error_iff.mp hwhole)
    · exact failure_of_decodeFront hfront
    · exact failure_of_decodeFront (decodeWith_eq_error_iff.mp hdefault)
    · obtain ⟨-, hverdict⟩ := FrameBuffer.verdict_of_result hstep
      exact failure_of_decodeFront (decodeWith_eq_error_iff.mp hverdict)
  · intro failure hstep
    obtain ⟨hlength, hverdict⟩ := FrameBuffer.verdict_of_result hstep
    exact FrameBuffer.failure_of_verdict hlength hverdict

end Packet

end PeerLink
