import PeerLink.Proofs.Wire.FrameBoundary

/-!
A stream gives the same results however it is cut. `drain` takes frames off a buffer until it has to
wait or is stuck at a header of length zero, and `feed` appends chunk after chunk with a `drain`
after each. What was drained stays drained when more arrives (`drain_append`), so the results of all
chunks are those of the whole stream (`feed_eq_drain`), each in the chunk with the last octet of its
frame (`results_of_feed`).
-/

set_option autoImplicit false
set_option relaxedAutoImplicit false

namespace PeerLink.FrameBuffer

open Packet (declaredLength)

variable {options : DecodeOptions} {buffer : Bytes}

/-! ### Frame after frame -/

theorem length_drop_frameEnd (h : frameEnd buffer ≤ buffer.length) :
    (buffer.drop (frameEnd buffer)).length < buffer.length := by
  have hmin := minSize_le_frameEnd buffer
  unfold Packet.minSize at hmin
  rw [List.length_drop]
  omega

/-- Every buffer waits, is stuck, or begins with a frame whose removal leaves a shorter one. -/
@[elab_as_elim]
theorem frame_induction {motive : Bytes → Prop}
    (waiting : ∀ buffer, buffer.length < frameEnd buffer → motive buffer)
    (stuck : ∀ buffer, frameEnd buffer ≤ buffer.length → declaredLength buffer = 0 →
      motive buffer)
    (frame : ∀ buffer, frameEnd buffer ≤ buffer.length → declaredLength buffer ≠ 0 →
      motive (buffer.drop (frameEnd buffer)) → motive buffer)
    (buffer : Bytes) : motive buffer := by
  induction hsize : buffer.length using Nat.strongRecOn generalizing buffer with
  | ind size ih =>
    subst hsize
    by_cases hlength : buffer.length < frameEnd buffer
    · exact waiting buffer hlength
    · have hle := Nat.le_of_not_lt hlength
      by_cases hzero : declaredLength buffer = 0
      · exact stuck buffer hle hzero
      · exact frame buffer hle hzero (ih _ (length_drop_frameEnd hle) _ rfl)

/-- How decoding a buffer again and again went: what it gave, whether the last of that was the error
of a header of length zero, and the buffer in the end. -/
structure Drained where
  results : List (Except ProtocolError Packet)
  stuck : Bool
  buffer : Bytes

/-- The run that a first result and the run behind it make up. -/
def Drained.cons (result : Except ProtocolError Packet) (run : Drained) : Drained :=
  { run with results := result :: run.results }

/-- Decodes until a step waits or gives the error of a header of length zero, past every other
error. -/
def drain (options : DecodeOptions) (buffer : Bytes) : Drained :=
  match _htaken : step options buffer with
  | .waiting => ⟨[], false, buffer⟩
  | .packet packet rest => (drain options rest).cons (.ok packet)
  | .failed failure rest =>
    if _hzero : declaredLength buffer = 0 then ⟨[.error failure], true, rest⟩
    else (drain options rest).cons (.error failure)
termination_by buffer.length
decreasing_by
  · obtain ⟨hlength, hverdict, rfl⟩ := step_eq_packet_iff.mp _htaken
    have hpos := declaredLength_pos_of_verdict hlength hverdict
    rw [remainder, if_neg (by omega)]
    exact length_drop_frameEnd hlength
  · obtain ⟨hlength, -, rfl⟩ := step_eq_failed_iff.mp _htaken
    rw [remainder, if_neg _hzero]
    exact length_drop_frameEnd hlength

theorem drain_eq (options : DecodeOptions) (buffer : Bytes) :
    drain options buffer =
      if buffer.length < frameEnd buffer then ⟨[], false, buffer⟩
      else if declaredLength buffer = 0 then ⟨[verdict options buffer], true, buffer⟩
      else (drain options (buffer.drop (frameEnd buffer))).cons (verdict options buffer) := by
  rw [drain]
  split
  · rename_i htaken
    rw [if_pos (step_eq_waiting_iff.mp htaken)]
  · rename_i packet rest htaken
    obtain ⟨hlength, hverdict, rfl⟩ := step_eq_packet_iff.mp htaken
    have hpos := declaredLength_pos_of_verdict hlength hverdict
    have hzero : ¬ declaredLength buffer = 0 := by omega
    rw [if_neg (Nat.not_lt_of_le hlength), if_neg hzero, hverdict, remainder, if_neg hzero]
  · rename_i failure rest htaken
    obtain ⟨hlength, hverdict, rfl⟩ := step_eq_failed_iff.mp htaken
    rw [if_neg (Nat.not_lt_of_le hlength), hverdict]
    split_ifs with hzero
    · rw [remainder, if_pos hzero]
    · rw [remainder, if_neg hzero]

section Cases

theorem drain_of_lt (h : buffer.length < frameEnd buffer) :
    drain options buffer = ⟨[], false, buffer⟩ := by
  rw [drain_eq, if_pos h]

variable (h : frameEnd buffer ≤ buffer.length)
include h

theorem drain_of_zero (hzero : declaredLength buffer = 0) :
    drain options buffer = ⟨[verdict options buffer], true, buffer⟩ := by
  rw [drain_eq, if_neg (Nat.not_lt_of_le h), if_pos hzero]

theorem drain_of_frame (hzero : declaredLength buffer ≠ 0) :
    drain options buffer =
      (drain options (buffer.drop (frameEnd buffer))).cons (verdict options buffer) := by
  rw [drain_eq, if_neg (Nat.not_lt_of_le h), if_neg hzero]

end Cases

/-! ### Octets that arrive between two runs -/

/-- The run on a drained buffer with `later` behind it, put behind the first; a stuck buffer only
grows. -/
def Drained.resume (options : DecodeOptions) (first : Drained) (later : Bytes) : Drained :=
  if first.stuck then
    { first with buffer := first.buffer ++ later }
  else
    let second := drain options (first.buffer ++ later)
    { second with results := first.results ++ second.results }

theorem Drained.resume_cons (result : Except ProtocolError Packet) (first : Drained)
    (later : Bytes) : (first.cons result).resume options later =
      (first.resume options later).cons result := by
  unfold resume cons
  split_ifs <;> rfl

/-- Draining once over all octets is draining twice: a frame is judged on its own octets, so none
that was taken off is judged anew. -/
theorem drain_append (later : Bytes) :
    drain options (buffer ++ later) = (drain options buffer).resume options later := by
  induction buffer using frame_induction with
  | waiting buffer hlength =>
    rw [drain_of_lt hlength]
    rfl
  | stuck buffer hlength hzero =>
    have hdeclared := declaredLength_append later (two_le_length hlength)
    rw [drain_of_zero hlength hzero,
      drain_of_zero (frameEnd_le_append later hlength) (hdeclared.trans hzero),
      verdict_append later hlength]
    rfl
  | frame buffer hlength hzero ih =>
    have htwo := two_le_length hlength
    have hdeclared : declaredLength (buffer ++ later) ≠ 0 := by
      rwa [declaredLength_append later htwo]
    rw [drain_of_frame hlength hzero, Drained.resume_cons, ← ih,
      drain_of_frame (frameEnd_le_append later hlength) hdeclared, verdict_append later hlength,
      frameEnd_append later htwo, List.drop_append_of_le_length hlength]

theorem drain_buffer_of_not_stuck (h : (drain options buffer).stuck = false) :
    (drain options buffer).buffer.length < frameEnd (drain options buffer).buffer := by
  induction buffer using frame_induction with
  | waiting buffer hlength => rwa [drain_of_lt hlength]
  | stuck buffer hlength hzero =>
    rw [drain_of_zero hlength hzero] at h
    cases h
  | frame buffer hlength hzero ih =>
    rw [drain_of_frame hlength hzero] at h ⊢
    exact ih h

theorem drain_buffer_of_stuck (h : (drain options buffer).stuck = true) :
    frameEnd (drain options buffer).buffer ≤ (drain options buffer).buffer.length ∧
      declaredLength (drain options buffer).buffer = 0 := by
  induction buffer using frame_induction with
  | waiting buffer hlength =>
    rw [drain_of_lt hlength] at h
    cases h
  | stuck buffer hlength hzero =>
    rw [drain_of_zero hlength hzero]
    exact ⟨hlength, hzero⟩
  | frame buffer hlength hzero ih =>
    rw [drain_of_frame hlength hzero] at h ⊢
    exact ih h

/-! ### Chunk after chunk -/

/-- Appends the chunks one after another with a `drain` after each: the runs, and the buffer in the
end. -/
def feed (options : DecodeOptions) (buffer : Bytes) : List Bytes → List Drained × Bytes
  | [] => ([], buffer)
  | chunk :: chunks =>
    let run := drain options (buffer ++ chunk)
    let others := feed options run.buffer chunks
    (run :: others.1, others.2)

/-- All results up to and including the first error of a header of length zero. -/
def history : List Drained → List (Except ProtocolError Packet)
  | [] => []
  | run :: runs => if run.stuck then run.results else run.results ++ history runs

theorem history_singleton (run : Drained) : history [run] = run.results := by
  unfold history history
  rw [List.append_nil]
  split_ifs <;> rfl

/-- A stuck buffer takes in whatever arrives and gives nothing back. -/
theorem feed_of_stuck (h : frameEnd buffer ≤ buffer.length) (hzero : declaredLength buffer = 0)
    (chunks : List Bytes) : (feed options buffer chunks).2 = buffer ++ chunks.flatten := by
  induction chunks generalizing buffer with
  | nil => simp [feed]
  | cons chunk chunks ih =>
    have hlength := frameEnd_le_append chunk h
    have hdeclared := (declaredLength_append chunk (two_le_length h)).trans hzero
    rw [feed, drain_of_zero hlength hdeclared, List.flatten_cons, ← List.append_assoc]
    exact ih hlength hdeclared

/-- On a buffer that waits, chunks give what they give together. -/
theorem feed_eq_drain (options : DecodeOptions) (h : buffer.length < frameEnd buffer)
    (chunks : List Bytes) :
    history (feed options buffer chunks).1 =
        (drain options (buffer ++ chunks.flatten)).results ∧
      (feed options buffer chunks).2 = (drain options (buffer ++ chunks.flatten)).buffer := by
  induction chunks generalizing buffer with
  | nil =>
    rw [List.flatten_nil, List.append_nil, drain_of_lt h]
    exact ⟨rfl, rfl⟩
  | cons chunk chunks ih =>
    rw [List.flatten_cons, ← List.append_assoc, drain_append, feed, history]
    unfold Drained.resume
    split_ifs with hstuck
    · obtain ⟨hlength, hzero⟩ := drain_buffer_of_stuck hstuck
      exact ⟨rfl, feed_of_stuck hlength hzero chunks⟩
    · have hwaits := drain_buffer_of_not_stuck (eq_false_of_ne_true hstuck)
      obtain ⟨hresults, hbuffer⟩ := ih hwaits
      exact ⟨congrArg _ hresults, hbuffer⟩

/-! ### When results arrive -/

theorem length_drain_buffer_le (options : DecodeOptions) (buffer : Bytes) :
    (drain options buffer).buffer.length ≤ buffer.length := by
  induction buffer using frame_induction with
  | waiting buffer hlength =>
    exact Nat.le_of_eq (congrArg (fun run ↦ run.buffer.length) (drain_of_lt hlength))
  | stuck buffer hlength hzero =>
    exact Nat.le_of_eq (congrArg (fun run ↦ run.buffer.length) (drain_of_zero hlength hzero))
  | frame buffer hlength hzero ih =>
    rw [drain_of_frame hlength hzero]
    exact Nat.le_trans ih (Nat.le_of_lt (length_drop_frameEnd hlength))

/-- What the frames of a stream from `start` on give, each with the count of octets that the stream
has brought once the last octet of the frame is there. -/
def arrivals (options : DecodeOptions) (start : Nat) (bytes : Bytes) :
    List (Nat × Except ProtocolError Packet) :=
  if _hlength : bytes.length < frameEnd bytes then
    []
  else if declaredLength bytes = 0 then
    [(start + frameEnd bytes, verdict options bytes)]
  else
    (start + frameEnd bytes, verdict options bytes) ::
      arrivals options (start + frameEnd bytes) (bytes.drop (frameEnd bytes))
termination_by bytes.length
decreasing_by exact length_drop_frameEnd (Nat.le_of_not_lt _hlength)

theorem arrivals_of_lt (h : buffer.length < frameEnd buffer) (start : Nat) :
    arrivals options start buffer = [] := by
  rw [arrivals, dif_pos h]

theorem arrivals_of_zero (h : frameEnd buffer ≤ buffer.length) (hzero : declaredLength buffer = 0)
    (start : Nat) :
    arrivals options start buffer = [(start + frameEnd buffer, verdict options buffer)] := by
  rw [arrivals, dif_neg (Nat.not_lt_of_le h), if_pos hzero]

theorem arrivals_of_frame (h : frameEnd buffer ≤ buffer.length)
    (hzero : declaredLength buffer ≠ 0) (start : Nat) :
    arrivals options start buffer =
      (start + frameEnd buffer, verdict options buffer) ::
        arrivals options (start + frameEnd buffer) (buffer.drop (frameEnd buffer)) := by
  rw [arrivals, dif_neg (Nat.not_lt_of_le h), if_neg hzero]

theorem map_snd_arrivals (start : Nat) :
    (arrivals options start buffer).map Prod.snd = (drain options buffer).results := by
  induction buffer using frame_induction generalizing start with
  | waiting buffer hlength =>
    rw [arrivals_of_lt hlength, drain_of_lt hlength]
    rfl
  | stuck buffer hlength hzero =>
    rw [arrivals_of_zero hlength hzero, drain_of_zero hlength hzero]
    rfl
  | frame buffer hlength hzero ih =>
    rw [arrivals_of_frame hlength hzero, drain_of_frame hlength hzero, List.map_cons, ih]
    rfl

theorem le_of_mem_arrivals {start : Nat} {arrival : Nat × Except ProtocolError Packet}
    (h : arrival ∈ arrivals options start buffer) :
    start + frameEnd buffer ≤ arrival.1 ∧ arrival.1 ≤ start + buffer.length := by
  induction buffer using frame_induction generalizing start with
  | waiting buffer hlength =>
    rw [arrivals_of_lt hlength] at h
    cases h
  | stuck buffer hlength hzero =>
    rw [arrivals_of_zero hlength hzero, List.mem_singleton] at h
    rw [h]
    exact ⟨Nat.le_refl _, Nat.add_le_add_left hlength start⟩
  | frame buffer hlength hzero ih =>
    rw [arrivals_of_frame hlength hzero, List.mem_cons] at h
    rcases h with rfl | htail
    · exact ⟨Nat.le_refl _, Nat.add_le_add_left hlength start⟩
    · obtain ⟨hlow, hhigh⟩ := ih htail
      rw [List.length_drop] at hhigh
      omega

/-- Octets that arrive later add arrivals behind those that are there already. -/
theorem arrivals_append (start : Nat) (later : Bytes) :
    arrivals options start (buffer ++ later) =
      arrivals options start buffer ++
        if (drain options buffer).stuck then []
        else
          arrivals options (start + (buffer.length - (drain options buffer).buffer.length))
            ((drain options buffer).buffer ++ later) := by
  induction buffer using frame_induction generalizing start with
  | waiting buffer hlength =>
    rw [arrivals_of_lt hlength, drain_of_lt hlength, Nat.sub_self]
    rfl
  | stuck buffer hlength hzero =>
    have htwo := two_le_length hlength
    have hdeclared := (declaredLength_append later htwo).trans hzero
    rw [arrivals_of_zero hlength hzero, drain_of_zero hlength hzero,
      arrivals_of_zero (frameEnd_le_append later hlength) hdeclared, frameEnd_append later htwo,
      verdict_append later hlength]
    rfl
  | frame buffer hlength hzero ih =>
    have htwo := two_le_length hlength
    have hdeclared : declaredLength (buffer ++ later) ≠ 0 := by
      rwa [declaredLength_append later htwo]
    have hrest := length_drain_buffer_le options (buffer.drop (frameEnd buffer))
    have hstart : start + frameEnd buffer + (buffer.length - frameEnd buffer -
        (drain options (buffer.drop (frameEnd buffer))).buffer.length) =
        start + (buffer.length -
          (drain options (buffer.drop (frameEnd buffer))).buffer.length) := by
      rw [List.length_drop] at hrest
      omega
    rw [arrivals_of_frame hlength hzero, drain_of_frame hlength hzero,
      arrivals_of_frame (frameEnd_le_append later hlength) hdeclared, frameEnd_append later htwo,
      verdict_append later hlength, List.drop_append_of_le_length hlength, ih, List.length_drop,
      hstart]
    rfl

/-- The results of the frames that are complete only after more than `low` octets of the stream and
are so after `high`. -/
def landed (low high : Nat) (all : List (Nat × Except ProtocolError Packet)) :
    List (Except ProtocolError Packet) :=
  (all.filter fun arrival ↦ low < arrival.1 ∧ arrival.1 ≤ high).map Prod.snd

section Landed

variable {low high : Nat} {all others : List (Nat × Except ProtocolError Packet)}

theorem landed_append : landed low high (all ++ others) = landed low high all ++
    landed low high others := by
  unfold landed
  rw [List.filter_append, List.map_append]

theorem landed_eq_map (h : ∀ arrival ∈ all, low < arrival.1 ∧ arrival.1 ≤ high) :
    landed low high all = all.map Prod.snd := by
  unfold landed
  rw [List.filter_eq_self.mpr fun arrival harrival ↦ decide_eq_true (h arrival harrival)]

theorem landed_eq_nil (h : ∀ arrival ∈ all, arrival.1 ≤ low ∨ high < arrival.1) :
    landed low high all = [] := by
  unfold landed
  rw [List.map_eq_nil_iff, List.filter_eq_nil_iff]
  intro arrival harrival hwithin
  have houtside := h arrival harrival
  have hwithin := of_decide_eq_true hwithin
  omega

end Landed

/-- What arrives on top of a buffer that waits is complete only with octets behind it. -/
theorem lt_of_mem_arrivals_append (h : buffer.length < frameEnd buffer) {start : Nat}
    {later : Bytes} {arrival : Nat × Except ProtocolError Packet}
    (harrival : arrival ∈ arrivals options start (buffer ++ later)) :
    start + buffer.length < arrival.1 :=
  Nat.lt_of_lt_of_le (Nat.add_lt_add_left (lt_frameEnd_append later h) start)
    (le_of_mem_arrivals harrival).1

/-- Until a run is stuck, each gives the results of the frames whose last octet is in its chunk. -/
theorem results_of_feed (h : buffer.length < frameEnd buffer) (start index : Nat)
    (chunks : List Bytes) {run : Drained} (hrun : (feed options buffer chunks).1[index]? = some run)
    (hfree : ∀ earlier ∈ (feed options buffer chunks).1.take index, earlier.stuck = false) :
    run.results =
      landed (start + buffer.length + (chunks.take index).flatten.length)
        (start + buffer.length + (chunks.take (index + 1)).flatten.length)
        (arrivals options start (buffer ++ chunks.flatten)) := by
  induction chunks generalizing buffer start index with
  | nil =>
    rw [feed] at hrun
    cases hrun
  | cons chunk chunks ih =>
    rw [List.flatten_cons, ← List.append_assoc, arrivals_append, landed_append]
    have hinside : ∀ arrival ∈ arrivals options start (buffer ++ chunk),
        start + buffer.length < arrival.1 ∧
          arrival.1 ≤ start + buffer.length + chunk.length := by
      intro arrival harrival
      have hhigh := (le_of_mem_arrivals harrival).2
      rw [List.length_append] at hhigh
      exact ⟨lt_of_mem_arrivals_append h harrival, by omega⟩
    have hend : start +
        ((buffer ++ chunk).length - (drain options (buffer ++ chunk)).buffer.length) +
        (drain options (buffer ++ chunk)).buffer.length =
          start + buffer.length + chunk.length := by
      have hrest := length_drain_buffer_le options (buffer ++ chunk)
      rw [List.length_append] at hrest ⊢
      omega
    cases index with
    | zero =>
      obtain rfl : drain options (buffer ++ chunk) = run := Option.some.inj hrun
      rw [List.take_zero, List.take_succ_cons, List.take_zero, List.flatten_cons, List.flatten_nil,
        List.append_nil, List.length_nil, Nat.add_zero, landed_eq_map hinside, map_snd_arrivals]
      split_ifs with hstuck
      · exact (List.append_nil _).symm
      · -- What the octets behind this chunk complete is complete only behind it.
        have hwaits := drain_buffer_of_not_stuck (eq_false_of_ne_true hstuck)
        rw [landed_eq_nil, List.append_nil]
        intro arrival harrival
        have hlow := lt_of_mem_arrivals_append hwaits harrival
        omega
    | succ index =>
      have hstuck : (drain options (buffer ++ chunk)).stuck = false :=
        hfree _ (List.mem_cons_self ..)
      have hwaits := drain_buffer_of_not_stuck hstuck
      have hlater := ih hwaits
        (start + ((buffer ++ chunk).length - (drain options (buffer ++ chunk)).buffer.length)) index
        hrun fun earlier hearlier ↦ hfree earlier (List.mem_cons_of_mem _ hearlier)
      rw [hend] at hlater
      rw [landed_eq_nil, List.nil_append, hstuck, List.take_succ_cons, List.take_succ_cons,
        List.flatten_cons, List.flatten_cons, List.length_append, List.length_append,
        ← Nat.add_assoc, ← Nat.add_assoc]
      · exact hlater
      · intro arrival harrival
        have hhigh := (hinside arrival harrival).2
        rw [List.take_succ_cons, List.flatten_cons, List.length_append]
        omega

/-- However a stream is cut, it gives the results of the whole stream up to the first header of
length zero and leaves the same octets; each result comes with the chunk that holds the last octet
of its frame; and at a header of length zero every step gives one error, whatever arrives. -/
theorem feed_flatten (options : DecodeOptions) (chunks : List Bytes) :
    let runs := (feed options [] chunks).1
    let whole := feed options [] [chunks.flatten]
    history runs = history whole.1 ∧ (feed options [] chunks).2 = whole.2 ∧
      history whole.1 = (arrivals options 0 chunks.flatten).map Prod.snd ∧
      (∀ index run, runs[index]? = some run →
        (∀ earlier ∈ runs.take index, earlier.stuck = false) →
          run.results =
            landed (chunks.take index).flatten.length (chunks.take (index + 1)).flatten.length
              (arrivals options 0 chunks.flatten)) ∧
      (∀ buffer failure rest, declaredLength buffer = 0 →
        step options buffer = .failed failure rest →
          ∀ later, step options (buffer ++ later) = .failed failure (buffer ++ later)) := by
  intro runs whole
  have hempty : ([] : Bytes).length < frameEnd [] := by decide
  obtain ⟨hhistory, hbuffer⟩ := feed_eq_drain options hempty chunks
  have hwhole : history whole.1 = (drain options chunks.flatten).results := history_singleton _
  refine ⟨hhistory.trans hwhole.symm, hbuffer, hwhole.trans (map_snd_arrivals 0).symm,
    fun index run hrun hfree ↦ ?_, fun buffer failure rest hzero htaken later ↦ ?_⟩
  · have hresults := results_of_feed hempty 0 index chunks hrun hfree
    rwa [List.length_nil, Nat.zero_add, Nat.zero_add, List.nil_append] at hresults
  · obtain ⟨hlength, hverdict, -⟩ := step_eq_failed_iff.mp htaken
    rw [step_append later hlength, hverdict, remainder, if_pos hzero]
    rfl

/-- A cut inside a length field: both results come with the second chunk, and the header of length
zero that ends the stream is final. -/
theorem feed_flatten_cut_length :
    let chunks : List Bytes := [[0], [1, 1, 1, 0, 0, 1, 1]]
    let results : List (Except ProtocolError Packet) :=
      [.ok ⟨⟨1, 1⟩, ⟨.ok, none, .ok []⟩⟩, .error (.invalidLength 0 1)]
    history (feed {} [] chunks).1 = results ∧
      (feed {} [] chunks).1[1]?.map Drained.results = some results ∧
      ∀ later, step {} ([0, 0, 1, 1] ++ later) =
        .failed (.invalidLength 0 1) ([0, 0, 1, 1] ++ later) := by
  intro chunks results
  have harrivals : arrivals {} 0 chunks.flatten = [4, 8].zip results := by
    rw [arrivals_of_frame (by decide) (by decide), arrivals_of_zero (by decide) (by decide)]
    rfl
  obtain ⟨hhistory, -, hwhole, hchunk, hfinal⟩ := feed_flatten {} chunks
  rw [harrivals] at hwhole hchunk
  have hfirst : (drain {} [0]).stuck = false := by
    rw [drain_of_lt (by decide)]
  have hsecond := hchunk 1 _ rfl fun earlier hearlier ↦ by
    rwa [List.mem_singleton.mp hearlier]
  refine ⟨hhistory.trans hwhole, congrArg some hsecond, hfinal [0, 0, 1, 1] _ _ rfl rfl⟩

end PeerLink.FrameBuffer
