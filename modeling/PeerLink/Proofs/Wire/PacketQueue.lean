import PeerLink.Proofs.Wire.FrameBoundary

/-!
A buffer that packets are encoded into and decoded from is a queue of packets. One encoding at the
front is one frame and gives the packet back or refuses its version (`step_encode_append`), so the
buffer holds at every time the encodings of the packets that wait in the queue (`Holds`). Encoding
and decoding keep that up, failed or not (`act_of_holds`), and answer as the queue does
(`run_buffer_queue`).
-/

set_option autoImplicit false
set_option relaxedAutoImplicit false

namespace PeerLink

open Packet (declaredLength)

/-- The packet itself if its version is accepted. -/
def VersionPolicy.check (versions : VersionPolicy) (packet : Packet) :
    Except ProtocolError Packet :=
  if versions.accepts packet.head.version then .ok packet
  else .error (.unsupportedVersion packet.head.version)

/-! ### One encoding at the front -/

namespace Packet

variable {packet : Packet} {wire : Bytes}

theorem accepted_encode_append (h : packet.encode = .ok wire) (rest : Bytes) :
    Accepted ⟨.streaming, .any⟩ (wire ++ rest) ⟨packet.canonical, wire.length⟩ := by
  apply accepted_of_decodeFront
  rw [decodeFront_encode_append h]
  exact (if_pos rfl).trans (if_neg (by simp))

/-- The canonical form has the same wire form. -/
theorem encode_canonical (h : packet.encode = .ok wire) : packet.canonical.encode = .ok wire := by
  have hencode := (accepted_encode_append h []).encode_eq
  rwa [List.append_nil, List.take_length] at hencode

theorem canonical_canonical (h : packet.encode = .ok wire) :
    packet.canonical.canonical = packet.canonical := by
  have hencodable := (encode_eq_ok_iff.mp (encode_canonical h)).1
  exact hencodable.canonical_eq_self_iff.mpr (accepted_encode_append h []).canonical

end Packet

namespace FrameBuffer

section Encoded

variable {packet : Packet} {wire : Bytes} (h : packet.encode = .ok wire) (rest : Bytes)
include h

theorem frameEnd_encode_append : frameEnd (wire ++ rest) = wire.length := by
  have haccepted := Packet.accepted_encode_append h rest
  have hsize := haccepted.consumed_eq
  have hmin := haccepted.consumed_ge
  rw [haccepted.declared_eq] at hsize
  unfold Packet.minSize at hmin
  dsimp only at hsize hmin
  rw [frameEnd, if_neg (by omega), hsize]

omit rest in
theorem ne_nil_of_encode : wire ≠ [] := by
  rintro rfl
  have hmin := minSize_le_frameEnd ([] ++ [])
  rw [frameEnd_encode_append h] at hmin
  exact absurd hmin (by decide)

/-- One encoding is one frame, and all that is judged of it is its version. -/
theorem step_encode_append (options : DecodeOptions) :
    step options (wire ++ rest) = .ofVerdict (options.versions.check packet.canonical) rest := by
  have hend := frameEnd_encode_append h rest
  have hlength : frameEnd (wire ++ rest) ≤ (wire ++ rest).length := by
    rw [hend, List.length_append]
    omega
  have hdeclared : declaredLength (wire ++ rest) ≠ 0 := by
    have haccepted := Packet.accepted_encode_append h rest
    have hmin := haccepted.consumed_ge
    rw [haccepted.consumed_eq, haccepted.declared_eq] at hmin
    unfold Packet.minSize at hmin
    omega
  rw [step_of_le hlength, verdict, remainder, if_neg hdeclared, hend, List.take_left,
    List.drop_left, Packet.decodeWith_encode h]
  rfl

end Encoded

/-! ### Buffer and queue -/

inductive Operation where
  | encode (packet : Packet)
  | decode

/-- The answer to an operation; decoding a buffer that waits gives no packet. -/
inductive Reply where
  | encoded (result : Except ProtocolError Unit)
  | decoded (result : Except ProtocolError (Option Packet))

/-- An operation on a buffer of octets. -/
def act (options : DecodeOptions) (buffer : Bytes) : Operation → Reply × Bytes
  | .encode packet =>
    match packet.appendTo buffer with
    | .ok longer => (.encoded (.ok ()), longer)
    | .error failure => (.encoded (.error failure), buffer)
  | .decode =>
    match step options buffer with
    | .waiting => (.decoded (.ok none), buffer)
    | .packet packet rest => (.decoded (.ok (some packet)), rest)
    | .failed failure rest => (.decoded (.error failure), rest)

/-- The same operation on a queue of packets, the oldest in front. -/
def enact (versions : VersionPolicy) (queue : List Packet) : Operation → Reply × List Packet
  | .encode packet =>
    match packet.encode with
    | .ok _ => (.encoded (.ok ()), queue ++ [packet.canonical])
    | .error failure => (.encoded (.error failure), queue)
  | .decode =>
    match queue with
    | [] => (.decoded (.ok none), [])
    | oldest :: later => (.decoded ((versions.check oldest).map some), later)

/-- The replies to operations one after another, and the state in the end. -/
def run {σ : Type} (act : σ → Operation → Reply × σ) (state : σ) :
    List Operation → List Reply × σ
  | [] => ([], state)
  | operation :: operations =>
    let acted := act state operation
    let others := run act acted.2 operations
    (acted.1 :: others.1, others.2)

/-- The buffer is the encodings of the packets in the queue, one behind the other. -/
inductive Holds : Bytes → List Packet → Prop where
  | nil : Holds [] []
  | cons {packet : Packet} {wire buffer : Bytes} {queue : List Packet} :
    packet.encode = .ok wire → packet.canonical = packet → Holds buffer queue →
      Holds (wire ++ buffer) (packet :: queue)

namespace Holds

variable {buffer : Bytes} {queue : List Packet}

theorem append_encode {packet : Packet} {wire : Bytes} (h : Holds buffer queue)
    (hencode : packet.encode = .ok wire) :
    Holds (buffer ++ wire) (queue ++ [packet.canonical]) := by
  induction h with
  | nil =>
    have hlast := cons (Packet.encode_canonical hencode) (Packet.canonical_canonical hencode) nil
    rwa [List.append_nil] at hlast
  | cons hfirst hcanonical _ ih =>
    rw [List.append_assoc]
    exact cons hfirst hcanonical ih

theorem eq_nil_iff (h : Holds buffer queue) : buffer = [] ↔ queue = [] := by
  cases h with
  | nil => exact iff_of_true rfl rfl
  | cons hfirst _ _ =>
    refine iff_of_false (fun hnil ↦ ?_) (List.cons_ne_nil _ _)
    exact ne_nil_of_encode hfirst (List.append_eq_nil_iff.mp hnil).1

theorem exists_wires (h : Holds buffer queue) :
    ∃ wires : List Bytes, queue.map Packet.encode = wires.map .ok ∧ buffer = wires.flatten := by
  induction h with
  | nil => exact ⟨[], rfl, rfl⟩
  | @cons packet wire _ _ hfirst _ _ ih =>
    obtain ⟨wires, hwires, rfl⟩ := ih
    exact ⟨wire :: wires, congrArg₂ List.cons hfirst hwires, rfl⟩

end Holds

/-- Each operation answers as on the queue and leaves what the queue then holds. -/
theorem act_of_holds (options : DecodeOptions) {buffer : Bytes} {queue : List Packet}
    (h : Holds buffer queue) (operation : Operation) :
    (act options buffer operation).1 = (enact options.versions queue operation).1 ∧
      Holds (act options buffer operation).2 (enact options.versions queue operation).2 := by
  cases operation with
  | encode packet =>
    cases hencode : packet.encode with
    | error failure =>
      simp only [act, enact, Packet.appendTo, hencode, Except.map]
      exact ⟨trivial, h⟩
    | ok wire =>
      simp only [act, enact, Packet.appendTo, hencode, Except.map]
      exact ⟨trivial, h.append_encode hencode⟩
  | decode =>
    cases h with
    | nil => exact ⟨rfl, .nil⟩
    | @cons oldest wire later queue hfirst hcanonical hlater =>
      have htaken := step_encode_append hfirst later options
      rw [hcanonical] at htaken
      simp only [act, enact, htaken]
      cases options.versions.check oldest with
      | error failure => exact ⟨rfl, hlater⟩
      | ok packet => exact ⟨rfl, hlater⟩

theorem run_of_holds (options : DecodeOptions) (operations : List Operation) {buffer : Bytes}
    {queue : List Packet} (h : Holds buffer queue) :
    (run (act options) buffer operations).1 = (run (enact options.versions) queue operations).1 ∧
      Holds (run (act options) buffer operations).2
        (run (enact options.versions) queue operations).2 := by
  induction operations generalizing buffer queue with
  | nil => exact ⟨rfl, h⟩
  | cons operation operations ih =>
    obtain ⟨hreply, hholds⟩ := act_of_holds options h operation
    obtain ⟨hreplies, hend⟩ := ih hholds
    exact ⟨congrArg₂ List.cons hreply hreplies, hend⟩

/-- Whatever is encoded and decoded in whatever order, a buffer that was empty answers as a queue
does that was empty, and is in the end what the packets left in the queue are encoded as. -/
theorem run_buffer_queue (options : DecodeOptions) (operations : List Operation) :
    let buffered := run (act options) [] operations
    let queued := run (enact options.versions) [] operations
    buffered.1 = queued.1 ∧ (buffered.2 = [] ↔ queued.2 = []) ∧
      ∃ wires : List Bytes, queued.2.map Packet.encode = wires.map .ok ∧
        buffered.2 = wires.flatten := by
  intro buffered queued
  obtain ⟨hreplies, hholds⟩ := run_of_holds options operations .nil
  exact ⟨hreplies, hholds.eq_nil_iff, hholds.exists_wires⟩

end FrameBuffer

end PeerLink
