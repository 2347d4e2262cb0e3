import PeerLink.Proofs.Link.Reading
import PeerLink.Proofs.Wire.Chunking
import Mathlib

/-!
Receiving goes on after a failure. A receive moves octets from the stream into the inbox and takes
at most one frame off it, and no receive drops an octet of any other (`Connection.Draws`), so what a
run of receives brings and what is still ahead of it are together what the octets give when they are
drained at once (`Receiver.Continues`). A frame that cannot be decoded makes no difference to that:
the next receive reports that the connection is closed, and those behind it bring the packets behind
the frame (`Receiver.packets_after_failure`), unless its header declared a length of zero.
-/

set_option autoImplicit false
set_option relaxedAutoImplicit false

namespace PeerLink

/-! ### Streams that keep what was not read -/

/-- A stream whose reads hand out what comes, in order. A read that fails or is given up has taken
nothing. -/
class ExactSource (σ : Type) [ByteStream σ] where
  /-- What has arrived, or is still to come by itself, and has not been read. -/
  unread : σ → Bytes
  append_unread : ∀ {limit now deadline : Nat} {stream : σ} {bytes : Bytes},
    (ByteStream.read limit now deadline stream).outcome = .done (.ok bytes) →
      bytes ++ unread (ByteStream.read limit now deadline stream).stream = unread stream
  unread_of_unserved : ∀ {limit now deadline : Nat} {stream : σ},
    (∀ bytes, (ByteStream.read limit now deadline stream).outcome ≠ .done (.ok bytes)) →
      unread (ByteStream.read limit now deadline stream).stream = unread stream

instance {σ : Type} [ByteStream σ] [OrderedSource σ] : ExactSource σ where
  unread := OrderedSource.pending
  append_unread := OrderedSource.append_pending
  unread_of_unserved {limit now deadline stream} h := by
    cases houtcome : (ByteStream.read limit now deadline stream).outcome with
    | expired => exact OrderedSource.pending_of_expired houtcome
    | done result =>
      cases result with
      | error fault => exact absurd houtcome (OrderedSource.outcome_ne_error _ _ _ _ fault)
      | ok bytes => exact absurd houtcome (h bytes)

namespace Script

/-- All that the reads of a script hand out. -/
def content : List (Cue (Except TransportFault Bytes)) → Bytes
  | [] => []
  | .result (.ok bytes) :: rest => bytes ++ content rest
  | _ :: rest => content rest

/-- What a turn hands out, and the reads after it. -/
def Turn.content : Turn (Except TransportFault Bytes) → Bytes
  | .ready (.ok bytes) _ rest => bytes ++ Script.content rest
  | .ready (.error _) _ rest => Script.content rest
  | .idle _ => []
  | .expired queue => Script.content queue.cues

theorem content_follow (deadline now : Nat) (cues : List (Cue (Except TransportFault Bytes))) :
    (follow deadline now cues).content = content cues := by
  induction cues generalizing now with
  | nil => rfl
  | cons cue cues ih =>
    cases cue with
    | result value => cases value <;> rfl
    | delay milliseconds =>
      unfold follow
      split_ifs
      · exact ih _
      · rfl
    | stall => rfl

theorem content_next (deadline now : Nat) (queue : Queue (Except TransportFault Bytes)) :
    (queue.next deadline now).content = content queue.cues := by
  unfold Queue.next
  split
  · exact content_follow _ _ _
  · split_ifs
    · exact content_follow _ _ _
    · rfl

instance : ExactSource Stream where
  unread stream := content stream.reads.cues
  append_unread {limit now deadline stream bytes} h := by
    change (stream.read limit now deadline).outcome = .done (.ok bytes) at h
    change bytes ++ content (stream.read limit now deadline).stream.reads.cues = _
    rw [← content_next deadline now stream.reads]
    unfold Stream.read at h ⊢
    split at h
    · cases h
    · cases h
    · cases h
    · rename_i whole time cues hnext
      cases h
      simp only [hnext, Turn.content]
      split_ifs with hwhole
      · rw [← List.take_append_drop limit whole, List.isEmpty_iff.mp hwhole, List.append_nil,
          List.take_take, Nat.min_self]
      · rw [content, ← List.append_assoc, List.take_append_drop]
  unread_of_unserved {limit now deadline stream} h := by
    change ∀ bytes, (stream.read limit now deadline).outcome ≠ .done (.ok bytes) at h
    change content (stream.read limit now deadline).stream.reads.cues = _
    rw [← content_next deadline now stream.reads]
    unfold Stream.read at h ⊢
    split at h
    · rename_i reads hnext
      rw [hnext]
      rfl
    · rename_i time hnext
      rw [hnext]
      rfl
    · rename_i fault time cues hnext
      rw [hnext]
      rfl
    · exact absurd rfl (h _)

end Script

/-! ### Drained in two parts -/

namespace FrameBuffer

/-- The run with the results of an earlier one in front. -/
def Drained.behind (earlier : List (Except ProtocolError Packet)) (run : Drained) : Drained :=
  { run with results := earlier ++ run.results }

theorem Drained.behind_behind (first second : List (Except ProtocolError Packet))
    (run : Drained) : (run.behind second).behind first = run.behind (first ++ second) := by
  unfold behind
  rw [List.append_assoc]

theorem Drained.resume_behind (options : DecodeOptions)
    (earlier : List (Except ProtocolError Packet)) (run : Drained) (later : Bytes) :
    (run.behind earlier).resume options later = (run.resume options later).behind earlier := by
  unfold resume behind
  split_ifs
  · rfl
  · dsimp only
    rw [List.append_assoc]

theorem drain_append_of_behind {options : DecodeOptions} {buffer rest : Bytes}
    {earlier : List (Except ProtocolError Packet)}
    (h : drain options buffer = (drain options rest).behind earlier) (later : Bytes) :
    drain options (buffer ++ later) = (drain options (rest ++ later)).behind earlier := by
  rw [drain_append, drain_append, h, Drained.resume_behind]

/-- The packets among the results. -/
def packets (results : List (Except ProtocolError Packet)) : List Packet :=
  results.filterMap Except.toOption

theorem packets_append (first second : List (Except ProtocolError Packet)) :
    packets (first ++ second) = packets first ++ packets second :=
  List.filterMap_append

/-- Behind a header of length zero there are no packets. -/
theorem packets_drain_of_zero {options : DecodeOptions} {failure : ProtocolError}
    {buffer rest : Bytes} (hstep : step options buffer = .failed failure rest)
    (hzero : Packet.declaredLength buffer = 0) (more : Bytes) :
    packets (drain options (rest ++ more)).results = [] := by
  obtain ⟨hlength, hverdict, hrest⟩ := step_eq_failed_iff.mp hstep
  rw [remainder, if_pos hzero] at hrest
  have hdeclared := declaredLength_append more (two_le_length hlength)
  rw [hrest, drain_of_zero (frameEnd_le_append more hlength) (hdeclared.trans hzero),
    verdict_append more hlength, hverdict]
  rfl

end FrameBuffer

/-! ### One receive -/

section Receiving

open ExactSource (unread)

variable {σ : Type} [ByteStream σ] [ExactSource σ]

/-- What reads have handed out is no longer ahead, and nothing else is missing. -/
theorem ByteStream.Reads.append_unread {stream left : σ} {octets : Bytes}
    (h : Reads stream octets left) : octets ++ unread left = unread stream := by
  induction h with
  | refl stream => rfl
  | served hserved _ ih => rw [List.append_assoc, ih, ExactSource.append_unread hserved]
  | unserved hunserved _ ih => rw [ih, ExactSource.unread_of_unserved hunserved]

namespace Connection

omit [ByteStream σ] [ExactSource σ] in
/-- What is taken is what draining would have taken first. An error of a header of length zero is
not taken, since its octets stay. -/
theorem Takes.drain {options : DecodeOptions} {buffer rest : Bytes}
    {result : Except ProtocolError Packet} {mode : ReadMode}
    (h : Takes options buffer result rest mode) :
    ∃ earlier, FrameBuffer.packets earlier = FrameBuffer.packets [result] ∧
      FrameBuffer.drain options buffer = (FrameBuffer.drain options rest).behind earlier := by
  cases h with
  | @packet packet rest mode hstep =>
    refine ⟨[.ok packet], rfl, ?_⟩
    obtain ⟨hlength, hverdict, rfl⟩ := FrameBuffer.step_eq_packet_iff.mp hstep
    have hpos := FrameBuffer.declaredLength_pos_of_verdict hlength hverdict
    have hzero : Packet.declaredLength buffer ≠ 0 := by omega
    rw [FrameBuffer.drain_of_frame hlength hzero, hverdict, FrameBuffer.remainder, if_neg hzero]
    rfl
  | @failed failure rest hstep =>
    obtain ⟨hlength, hverdict, rfl⟩ := FrameBuffer.step_eq_failed_iff.mp hstep
    by_cases hzero : Packet.declaredLength buffer = 0
    · refine ⟨[], rfl, ?_⟩
      rw [FrameBuffer.remainder, if_pos hzero]
      rfl
    · refine ⟨[.error failure], rfl, ?_⟩
      rw [FrameBuffer.drain_of_frame hlength hzero, hverdict, FrameBuffer.remainder, if_neg hzero]
      rfl
  | nothing hcategory => exact ⟨[], rfl, rfl⟩

/-- A receive moves octets from the stream into the inbox, none of them lost, and takes at most one
frame off them. -/
def Draws (connection : Connection) (stream : σ) (result : Except ProtocolError Packet)
    (after : Connection) (left : σ) : Prop :=
  ∃ taken, taken ++ unread left = unread stream ∧
    Takes connection.options (connection.inbox ++ taken) result after.inbox after.mode

theorem receive_draws (connection : Connection) (scene : Scene σ) :
    let received := connection.receive scene
    connection.Draws scene.stream received.1 received.2.1 received.2.2.stream := by
  intro received
  obtain ⟨taken, hreads, htakes⟩ := connection.receive_collects scene
  exact ⟨taken, hreads.append_unread, htakes⟩

omit [ExactSource σ] in
/-- The end is reported without a look at the stream. -/
theorem receive_of_failed {connection : Connection} {scene : Scene σ}
    (hmode : connection.mode = .failed) :
    (connection.receive scene).1 = .error .connectionClosed := by
  obtain ⟨hresult, -, -⟩ := connection.receive_eq scene
  unfold receiveFrom at hresult
  rw [hmode] at hresult
  exact hresult

end Connection

end Receiving

/-! ### Receive after receive -/

/-- A connection and the stream that it receives from, with the results so far. -/
structure Receiver (σ : Type) where
  connection : Connection
  scene : Scene σ
  /-- What the stream has brought that was not in it from the start. -/
  arrived : Bytes := []
  results : List (Except ProtocolError Packet) := []

namespace Receiver

open ExactSource (unread)
open FrameBuffer (drain packets)

variable {σ : Type} [ByteStream σ]

def receive (receiver : Receiver σ) : Receiver σ :=
  let received := receiver.connection.receive receiver.scene
  { receiver with
    connection := received.2.1
    scene := received.2.2
    results := receiver.results ++ [received.1] }

theorem results_receive (receiver : Receiver σ) : receiver.receive.results =
    receiver.results ++ [(receiver.connection.receive receiver.scene).1] :=
  rfl

variable [ExactSource σ]

/-- The octets that no receive has taken a frame off yet. -/
def ahead (receiver : Receiver σ) : Bytes :=
  receiver.connection.inbox ++ unread receiver.scene.stream

/-- What can happen to a receiver. Between two receives more octets may arrive, time may pass, and
packets may be sent over the connection. -/
inductive Step : Receiver σ → Receiver σ → Prop where
  | receive {receiver : Receiver σ} : Step receiver receiver.receive
  | elapse {receiver : Receiver σ} (more outbox : Bytes) (scene : Scene σ) :
    unread scene.stream = unread receiver.scene.stream ++ more →
    Step receiver
      { receiver with
        connection := { receiver.connection with outbox }
        scene
        arrived := receiver.arrived ++ more }

/-- Since `start`, the octets `more` have arrived and the receives have brought `later`: the packets
among them and those ahead are what all octets give. -/
structure Continues (start receiver : Receiver σ) (more : Bytes)
    (later : List (Except ProtocolError Packet)) : Prop where
  options : receiver.connection.options = start.connection.options
  arrived : receiver.arrived = start.arrived ++ more
  results : receiver.results = start.results ++ later
  octets : ∃ earlier, packets earlier = packets later ∧
    drain start.connection.options (start.ahead ++ more) =
      (drain start.connection.options receiver.ahead).behind earlier
  reports : start.connection.mode = .failed →
    receiver.connection.mode = .failed ∧ later = [] ∨
      ∃ others, later = .error .connectionClosed :: others

variable {start receiver : Receiver σ} {more : Bytes}
  {later : List (Except ProtocolError Packet)}

theorem Continues.refl (start : Receiver σ) : start.Continues start [] [] where
  options := rfl
  arrived := (List.append_nil _).symm
  results := (List.append_nil _).symm
  octets := by
    refine ⟨[], rfl, ?_⟩
    rw [List.append_nil]
    rfl
  reports hmode := .inl ⟨hmode, rfl⟩

theorem Continues.receive (h : start.Continues receiver more later) :
    start.Continues receiver.receive more
      (later ++ [(receiver.connection.receive receiver.scene).1]) := by
  obtain ⟨taken, htaken, htakes⟩ := receiver.connection.receive_draws receiver.scene
  obtain ⟨earlier, hearlier, hdrain⟩ := h.octets
  obtain ⟨last, hlast, hrest⟩ := htakes.drain
  refine ⟨(Connection.receive_options _ _).trans h.options, h.arrived, ?_,
    ⟨earlier ++ last, ?_, ?_⟩, fun hmode ↦ .inr ?_⟩
  · rw [results_receive, h.results, List.append_assoc]
  · rw [FrameBuffer.packets_append, FrameBuffer.packets_append, hearlier, hlast]
  · have hahead := FrameBuffer.drain_append_of_behind hrest
      (unread (receiver.connection.receive receiver.scene).2.2.stream)
    rw [List.append_assoc, htaken, h.options] at hahead
    refine hdrain.trans ?_
    rw [← FrameBuffer.Drained.behind_behind]
    exact congrArg _ hahead
  · obtain ⟨hfailed, rfl⟩ | ⟨others, rfl⟩ := h.reports hmode
    · rw [Connection.receive_of_failed hfailed]
      exact ⟨[], rfl⟩
    · exact ⟨_, rfl⟩

theorem Continues.elapse (h : start.Continues receiver more later) (new outbox : Bytes)
    (scene : Scene σ) (hnew : unread scene.stream = unread receiver.scene.stream ++ new) :
    start.Continues
      { receiver with
        connection := { receiver.connection with outbox }
        scene
        arrived := receiver.arrived ++ new } (more ++ new) later := by
  obtain ⟨earlier, hearlier, hdrain⟩ := h.octets
  refine ⟨h.options, ?_, h.results, ⟨earlier, hearlier, ?_⟩, h.reports⟩
  · rw [h.arrived, List.append_assoc]
  · unfold ahead
    rw [hnew, ← List.append_assoc, ← List.append_assoc]
    exact FrameBuffer.drain_append_of_behind hdrain new

theorem continues_of_run (hrun : Relation.ReflTransGen Step start receiver) :
    ∃ more later, start.Continues receiver more later := by
  induction hrun with
  | refl => exact ⟨[], [], .refl start⟩
  | tail _ hstep ih =>
    obtain ⟨more, later, h⟩ := ih
    cases hstep with
    | receive => exact ⟨more, _, h.receive⟩
    | elapse new outbox scene hnew => exact ⟨more ++ new, later, h.elapse new outbox scene hnew⟩

/-! ### What follows a failure -/

/-- A failing receive takes the first frame off what was ahead of it, and the next one will report
the end. -/
theorem ahead_of_failed {failure : ProtocolError}
    (hfailed : (start.connection.receive start.scene).1 = .error failure)
    (hcategory : failure.category = .decode) :
    FrameBuffer.step start.connection.options start.ahead = .failed failure start.receive.ahead ∧
      start.receive.connection.mode = .failed := by
  obtain ⟨taken, htaken, htakes⟩ := start.connection.receive_draws start.scene
  rw [hfailed] at htakes
  obtain ⟨hstep, hmode⟩ := htakes.of_decode hcategory
  obtain ⟨hlength, hverdict, hrest⟩ := FrameBuffer.step_eq_failed_iff.mp hstep
  refine ⟨?_, hmode⟩
  have happend := FrameBuffer.step_append
    (unread (start.connection.receive start.scene).2.2.stream) hlength start.connection.options
  rw [hverdict, ← hrest, List.append_assoc, htaken] at happend
  exact happend

/-- After a decode error, however the receives go on and whatever arrives, the first of them reports
that the connection is closed, and the packets that the others bring and those still ahead are the
packets behind the frame that failed. Behind a header of length zero there are none. -/
theorem packets_after_failure {failure : ProtocolError}
    (hfailed : (start.connection.receive start.scene).1 = .error failure)
    (hcategory : failure.category = .decode)
    (hrun : Relation.ReflTransGen Step start.receive receiver) :
    FrameBuffer.step start.connection.options start.ahead = .failed failure start.receive.ahead ∧
      ∃ more later, receiver.arrived = start.arrived ++ more ∧
        receiver.results = start.results ++ .error failure :: later ∧
        (∀ result ∈ later.head?, result = .error .connectionClosed) ∧
        packets later ++ packets (drain start.connection.options receiver.ahead).results =
          packets (drain start.connection.options (start.receive.ahead ++ more)).results ∧
        (Packet.declaredLength start.ahead = 0 → packets later = []) := by
  obtain ⟨hstep, hmode⟩ := ahead_of_failed hfailed hcategory
  refine ⟨hstep, ?_⟩
  obtain ⟨more, later, hcontinues⟩ := continues_of_run hrun
  obtain ⟨earlier, hearlier, hdrain⟩ := hcontinues.octets
  have hoptions : start.receive.connection.options = start.connection.options :=
    Connection.receive_options _ _
  rw [hoptions] at hdrain
  have hpackets : packets later ++ packets (drain start.connection.options receiver.ahead).results =
      packets (drain start.connection.options (start.receive.ahead ++ more)).results := by
    rw [hdrain, ← hearlier]
    exact (FrameBuffer.packets_append _ _).symm
  refine ⟨more, later, hcontinues.arrived, ?_, fun result hresult ↦ ?_, hpackets, fun hzero ↦ ?_⟩
  · rw [hcontinues.results, results_receive, hfailed, List.append_assoc]
    rfl
  · obtain ⟨-, rfl⟩ | ⟨others, rfl⟩ := hcontinues.reports hmode
    · cases hresult
    · exact (Option.some.inj hresult).symm
  · rw [FrameBuffer.packets_drain_of_zero hstep hzero] at hpackets
    exact (List.append_eq_nil_iff.mp hpackets).1

/-- A receive, and then a scene with the same stream at the same time. -/
theorem run_of_receiveFrom (connection : Connection) (now : Nat) (stream : σ) (arrived : Bytes)
    (results : List (Except ProtocolError Packet)) {outcome : Attempt (Except ProtocolError Packet)}
    {after : Connection} {later : Nat} {left : σ}
    (h : connection.receiveFrom (now + connection.receiveLimit.ticks) now stream =
      ⟨outcome, after, later, left⟩) :
    (connection.receive { now, stream }).1 = outcome.orTimeout ∧
      Relation.ReflTransGen Step (receive ⟨connection, { now, stream }, arrived, results⟩)
        ⟨after, { now := later, stream := left }, arrived, results ++ [outcome.orTimeout]⟩ := by
  obtain ⟨hresult, hconnection, hstream⟩ := connection.receive_eq { now, stream }
  rw [show Scene.deadline connection.receiveLimit _ = now + connection.receiveLimit.ticks from rfl,
    h] at hresult hconnection hstream
  have hstep : Step (receive ⟨connection, { now, stream }, arrived, results⟩) _ :=
    .elapse [] after.outbox { now := later, stream := left } (by
      rw [List.append_nil]
      exact congrArg unread hstream.symm)
  refine ⟨hresult, ?_⟩
  unfold receive at hstep ⊢
  dsimp only at hstep ⊢
  rw [hresult, hconnection, List.append_nil] at hstep
  rw [hresult, hconnection]
  exact Relation.ReflTransGen.single hstep

/-- A frame of an unknown type, and behind it one that is in order. -/
def strayFirst : Receiver Script.Stream where
  connection := {}
  scene := { stream := { reads := { cues :=
    [.result (.ok [0, 1, 1, 9]), .result (.ok [0, 1, 1, 1])] } } }

/-- The receives behind the one that met the frame of an unknown type. -/
theorem run_of_strayFirst :
    (strayFirst.connection.receive strayFirst.scene).1 = .error (.unknownType 9) ∧
      Relation.ReflTransGen Step strayFirst.receive
        ⟨{ mode := .ready }, { stream := {} }, [],
          [.error (.unknownType 9), .error .connectionClosed, .ok (.ok [])]⟩ := by
  let passed : Script.Stream := { reads := { cues := [.result (.ok [0, 1, 1, 1])] } }
  have hfirst : Connection.receiveFrom 5000 {} 0 strayFirst.scene.stream =
      ⟨.done (.error (.unknownType 9)), { mode := .failed }, 0, passed⟩ := by cbv
  have hsecond : Connection.receiveFrom 5000 { mode := .failed } 0 passed =
      ⟨.done (.error .connectionClosed), {}, 0, passed⟩ := by rfl
  have hthird : Connection.receiveFrom 5000 {} 0 passed =
      ⟨.done (.ok (.ok [])), { mode := .ready }, 0, {}⟩ := by cbv
  obtain ⟨hresult, hfirst⟩ := run_of_receiveFrom {} 0 strayFirst.scene.stream [] [] hfirst
  have hsecond := (run_of_receiveFrom { mode := .failed } 0 passed []
    [.error (.unknownType 9)] hsecond).2
  have hthird := (run_of_receiveFrom {} 0 passed []
    [.error (.unknownType 9), .error .connectionClosed] hthird).2
  exact ⟨hresult, ((hfirst.tail .receive).trans hsecond).tail .receive |>.trans hthird⟩

/-- The frame in order is what is left, and what the later receives bring. -/
theorem packets_after_failure_stray :
    (strayFirst.connection.receive strayFirst.scene).1 = .error (.unknownType 9) ∧
      (ProtocolError.unknownType 9).category = .decode ∧
      strayFirst.receive.ahead = [0, 1, 1, 1] ∧ ∃ receiver,
        Relation.ReflTransGen Step strayFirst.receive receiver ∧
          packets [.error .connectionClosed, .ok (.ok [])] ++
              packets (drain {} receiver.ahead).results =
            packets (drain {} [0, 1, 1, 1]).results := by
  obtain ⟨hfailed, hrun⟩ := run_of_strayFirst
  obtain ⟨hstep, more, later, harrived, hresults, -, hpackets, -⟩ :=
    packets_after_failure hfailed rfl hrun
  have hfront : FrameBuffer.step strayFirst.connection.options strayFirst.ahead =
      .failed (.unknownType 9) [0, 1, 1, 1] := by rfl
  have hahead : strayFirst.receive.ahead = [0, 1, 1, 1] := by
    injection hstep.symm.trans hfront
  cases hresults
  cases harrived
  rw [hahead] at hpackets
  exact ⟨hfailed, rfl, hahead, _, hrun, hpackets⟩

/-- The frame in order is received on the connection on which the other one failed. -/
theorem exists_packet_after_failure :
    ∃ receiver, Relation.ReflTransGen Step strayFirst receiver ∧
      ∃ earlier failure later packet, receiver.results = earlier ++ .error failure :: later ∧
        failure.category = .decode ∧ .ok packet ∈ later :=
  ⟨_, run_of_strayFirst.2.head .receive, [], .unknownType 9, _, .ok [], rfl, rfl,
    List.mem_cons_of_mem _ List.mem_cons_self⟩

end Receiver

end PeerLink
