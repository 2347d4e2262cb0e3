import PeerLink.Proofs.Link.Closing
import PeerLink.Proofs.Wire.PacketQueue
import Mathlib

/-!
Two connections joined by streams that lose nothing deliver every packet once and in order. A link
takes one step at a time: a packet is sent, the sender goes away, octets are carried from one
stream to the other, as many at a time as one likes, the end follows them once the sender's stream
is closed, or a packet is received (`Link.Step`). All the while the octets between the two
connections are the encodings of the packets that are sent and not yet received, and behind them
what the sender left when it went (`Link.Standing`).
-/

set_option autoImplicit false
set_option relaxedAutoImplicit false

namespace PeerLink

/-! ### The front of a stream of packets -/

namespace FrameBuffer

theorem step_append_of_ofVerdict {options : DecodeOptions} {buffer rest : Bytes}
    {result : Except ProtocolError Packet} (h : step options buffer = .ofVerdict result rest)
    (later : Bytes) : step options (buffer ++ later) = .ofVerdict result (rest ++ later) := by
  obtain ⟨hlength, rfl, rfl⟩ := (step_eq_ofVerdict_iff result).mp h
  exact step_append later hlength options

namespace Holds

variable {options : DecodeOptions} {bytes tail : Bytes} {queue : List Packet}

/-- What a packet adds to a stream, and to the packets it carries. -/
theorem append_wire (h : Holds bytes queue) (packet : Packet) :
    Holds (bytes ++ packet.wire)
      (queue ++ if packet.encode.isOk then [packet.canonical] else []) := by
  unfold Packet.wire
  cases hencode : packet.encode with
  | ok wire => exact h.append_encode hencode
  | error failure => simpa [Except.toOption, Except.isOk, Except.toBool] using h

/-- Only a stream without packets can wait. -/
theorem eq_nil_of_waiting (h : Holds bytes queue)
    (hstep : step options (bytes ++ tail) = .waiting) : bytes = [] ∧ queue = [] := by
  cases h with
  | nil => exact ⟨rfl, rfl⟩
  | cons hencode _ _ =>
    rw [List.append_assoc, step_encode_append hencode] at hstep
    exact absurd hstep (FrameStep.ofVerdict_ne_waiting _ _)

/-- What is decided at the front of a stream is its first packet, however little of the rest has
arrived. -/
theorem of_ofVerdict (h : Holds bytes queue) (htail : step options tail = .waiting)
    (haccepts : ∀ packet ∈ queue, options.versions.check packet = .ok packet)
    {buffer later rest : Bytes} (result : Except ProtocolError Packet)
    (hstream : buffer ++ later = bytes ++ tail)
    (hstep : step options buffer = .ofVerdict result rest) :
    ∃ first others, result = .ok first ∧ queue = first :: others ∧
      ∃ remaining, Holds remaining others ∧ rest ++ later = remaining ++ tail := by
  have hwhole := step_append_of_ofVerdict hstep later
  rw [hstream] at hwhole
  cases h with
  | nil => exact absurd (hwhole.symm.trans htail) (FrameStep.ofVerdict_ne_waiting _ _)
  | @cons first wire remaining others hencode hcanonical hothers =>
    rw [List.append_assoc, step_encode_append hencode, hcanonical,
      haccepts first List.mem_cons_self, FrameStep.ofVerdict_inj] at hwhole
    exact ⟨first, others, hwhole.1.symm, rfl, remaining, hothers, hwhole.2.symm⟩

end Holds

end FrameBuffer

/-! ### Links -/

/-- Two connections with the streams between them, and the record of what went in and came out. -/
structure Link (τ σ : Type) where
  sender : Connection
  outgoing : Scene τ
  receiver : Connection
  incoming : Scene σ
  /-- Once the sender is gone, what it left behind its last packet. -/
  ending : Option Bytes := none
  /-- If it was closed, what came of that. -/
  closing : Option (Attempt (Except ProtocolError Unit)) := none
  sent : List Packet := []
  results : List (Except ProtocolError Packet) := []

namespace Link

open OrderedSink (queued)
open OrderedSource (pending ended)
open ClosingSink (closed)

/-- Whether a receive timed out. -/
def isTimeout : Except ProtocolError Packet → Bool
  | .error .timeout => true
  | _ => false

section Record

variable {τ σ : Type} (link : Link τ σ)

/-- The packets that were sent and could be encoded, in canonical form. -/
def expected : List Packet :=
  (link.sent.filter fun packet ↦ packet.encode.isOk).map Packet.canonical

/-- The packets that were received. -/
def packets : List Packet := link.results.filterMap Except.toOption

/-- What the receiver was told, but for the receives that timed out. -/
def answers : List (Except ProtocolError Packet) :=
  link.results.filter fun result ↦ !isTimeout result

def tail : Bytes := link.ending.getD []

/-- What the receiver is to be told before the end: every packet, and the fault of a stream that
ends inside a frame if it does. -/
def due : List (Except ProtocolError Packet) :=
  link.expected.map .ok ++
    if link.tail = [] then [] else [.error (.transport FrameBuffer.remainingFault)]

/-- The receiver accepts the versions of all packets that get to it. -/
def Accepts : Prop :=
  ∀ packet ∈ link.sent, packet.encode.isOk →
    link.receiver.options.versions.accepts packet.head.version

theorem due_of_tail_eq_nil (h : link.tail = []) : link.due = link.expected.map .ok := by
  rw [due, if_pos h, List.append_nil]

theorem due_of_tail_ne_nil (h : link.tail ≠ []) :
    link.due = link.expected.map .ok ++ [.error (.transport FrameBuffer.remainingFault)] := by
  rw [due, if_neg h]

theorem expected_append (packet : Packet) :
    expected { link with sent := link.sent ++ [packet] } =
      link.expected ++ if packet.encode.isOk then [packet.canonical] else [] := by
  unfold expected
  rw [List.filter_append, List.map_append]
  congr 1
  cases h : packet.encode.isOk <;> simp [h]

theorem answers_append (result : Except ProtocolError Packet) :
    answers { link with results := link.results ++ [result] } =
      link.answers ++ if isTimeout result then [] else [result] := by
  unfold answers
  rw [List.filter_append]
  congr 1
  cases h : isTimeout result <;> simp [h]

variable {link} in
theorem check_of_accepts (h : link.Accepts) {packet : Packet} (hmem : packet ∈ link.expected) :
    link.receiver.options.versions.check packet = .ok packet := by
  unfold expected at hmem
  obtain ⟨original, hsent, rfl⟩ := List.mem_map.mp hmem
  obtain ⟨hmem, hencodes⟩ := List.mem_filter.mp hsent
  exact if_pos (h original hmem hencodes)

variable {link} in
theorem check_of_mem_queue (h : link.Accepts) {queue : List Packet}
    (hanswers : link.answers ++ queue.map .ok = link.expected.map .ok) :
    ∀ packet ∈ queue, link.receiver.options.versions.check packet = .ok packet := by
  intro packet hmem
  have hpart : (.ok packet : Except ProtocolError Packet) ∈ link.expected.map .ok := by
    rw [← hanswers]
    exact List.mem_append_right _ (List.mem_map_of_mem hmem)
  obtain ⟨_, hexpected, hsame⟩ := List.mem_map.mp hpart
  cases hsame
  exact check_of_accepts h hexpected

end Record

variable {τ σ : Type} [ByteStream τ] [OrderedSink τ] [ClosingSink τ] [ByteStream σ]
  [OrderedSource σ]

/-- Two new connections, with any options, sizes and limits, over streams that carried nothing. -/
structure IsNew (link : Link τ σ) : Prop where
  outbox : link.sender.outbox = []
  inbox : link.receiver.inbox = []
  inputEnded : link.receiver.inputEnded = false
  mode : link.receiver.mode = .waiting
  queued : queued link.outgoing.stream = []
  closed : closed link.outgoing.stream = false
  pending : pending link.incoming.stream = []
  ended : ended link.incoming.stream = false
  ending : link.ending = none
  closing : link.closing = none
  sent : link.sent = []
  results : link.results = []

def send (packet : Packet) (link : Link τ σ) : Link τ σ :=
  let sending := link.sender.send packet link.outgoing
  { link with
    sender := sending.2.1, outgoing := sending.2.2, sent := link.sent ++ [packet] }

def close (deadline : Nat) (link : Link τ σ) : Link τ σ :=
  let closing := link.sender.close deadline link.outgoing
  { link with outgoing := closing.2, ending := some [], closing := some closing.1 }

def receive (link : Link τ σ) : Link τ σ :=
  let received := link.receiver.receive link.incoming
  { link with
    receiver := received.2.1, incoming := received.2.2, results := link.results ++ [received.1] }

/-- What can happen on a link. Sends that meet trouble on the stream, a timeout included, are left
out; those that the encoder refuses are not. -/
inductive Step : Link τ σ → Link τ σ → Prop where
  | send {link : Link τ σ} (packet : Packet) : link.ending = none →
    (∀ failure, (link.sender.send packet link.outgoing).1 = .error failure →
      failure.category ≠ .transport) →
    Step link (link.send packet)
  | close {link : Link τ σ} (deadline : Nat) : link.ending = none → Step link (link.close deadline)
  /-- The sender goes away without a word, and leaves the beginning of a frame or nothing. -/
  | cut {link : Link τ σ} (tail : Bytes) (outgoing : Scene τ) : link.ending = none →
    FrameBuffer.step link.receiver.options tail = .waiting →
    queued outgoing.stream = queued link.outgoing.stream ++ tail →
    Step link { link with outgoing, ending := some tail }
  /-- Octets move on, and time passes. -/
  | carry {link : Link τ σ} (moved : Bytes) (outgoing : Scene τ) (incoming : Scene σ) :
    queued link.outgoing.stream = moved ++ queued outgoing.stream →
    pending incoming.stream = pending link.incoming.stream ++ moved →
    ended incoming.stream = ended link.incoming.stream →
    closed outgoing.stream = closed link.outgoing.stream →
    Step link { link with outgoing, incoming }
  /-- A stream whose owner is gone may be closed without a shutdown. -/
  | lapse {link : Link τ σ} (outgoing : Scene τ) : link.ending.isSome →
    queued outgoing.stream = queued link.outgoing.stream → closed outgoing.stream = true →
    Step link { link with outgoing }
  /-- The end of a stream that is closed arrives behind the last octet. -/
  | finish {link : Link τ σ} (incoming : Scene σ) : closed link.outgoing.stream = true →
    queued link.outgoing.stream = [] →
    pending incoming.stream = pending link.incoming.stream →
    ended incoming.stream = true →
    Step link { link with incoming }
  | receive {link : Link τ σ} : Step link link.receive

/-! ### What holds at every time -/

/-- Where the octets and the packets are. While the receiver is open, the octets between the two
connections are those of the packets not yet received; when it is over with the input, everything
was answered. -/
inductive Standing (link : Link τ σ) : Prop where
  | isOpen {bytes : Bytes} {queue : List Packet} :
    link.receiver.IsOpen → FrameBuffer.Holds bytes queue →
    link.receiver.inbox ++ (pending link.incoming.stream ++ queued link.outgoing.stream) =
      bytes ++ link.tail →
    link.answers ++ queue.map .ok = link.expected.map .ok → Standing link
  | isOver (count : Nat) :
    link.receiver.inputEnded = true → link.receiver.mode ≠ .ready →
    pending link.incoming.stream = [] → ended link.incoming.stream = true →
    link.answers = link.due ++ List.replicate count (.error .connectionClosed) → Standing link

structure Consistent (link : Link τ σ) : Prop where
  outbox : link.sender.outbox = []
  tail : FrameBuffer.step link.receiver.options link.tail = .waiting
  /-- Nobody closes the stream while the sender is there. -/
  present : link.ending = none → closed link.outgoing.stream = false
  closing : link.closing = some (.done (.ok ())) →
    link.ending = some [] ∧ closed link.outgoing.stream = true
  atEnd : ended link.incoming.stream = true →
    closed link.outgoing.stream = true ∧ queued link.outgoing.stream = []
  standing : link.Standing

theorem IsNew.consistent {link : Link τ σ} (h : link.IsNew) : link.Consistent where
  outbox := h.outbox
  tail := by
    rw [Link.tail, h.ending]
    rfl
  present _ := h.closed
  closing hclosing := absurd (h.closing.symm.trans hclosing) nofun
  atEnd hended := absurd (h.ended.symm.trans hended) Bool.false_ne_true
  standing := by
    refine .isOpen ⟨h.inputEnded, ?_, fun _ ↦ ?_⟩ .nil ?_ ?_
    · rw [h.mode]
      exact nofun
    · rw [h.inbox]
      rfl
    · rw [h.inbox, h.pending, h.queued, Link.tail, h.ending]
      rfl
    · rw [answers, expected, h.results, h.sent]
      rfl

namespace Consistent

variable {link : Link τ σ} (h : link.Consistent)
include h

theorem not_ended (hending : link.ending = none) : ¬ ended link.incoming.stream = true := by
  intro hended
  exact Bool.false_ne_true ((h.present hending).symm.trans (h.atEnd hended).1)

/-- A sender that is there was not closed. -/
theorem closing_ne (hending : link.ending = none) : link.closing ≠ some (.done (.ok ())) := by
  intro hclosing
  exact Bool.false_ne_true ((h.present hending).symm.trans (h.closing hclosing).2)

/-- While the sender is there, the input is not over. -/
theorem standing_isOpen (hending : link.ending = none) :
    ∃ bytes queue, link.receiver.IsOpen ∧ FrameBuffer.Holds bytes queue ∧
      link.receiver.inbox ++ (pending link.incoming.stream ++ queued link.outgoing.stream) =
        bytes ∧
      link.answers ++ queue.map .ok = link.expected.map .ok := by
  cases h.standing with
  | @isOpen bytes queue hopen hholds hstream hanswers =>
    rw [Link.tail, hending, Option.getD_none, List.append_nil] at hstream
    exact ⟨bytes, queue, hopen, hholds, hstream, hanswers⟩
  | isOver _ _ _ _ hended _ => exact absurd hended (h.not_ended hending)

theorem send {packet : Packet} (hending : link.ending = none)
    (hresult : ∀ failure, (link.sender.send packet link.outgoing).1 = .error failure →
      failure.category ≠ .transport) : (link.send packet).Consistent := by
  obtain ⟨-, houtbox, hqueued⟩ := Connection.send_spec h.outbox hresult
  obtain ⟨bytes, queue, hopen, hholds, hstream, hanswers⟩ := h.standing_isOpen hending
  have hclosed := Connection.closed_send link.sender packet link.outgoing
  refine ⟨houtbox, h.tail, fun _ ↦ hclosed.trans (h.present hending), fun hclosing ↦ ?_,
    fun hended ↦ ?_, .isOpen hopen (hholds.append_wire packet) ?_ ?_⟩
  · exact absurd hclosing (h.closing_ne hending)
  · exact absurd hended (h.not_ended hending)
  · change link.receiver.inbox ++ (pending link.incoming.stream ++
      queued (link.sender.send packet link.outgoing).2.2.stream) = _ ++ link.ending.getD []
    rw [hqueued, hending, Option.getD_none, List.append_nil, ← hstream]
    simp only [List.append_assoc]
  · refine Eq.trans ?_ (congrArg _ (link.expected_append packet)).symm
    rw [List.map_append, List.map_append, ← hanswers, List.append_assoc]
    rfl

/-- The sender goes, be it in good order or not. -/
theorem goes {tail : Bytes} {outgoing : Scene τ}
    {closing : Option (Attempt (Except ProtocolError Unit))} (hending : link.ending = none)
    (htail : FrameBuffer.step link.receiver.options tail = .waiting)
    (hqueued : queued outgoing.stream = queued link.outgoing.stream ++ tail)
    (hclosing : closing = some (.done (.ok ())) →
      some tail = some [] ∧ closed outgoing.stream = true) :
    Consistent { link with outgoing, ending := some tail, closing } := by
  obtain ⟨bytes, queue, hopen, hholds, hstream, hanswers⟩ := h.standing_isOpen hending
  refine ⟨h.outbox, htail, nofun, hclosing, fun hended ↦ ?_, .isOpen hopen hholds ?_ hanswers⟩
  · exact absurd hended (h.not_ended hending)
  · change link.receiver.inbox ++ (pending link.incoming.stream ++ queued outgoing.stream) =
      bytes ++ tail
    rw [hqueued, ← hstream]
    simp only [List.append_assoc]

/-- Octets move on, and the stream is not closed before its time nor opened again. -/
theorem carry {moved : Bytes} {outgoing : Scene τ} {incoming : Scene σ}
    (hout : queued link.outgoing.stream = moved ++ queued outgoing.stream)
    (hin : pending incoming.stream = pending link.incoming.stream ++ moved)
    (hended : ended incoming.stream = ended link.incoming.stream)
    (hpresent : link.ending = none → closed outgoing.stream = false)
    (hkept : closed link.outgoing.stream = true → closed outgoing.stream = true) :
    Consistent { link with outgoing, incoming } := by
  refine ⟨h.outbox, h.tail, hpresent, fun hclosing ↦ (h.closing hclosing).imp_right hkept,
    fun hover ↦ ?_, ?_⟩
  · obtain ⟨hclosed, hnone⟩ := h.atEnd (hended ▸ hover)
    exact ⟨hkept hclosed, (List.append_eq_nil_iff.mp (hout.symm.trans hnone)).2⟩
  · cases h.standing with
    | isOpen hopen hholds hstream hanswers =>
      refine .isOpen hopen hholds ?_ hanswers
      rw [hin, List.append_assoc, ← hout]
      exact hstream
    | isOver count hinput hmode hpending hover hanswers =>
      refine .isOver count hinput hmode ?_ (hended.trans hover) hanswers
      have hmoved := (List.append_eq_nil_iff.mp (hout.symm.trans (h.atEnd hover).2)).1
      rw [hin, hpending, hmoved]
      rfl

theorem finish {incoming : Scene σ} (hclosed : closed link.outgoing.stream = true)
    (hqueued : queued link.outgoing.stream = [])
    (hin : pending incoming.stream = pending link.incoming.stream)
    (hended : ended incoming.stream = true) : Consistent { link with incoming } := by
  refine ⟨h.outbox, h.tail, h.present, h.closing, fun _ ↦ ⟨hclosed, hqueued⟩, ?_⟩
  cases h.standing with
  | isOpen hopen hholds hstream hanswers =>
    refine .isOpen hopen hholds ?_ hanswers
    rw [hin]
    exact hstream
  | isOver count hinput hmode hpending _ hanswers =>
    exact .isOver count hinput hmode (hin.trans hpending) hended hanswers

/-- A receive while the receiver is open, by what it came to. -/
theorem standing_of_gathers (haccepts : link.Accepts) {bytes : Bytes} {queue : List Packet}
    {outcome : Attempt (Except ProtocolError Packet)} {after : Connection} {incoming : Scene σ}
    (hholds : FrameBuffer.Holds bytes queue)
    (hstream : link.receiver.inbox ++
      (pending link.incoming.stream ++ queued link.outgoing.stream) = bytes ++ link.tail)
    (hanswers : link.answers ++ queue.map .ok = link.expected.map .ok)
    (hoptions : after.options = link.receiver.options)
    (hgathers : link.receiver.Gathers link.incoming.stream outcome after incoming.stream) :
    Standing { link with
      receiver := after, incoming, results := link.results ++ [outcome.orTimeout] } := by
  obtain ⟨taken, htaken, hended, hreceived⟩ := hgathers
  have hbuffer : (link.receiver.inbox ++ taken) ++
      (pending incoming.stream ++ queued link.outgoing.stream) = bytes ++ link.tail := by
    rw [← hstream, ← htaken]
    simp only [List.append_assoc]
  -- once the input is over, the inbox holds all that was left
  have hall (hover : pending incoming.stream = [] ∧ ended incoming.stream = true) :
      link.receiver.inbox ++ taken = bytes ++ link.tail := by
    rw [← hbuffer, hover.1, (h.atEnd (hended ▸ hover.2)).2, List.append_nil, List.append_nil]
  have hqueue := check_of_mem_queue haccepts hanswers
  have hadded := link.answers_append outcome.orTimeout
  unfold Connection.ReceivedBy at hreceived
  generalize hinbox : after.inbox = inbox, hinput : after.inputEnded = input,
    hmode : after.mode = mode at hreceived
  cases hreceived with
  | expired hwaits hmore =>
    refine .isOpen ⟨hinput, by rw [hmode]; exact nofun, fun _ ↦ ?_⟩ hholds ?_ ?_
    · rw [hoptions, hinbox]
      exact hwaits
    · rw [hinbox]
      exact hbuffer
    · exact (congrArg (· ++ queue.map .ok) (hadded.trans (List.append_nil _))).trans hanswers
  | @packet packet rest hstep =>
    obtain ⟨first, others, hfirst, rfl, remaining, hothers, hrest⟩ :=
      hholds.of_ofVerdict h.tail hqueue (.ok packet) hbuffer hstep
    cases hfirst
    refine .isOpen ⟨hinput, by rw [hmode]; exact nofun, fun hwaiting ↦ ?_⟩ hothers ?_ ?_
    · exact absurd (hmode.symm.trans hwaiting) nofun
    · rw [hinbox]
      exact hrest
    · refine (congrArg (· ++ others.map .ok) hadded).trans (Eq.trans ?_ hanswers)
      exact List.append_assoc _ _ _
  | @failed failure rest hstep =>
    obtain ⟨_, _, hfirst, -⟩ :=
      hholds.of_ofVerdict h.tail hqueue (.error failure) hbuffer hstep
    cases hfirst
  | closed hover hempty =>
    obtain ⟨hnil, htail⟩ := List.append_eq_nil_iff.mp ((hall hover).symm.trans hempty)
    rw [hholds.eq_nil_iff.mp hnil, List.map_nil, List.append_nil] at hanswers
    refine .isOver 1 hinput (by rw [hmode]; exact nofun) hover.1 hover.2 (hadded.trans ?_)
    exact congrArg (· ++ _) (hanswers.trans (link.due_of_tail_eq_nil htail).symm)
  | cut hover hwaits hne =>
    rw [hall hover] at hwaits hne
    obtain ⟨rfl, rfl⟩ := hholds.eq_nil_of_waiting hwaits
    rw [List.map_nil, List.append_nil] at hanswers
    refine .isOver 0 hinput (by rw [hmode]; exact nofun) hover.1 hover.2 (hadded.trans ?_)
    rw [hanswers]
    exact (link.due_of_tail_ne_nil hne).symm.trans (List.append_nil _).symm

theorem receive (haccepts : link.Accepts) : link.receive.Consistent := by
  have hoptions := link.receiver.receive_options link.incoming
  have htail : FrameBuffer.step link.receive.receiver.options link.receive.tail = .waiting := by
    rw [← h.tail, ← hoptions]
    rfl
  cases h.standing with
  | isOpen hopen hholds hstream hanswers =>
    obtain ⟨outcome, hresult, hgathers⟩ := Connection.receive_spec hopen link.incoming
    obtain ⟨_, _, hended, _⟩ := id hgathers
    refine ⟨h.outbox, htail, h.present, h.closing, fun hover ↦ h.atEnd (hended ▸ hover), ?_⟩
    unfold Link.receive
    dsimp only
    rw [hresult]
    exact h.standing_of_gathers haccepts hholds hstream hanswers hoptions hgathers
  | isOver count hinput hmode hpending hended hanswers =>
    obtain ⟨hresult, hconnection, hleft, hkept⟩ :=
      Connection.receive_of_inputEnded hinput hmode hpending hended
    refine ⟨h.outbox, htail, h.present, h.closing, fun _ ↦ h.atEnd hended,
      .isOver (count + 1) ?_ ?_ hleft hkept ?_⟩
    · rw [Link.receive, hconnection]
      exact hinput
    · rw [Link.receive, hconnection]
      exact nofun
    · refine (link.answers_append _).trans ?_
      rw [hresult, hanswers, List.append_assoc, List.replicate_succ']
      rfl

/-- One step keeps everything in its place. -/
theorem step {next : Link τ σ} (hstep : Step link next) (haccepts : link.Accepts) :
    next.Consistent := by
  cases hstep with
  | send packet hending hresult => exact h.send hending hresult
  | close deadline hending =>
    refine h.goes hending rfl ?_ fun hclosing ↦ ⟨rfl, ?_⟩
    · rw [Connection.queued_close h.outbox, List.append_nil]
    · exact Connection.closed_close (Option.some.inj hclosing)
  | cut tail outgoing hending htail hqueued =>
    exact h.goes hending htail hqueued fun hclosing ↦ absurd hclosing (h.closing_ne hending)
  | carry moved outgoing incoming hout hin hended hclosed =>
    exact h.carry hout hin hended (fun hending ↦ hclosed.trans (h.present hending)) hclosed.trans
  | lapse outgoing hending hqueued hclosed =>
    have hout : queued link.outgoing.stream = [] ++ queued outgoing.stream := hqueued.symm
    refine h.carry hout (List.append_nil _).symm rfl (fun hnone ↦ ?_) fun _ ↦ hclosed
    rw [hnone] at hending
    exact absurd hending Bool.false_ne_true
  | finish incoming hclosed hqueued hin hended => exact h.finish hclosed hqueued hin hended
  | receive => exact h.receive haccepts

end Consistent

/-- What the receiver accepts before a step is among what it accepts after it. -/
theorem Step.accepts {link next : Link τ σ} (h : Step link next) (haccepts : next.Accepts) :
    link.Accepts := by
  intro packet hmem hencodes
  cases h with
  | send => exact haccepts packet (List.mem_append_left _ hmem) hencodes
  | close => exact haccepts packet hmem hencodes
  | cut => exact haccepts packet hmem hencodes
  | carry => exact haccepts packet hmem hencodes
  | lapse => exact haccepts packet hmem hencodes
  | finish => exact haccepts packet hmem hencodes
  | receive =>
    rw [← link.receiver.receive_options link.incoming]
    exact haccepts packet hmem hencodes

/-- So does a whole run. -/
theorem consistent_of_run {start link : Link τ σ} (hnew : start.IsNew)
    (hrun : Relation.ReflTransGen Step start link) (haccepts : link.Accepts) :
    link.Consistent := by
  induction hrun with
  | refl => exact hnew.consistent
  | tail _ hstep ih =>
    have hbefore := hstep.accepts haccepts
    exact (ih hbefore).step hstep hbefore

/-! ### What the receiver is told -/

section Told

omit [ByteStream τ] [OrderedSink τ] [ClosingSink τ] [ByteStream σ] [OrderedSource σ]

theorem filterMap_map_ok (packets : List Packet) :
    (packets.map (.ok : Packet → Except ProtocolError Packet)).filterMap Except.toOption =
      packets := by
  rw [List.filterMap_map]
  exact List.filterMap_some

theorem filterMap_answers (link : Link τ σ) :
    link.answers.filterMap Except.toOption = link.packets := by
  unfold answers packets
  rw [List.filterMap_filter]
  refine congrArg (link.results.filterMap ·) (funext fun result ↦ ?_)
  match result with
  | .ok packet => rfl
  | .error failure => cases failure <;> rfl

theorem packets_append {link : Link τ σ} {queue : List Packet}
    (h : link.answers ++ queue.map .ok = link.expected.map .ok) :
    link.packets ++ queue = link.expected := by
  have hpackets := congrArg (List.filterMap Except.toOption) h
  rwa [List.filterMap_append, filterMap_map_ok, filterMap_map_ok, filterMap_answers] at hpackets

/-- No packet is told of behind what is due. -/
theorem packets_of_told {link : Link τ σ} {count : Nat}
    (h : link.answers = link.due ++ List.replicate count (.error .connectionClosed)) :
    link.packets = link.expected := by
  have hclosed : List.filterMap Except.toOption (List.replicate count
      (.error .connectionClosed : Except ProtocolError Packet)) = [] :=
    List.filterMap_replicate_of_none rfl
  rw [← filterMap_answers, h, due, List.filterMap_append, List.filterMap_append, filterMap_map_ok,
    hclosed, List.append_nil]
  split_ifs
  · exact List.append_nil _
  · exact List.append_nil _

theorem eq_getD_due {link : Link τ σ} {count : Nat} {told : List (Except ProtocolError Packet)}
    {result : Except ProtocolError Packet}
    (h : told ++ [result] <+: link.due ++ List.replicate count (.error .connectionClosed)) :
    result = link.due[told.length]?.getD (.error .connectionClosed) := by
  obtain ⟨others, hall⟩ := h
  have hresult : (link.due ++ List.replicate count (.error .connectionClosed))[told.length]? =
      some result := by
    rw [← hall, List.append_assoc, List.getElem?_append_right (Nat.le_refl _), Nat.sub_self]
    rfl
  by_cases hlength : told.length < link.due.length
  · rw [List.getElem?_append_left hlength] at hresult
    rw [hresult]
    rfl
  · rw [List.getElem?_append_right (Nat.le_of_not_lt hlength)] at hresult
    rw [List.getElem?_eq_none (Nat.le_of_not_lt hlength)]
    exact List.eq_of_mem_replicate (List.mem_of_getElem? hresult)

end Told

namespace Consistent

variable {link : Link τ σ} (h : link.Consistent)
include h

/-- None is lost between two others, none comes twice, and none comes before its turn. -/
theorem prefix_packets : link.packets <+: link.expected := by
  cases h.standing with
  | @isOpen _ queue _ _ _ hanswers => exact ⟨queue, packets_append hanswers⟩
  | isOver _ _ _ _ _ hanswers =>
    exact ⟨[], (List.append_nil _).trans (packets_of_told hanswers)⟩

/-- The answers come in the order in which they are due, and behind them only the report of the
end. -/
theorem prefix_answers : ∃ count, (link.ending = none → count = 0) ∧
    link.answers <+: link.due ++ List.replicate count (.error .connectionClosed) := by
  cases h.standing with
  | @isOpen _ queue _ _ _ hanswers =>
    refine ⟨0, fun _ ↦ rfl, ?_⟩
    rw [List.replicate_zero, List.append_nil, due, ← hanswers, List.append_assoc]
    exact List.prefix_append _ _
  | isOver count _ _ _ hended hanswers =>
    exact ⟨count, fun hending ↦ absurd hended (h.not_ended hending), hanswers ▸ List.prefix_rfl⟩

/-- The end is reported to a receiver that has got every packet. -/
theorem packets_of_closed (hclosed : .error .connectionClosed ∈ link.results) :
    link.packets = link.expected := by
  have hmem : .error .connectionClosed ∈ link.answers := List.mem_filter.mpr ⟨hclosed, rfl⟩
  cases h.standing with
  | @isOpen _ queue _ _ _ hanswers =>
    have hpart := List.mem_append_left (queue.map .ok) hmem
    rw [hanswers] at hpart
    obtain ⟨_, _, hok⟩ := List.mem_map.mp hpart
    cases hok
  | isOver _ _ _ _ _ hanswers => exact packets_of_told hanswers

/-- With nothing under way, a receive does not time out if there is something to tell. -/
theorem isTimeout_receive (haccepts : link.Accepts) (hqueued : queued link.outgoing.stream = [])
    (hpending : pending link.incoming.stream = [])
    (hmore : ended link.incoming.stream = true ∨ link.answers.length < link.expected.length) :
    isTimeout (link.receiver.receive link.incoming).1 = false := by
  cases h.standing with
  | isOver _ hinput hmode _ hended _ =>
    rw [(Connection.receive_of_inputEnded hinput hmode hpending hended).1]
    rfl
  | @isOpen bytes queue hopen hholds hstream hanswers =>
    obtain ⟨outcome, hresult, taken, htaken, hended, hreceived⟩ :=
      Connection.receive_spec hopen link.incoming
    obtain ⟨rfl, hnone⟩ := List.append_eq_nil_iff.mp (htaken.trans hpending)
    rw [hpending, hqueued, List.append_nil, List.append_nil] at hstream
    rw [hresult]
    unfold Connection.ReceivedBy at hreceived
    rw [List.append_nil, hstream] at hreceived
    generalize (link.receiver.receive link.incoming).2.1.inbox = inbox,
      (link.receiver.receive link.incoming).2.1.inputEnded = input,
      (link.receiver.receive link.incoming).2.1.mode = mode at hreceived
    cases hreceived with
    | expired hwaits hopen =>
      obtain ⟨-, rfl⟩ := hholds.eq_nil_of_waiting hwaits
      obtain hover | hless := hmore
      · exact absurd ⟨hnone, hended.trans hover⟩ hopen
      · have hlength := congrArg List.length hanswers
        simp only [List.map_nil, List.append_nil, List.length_map] at hlength
        omega
    | packet => rfl
    | @failed failure rest hstep =>
      obtain ⟨_, _, hfirst, -⟩ := hholds.of_ofVerdict h.tail
        (check_of_mem_queue haccepts hanswers) (.error failure) (List.append_nil _) hstep
      cases hfirst
    | closed => rfl
    | cut => rfl

/-- With nothing under way, the next receive gives the next answer that is due, and the report of
the end behind the last. -/
theorem receive_next (haccepts : link.Accepts) (hqueued : queued link.outgoing.stream = [])
    (hpending : pending link.incoming.stream = [])
    (hmore : ended link.incoming.stream = true ∨ link.answers.length < link.expected.length) :
    (link.receiver.receive link.incoming).1 =
      link.due[link.answers.length]?.getD (.error .connectionClosed) := by
  obtain ⟨count, -, hprefix⟩ := (h.receive haccepts).prefix_answers
  have hadded : link.receive.answers = _ := link.answers_append _
  rw [h.isTimeout_receive haccepts hqueued hpending hmore, if_neg Bool.false_ne_true] at hadded
  rw [hadded] at hprefix
  exact eq_getD_due hprefix

/-- Once the sender has closed, the end has arrived and every packet was received, every further
receive reports the end. -/
theorem receive_closed (haccepts : link.Accepts) (hending : link.ending = some [])
    (hended : ended link.incoming.stream = true) (hall : link.packets = link.expected) :
    (link.receiver.receive link.incoming).1 = .error .connectionClosed := by
  cases h.standing with
  | isOver _ hinput hmode hpending _ _ =>
    exact (Connection.receive_of_inputEnded hinput hmode hpending hended).1
  | @isOpen bytes queue _ hholds hstream hanswers =>
    have htail : link.tail = [] := by rw [Link.tail, hending, Option.getD_some]
    have hqueue : queue = [] := by
      have hpackets := packets_append hanswers
      rw [hall] at hpackets
      exact List.self_eq_append_right.mp hpackets.symm
    subst hqueue
    rw [hholds.eq_nil_iff.mpr rfl, htail, List.append_nil, List.append_eq_nil_iff,
      List.append_eq_nil_iff] at hstream
    rw [List.map_nil, List.append_nil, ← link.due_of_tail_eq_nil htail] at hanswers
    rw [h.receive_next haccepts hstream.2.2 hstream.2.1 (.inl hended), hanswers,
      List.getElem?_eq_none (Nat.le_refl _)]
    rfl

end Consistent

/-- However the octets are cut and joined on their way, whatever the sizes and limits, and however
many receives time out, at every time:
the packets received are the first of those that were sent and could be encoded, in canonical form;
the receiver was told of them in order, then of a frame that was begun and not ended if there is
one, and then only of the end, of which it is not told while the sender is there;
the end is told after every packet;
if nothing is under way, the next receive tells what is next, and the end once that has arrived;
after a sender that has closed and a receiver that has got everything, it tells the end;
and a close that succeeds has closed the stream, so the end is only waited for until that
arrives. -/
theorem delivery_of_run {start link : Link τ σ} (hnew : start.IsNew)
    (hrun : Relation.ReflTransGen Step start link) (haccepts : link.Accepts) :
    link.packets <+: link.expected ∧
      (∃ count, (link.ending = none → count = 0) ∧
        link.answers <+: link.due ++ List.replicate count (.error .connectionClosed)) ∧
      (.error .connectionClosed ∈ link.results → link.packets = link.expected) ∧
      (queued link.outgoing.stream = [] → pending link.incoming.stream = [] →
        ended link.incoming.stream = true ∨ link.answers.length < link.expected.length →
        (link.receiver.receive link.incoming).1 =
          link.due[link.answers.length]?.getD (.error .connectionClosed)) ∧
      (link.ending = some [] → ended link.incoming.stream = true →
        link.packets = link.expected →
        (link.receiver.receive link.incoming).1 = .error .connectionClosed) ∧
      (link.closing = some (.done (.ok ())) →
        (closed link.outgoing.stream = true → ended link.incoming.stream = true) →
        link.packets = link.expected →
        (link.receiver.receive link.incoming).1 = .error .connectionClosed) := by
  have h := consistent_of_run hnew hrun haccepts
  refine ⟨h.prefix_packets, h.prefix_answers, h.packets_of_closed, h.receive_next haccepts,
    h.receive_closed haccepts, fun hclosing harrives hall ↦ ?_⟩
  obtain ⟨hending, hclosed⟩ := h.closing hclosing
  exact h.receive_closed haccepts hending (harrives hclosed) hall

/-- An end that has `content` to read, and later perhaps more. -/
def holding (content : Bytes) : Pipe.End :=
  ⟨⟨{ capacity := 64 }, { capacity := 64, content }⟩, .a⟩

/-- An end that has written `content`, and later perhaps more. -/
def offering (content : Bytes) : Pipe.End :=
  ⟨⟨{ capacity := 64, content }, { capacity := 64 }⟩, .a⟩

/-- Two connections with the usual settings over the given streams. -/
def between (outgoing incoming : Pipe.End) : Link Pipe.End Pipe.End where
  sender := {}
  outgoing := { stream := outgoing }
  receiver := {}
  incoming := { stream := incoming }

theorem send_offering :
    let sending := Connection.send {} (.ok [104, 105]) { stream := offering [] }
    sending.1 = .ok () ∧ sending.2.1.outbox = [] ∧
      queued sending.2.2.stream = [0, 3, 1, 1, 104, 105] :=
  ⟨by cbv, by cbv, by cbv⟩

theorem close_offering {connection : Connection} (h : connection.outbox = []) :
    (connection.close 0 { stream := offering [] }).1 = .done (.ok ()) := by
  unfold Connection.close
  rw [h]
  cbv

theorem receive_first_part :
    let received := Connection.receive {} { stream := holding [0, 3, 1, 1] }
    received.1 = .error .timeout ∧ received.2.1 = { inbox := [0, 3, 1, 1] } ∧
      received.2.2.stream = holding [] := by
  have hreception (deadline : Nat) :
      Connection.receiveFrom deadline {} 0 (holding [0, 3, 1, 1]) =
        ⟨.expired, { inbox := [0, 3, 1, 1] }, deadline, holding []⟩ := by
    rw [Connection.receiveFrom, Connection.gather]
    exact Connection.gather.eq_1 deadline { inbox := [0, 3, 1, 1] } 0 (holding [])
  have hreceived := Connection.receive_eq {} { stream := holding [0, 3, 1, 1] }
  rwa [hreception] at hreceived

theorem receive_second_part :
    let received := Connection.receive { inbox := [0, 3, 1, 1] }
      { stream := holding [104, 105] }
    received.1 = .ok (.ok [104, 105]) ∧ received.2.1 = { mode := .ready } ∧
      received.2.2.stream = holding [] := by
  have hreception (deadline : Nat) :
      Connection.receiveFrom deadline { inbox := [0, 3, 1, 1] } 0
        (holding [104, 105]) =
        ⟨.done (.ok (.ok [104, 105])), { mode := .ready }, 0, holding []⟩ := by
    rw [Connection.receiveFrom, Connection.gather]
    rfl
  have hreceived := Connection.receive_eq { inbox := [0, 3, 1, 1] }
    { stream := holding [104, 105] }
  rwa [hreception] at hreceived

/-- A packet that arrives in two parts, with a receive that times out in between. -/
theorem delivery_of_run_split_frame :
    ∃ start link : Link Pipe.End Pipe.End, start.IsNew ∧
      Relation.ReflTransGen Step start link ∧ link.sent = [.ok [104, 105]] ∧
      link.ending = some [] ∧ link.closing = some (.done (.ok ())) ∧
      closed link.outgoing.stream = true ∧ ended link.incoming.stream = true ∧
      link.results = [.error .timeout, .ok (.ok [104, 105])] ∧
      (link.receiver.receive link.incoming).1 = .error .connectionClosed := by
  obtain ⟨htimeout, hinbox, hread⟩ := receive_first_part
  have hsecond := receive_second_part
  rw [← hinbox] at hsecond
  obtain ⟨hpacket, hready, hleft⟩ := hsecond
  obtain ⟨hdone, houtbox, hqueued⟩ := send_offering
  have hopen := Connection.closed_send {} (.ok [104, 105]) { stream := offering [] }
  have hclose := close_offering houtbox
  have hclosed := Connection.closed_close hclose
  have hnew : IsNew (between (offering []) (holding [])) :=
    ⟨rfl, rfl, rfl, rfl, rfl, rfl, rfl, rfl, rfl, rfl, rfl, rfl⟩
  have hsent : Relation.ReflTransGen Step (between (offering []) (holding [])) _ :=
    .single (.send (.ok [104, 105]) rfl fun failure hfailed ↦ by cases hfailed.symm.trans hdone)
  have hcut := hsent.tail (.carry [0, 3, 1, 1] { stream := offering [104, 105] }
    { stream := holding [0, 3, 1, 1] } hqueued rfl rfl hopen.symm)
  have hrest := (hcut.tail .receive).tail (.carry [104, 105] { stream := offering [] }
    { stream := holding [104, 105] } rfl (congrArg (pending · ++ _) hread).symm
      (congrArg ended hread).symm rfl)
  have hover := (hrest.tail .receive).tail (.close 0 rfl)
  have hrun := hover.tail (.finish { stream := .toward 64 [] } hclosed
    (Connection.queued_close houtbox _ _) (congrArg pending hleft).symm rfl)
  have hresults : _ = _ := congrArg₂ (fun first second ↦ [first, second]) htimeout hpacket
  have hanswer : _ = _ := congrArg some hclose
  refine ⟨_, _, hnew, hrun, rfl, rfl, hanswer, hclosed, rfl, hresults,
    (delivery_of_run hnew hrun fun packet hmem _ ↦ ?_).2.2.2.2.2 hanswer (fun _ ↦ rfl) ?_⟩
  · cases List.mem_singleton.mp hmem
    exact congrArg (·.options.versions.accepts 1) hready
  · exact congrArg (List.filterMap Except.toOption) hresults

end Link

end PeerLink
