import PeerLink.Proofs.Link.OrderedStream
import Mathlib

/-!
What a connection hands to its stream is frame after frame, whatever becomes of the single sends.
The outbox keeps what the stream has not accepted, and the next send goes on from there: what was
accepted and what waits in the outbox are together the wire forms of the packets that were put into
the outbox (`Sender.Framed`). A send is refused or stopped before its packet gets there, stopped
behind that, or finished (`Connection.Sends`); none of these leaves half a frame to be followed by
another (`Sender.accepted_of_run`).
-/

set_option autoImplicit false
set_option relaxedAutoImplicit false

namespace PeerLink

open OrderedSink (queued)

/-! ### Streams that accept what they say -/

/-- A sink of which a write that fails or is given up has accepted nothing. -/
class ExactSink (τ : Type) [ByteStream τ] [OrderedSink τ] : Prop where
  queued_of_unwritten : ∀ {bytes : Bytes} {now deadline : Nat} {stream : τ},
    (∀ count, (ByteStream.write bytes now deadline stream).outcome ≠ .done (.ok count)) →
      queued (ByteStream.write bytes now deadline stream).stream = queued stream

instance : ExactSink Pipe.End where
  queued_of_unwritten {bytes now deadline pipe} h := by
    change ∀ count, (Pipe.End.write bytes now deadline pipe).outcome ≠ .done (.ok count) at h
    change queued (Pipe.End.write bytes now deadline pipe).stream = queued pipe
    unfold Pipe.End.write at h ⊢
    dsimp only at h ⊢
    split_ifs with hclosed
    · rfl
    · split
      · rfl
      · rename_i count channel hput
        rw [if_neg hclosed, hput] at h
        exact absurd rfl (h count)

instance : ExactSink Script.Stream where
  queued_of_unwritten {bytes now deadline stream} h := by
    change ∀ count, (stream.write bytes now deadline).outcome ≠ .done (.ok count) at h
    change (stream.write bytes now deadline).stream.accepted = stream.accepted
    unfold Script.Stream.write at h ⊢
    split at h
    · rfl
    · exact absurd rfl (h _)
    · rfl
    · exact absurd rfl (h _)

section Sending

variable {τ : Type} [ByteStream τ] [OrderedSink τ] [ExactSink τ]

theorem ExactSink.exists_taken_of_unwritten {bytes left : Bytes} {now deadline : Nat} {stream : τ}
    (h : ∀ count, (ByteStream.write bytes now deadline stream).outcome ≠ .done (.ok count)) :
    ∃ taken, queued (ByteStream.write bytes now deadline stream).stream = queued stream ++ taken ∧
      taken ++ left = left :=
  ⟨[], (queued_of_unwritten h).trans (List.append_nil _).symm, rfl⟩

/-- However a drain ends, what the stream has accepted and what is left are what there was. -/
theorem ByteStream.drain_accepts (stuck : TransportFault) (deadline : Nat) (bytes : Bytes)
    (now : Nat) (stream : τ) :
    ∃ taken, queued (drain stuck deadline bytes now stream).stream = queued stream ++ taken ∧
      taken ++ (drain stuck deadline bytes now stream).left = bytes := by
  fun_induction drain stuck deadline bytes now stream with
  | case1 => exact ⟨[], (List.append_nil _).symm, rfl⟩
  | case2 now stream octet octets writing hexpired =>
    exact ExactSink.exists_taken_of_unwritten fun _ ↦ Attempt.ne_done_of_expired hexpired _
  | case3 now stream octet octets writing fault hfault =>
    exact ExactSink.exists_taken_of_unwritten (Attempt.ne_ok_of_error hfault)
  | case4 now stream octet octets writing hnone => exact ⟨[], OrderedSink.queued_write hnone, rfl⟩
  | case5 now stream octet octets writing count hcount ih =>
    obtain ⟨taken, hqueued, hleft⟩ := ih
    refine ⟨(octet :: octets).take (count + 1) ++ taken, ?_, ?_⟩
    · rw [hqueued, OrderedSink.queued_write hcount, List.append_assoc]
    · rw [List.append_assoc, hleft]
      exact List.take_append_drop (count + 1) (octet :: octets)

namespace Connection

theorem emptyOutbox_accepts (deadline : Nat) (outbox : Bytes) (now : Nat) (stream : τ) :
    ∃ taken, queued (emptyOutbox deadline outbox now stream).stream = queued stream ++ taken ∧
      taken ++ (emptyOutbox deadline outbox now stream).left = outbox := by
  obtain ⟨taken, hqueued, hleft⟩ :=
    ByteStream.drain_accepts frameNotWritten deadline outbox now stream
  unfold emptyOutbox ByteStream.drainAndFlush
  dsimp only
  split
  · exact ⟨taken, (OrderedSink.queued_flush _ _ _).trans hqueued, hleft⟩
  · exact ⟨taken, hqueued, hleft⟩

/-! ### One send -/

/-- What a send comes to, by what the outbox held before: its result, what the stream has accepted
on the way, and what the outbox holds afterwards. -/
inductive Sends (packet : Packet) (outbox : Bytes) :
    Except ProtocolError Unit → Bytes → Bytes → Prop where
  /-- The encoder refused the packet, or the stream gave trouble while room was made for it. -/
  | kept {failure : ProtocolError} {taken left : Bytes} :
    packet.encode = .error failure ∨ failure.category = .transport →
    taken ++ left = outbox → Sends packet outbox (.error failure) taken left
  /-- The stream gave trouble after the packet had been put into the outbox. -/
  | begun {failure : ProtocolError} {taken left : Bytes} : packet.encode.isOk →
    failure.category = .transport → taken ++ left = outbox ++ packet.wire →
    Sends packet outbox (.error failure) taken left
  | finished : packet.encode.isOk → Sends packet outbox (.ok ()) (outbox ++ packet.wire) []

theorem Sends.of_emptied {packet : Packet} {result : Except ProtocolError Unit}
    {taken left : Bytes} (h : Sends packet [] result taken left) (outbox : Bytes) :
    Sends packet outbox result (outbox ++ taken) left := by
  cases h with
  | kept hcause hleft =>
    refine .kept hcause ?_
    rw [List.append_assoc, hleft, List.append_nil]
  | begun hencodes hcategory hleft =>
    refine .begun hencodes hcategory ?_
    rw [List.append_assoc, hleft, List.nil_append]
  | finished hencodes => exact .finished hencodes

theorem push_sends (deadline : Nat) (packet : Packet) (outbox : Bytes) (now : Nat) (stream : τ) :
    let dispatch := push deadline packet outbox now stream
    ∃ taken, queued dispatch.stream = queued stream ++ taken ∧
      Sends packet outbox dispatch.outcome.orTimeout taken dispatch.outbox := by
  unfold push Packet.appendTo
  cases hencode : packet.encode with
  | error failure => exact ⟨[], (List.append_nil _).symm, .kept (.inl hencode) rfl⟩
  | ok wire =>
    have hencodes : packet.encode.isOk := by rw [hencode]; rfl
    obtain rfl : packet.wire = wire := Packet.wire_of_encode hencode
    dsimp only [Except.map]
    obtain ⟨taken, hqueued, hleft⟩ :=
      emptyOutbox_accepts deadline (outbox ++ packet.wire) now stream
    refine ⟨taken, hqueued, ?_⟩
    obtain hdone | ⟨failure, hfailed, hcategory⟩ :=
      Dispatch.ofDrain_cases (emptyOutbox deadline (outbox ++ packet.wire) now stream)
    · have hnone := (emptyOutbox_of_ok hdone).1
      rw [hnone, List.append_nil] at hleft
      have hresult : (Dispatch.ofDrain
          (emptyOutbox deadline (outbox ++ packet.wire) now stream)).outcome.orTimeout = .ok () :=
        congrArg (fun outcome ↦ (Attempt.map _ outcome).orTimeout) hdone
      rw [hresult, hleft, show (Dispatch.ofDrain _).outbox = [] from hnone]
      exact .finished hencodes
    · rw [hfailed]
      exact .begun hencodes hcategory hleft

theorem sendTo_sends (deadline : Nat) (connection : Connection) (packet : Packet) (now : Nat)
    (stream : τ) :
    let dispatch := sendTo deadline connection packet now stream
    ∃ taken, queued dispatch.stream = queued stream ++ taken ∧
      Sends packet connection.outbox dispatch.outcome.orTimeout taken dispatch.outbox := by
  unfold sendTo
  split_ifs with hfull
  · obtain ⟨taken, hqueued, hleft⟩ :=
      emptyOutbox_accepts deadline connection.outbox now stream
    dsimp only
    split
    · rename_i hdone
      have hnone := (emptyOutbox_of_ok hdone).1
      rw [hnone, List.append_nil] at hleft
      rw [hnone]
      obtain ⟨others, hothers, hsends⟩ := push_sends deadline packet []
        (emptyOutbox deadline connection.outbox now stream).now
        (emptyOutbox deadline connection.outbox now stream).stream
      refine ⟨connection.outbox ++ others, ?_, hsends.of_emptied connection.outbox⟩
      rw [hothers, hqueued, hleft, List.append_assoc]
    · rename_i hnot
      obtain hdone | ⟨failure, hfailed, hcategory⟩ :=
        Dispatch.ofDrain_cases (emptyOutbox deadline connection.outbox now stream)
      · exact absurd hdone hnot
      · refine ⟨taken, hqueued, ?_⟩
        rw [hfailed]
        exact .kept (.inr hcategory) hleft
  · exact push_sends deadline packet connection.outbox now stream

theorem send_sends (connection : Connection) (packet : Packet) (scene : Scene τ) :
    let sending := connection.send packet scene
    ∃ taken, queued sending.2.2.stream = queued scene.stream ++ taken ∧
      Sends packet connection.outbox sending.1 taken sending.2.1.outbox := by
  intro sending
  obtain ⟨hresult, hconnection, hstream⟩ := send_eq connection packet scene
  rw [hresult, hconnection, hstream]
  exact sendTo_sends _ connection packet _ _

end Connection

end Sending

/-! ### Send after send -/

/-- A send that is over: its packet, its result, and all that the stream had accepted by then. -/
structure Sending where
  packet : Packet
  result : Except ProtocolError Unit
  accepted : Bytes

namespace Sending

/-- The encoder refused the packet. -/
def isRefused (sending : Sending) : Bool :=
  match sending.result with
  | .error (.missingVector _) | .error (.oversizedPacket _) => true
  | _ => false

theorem isRefused_of_transport {packet : Packet} {failure : ProtocolError} {accepted : Bytes}
    (h : failure.category = .transport) :
    isRefused ⟨packet, .error failure, accepted⟩ = false := by
  unfold isRefused
  split
  · rename_i hresult
    cases hresult
    cases h
  · rename_i hresult
    cases hresult
    cases h
  · rfl

/-- The wire forms of packets, one behind the other. -/
def wires (sendings : List Sending) : Bytes := sendings.flatMap fun sending ↦ sending.packet.wire

theorem wires_append (first second : List Sending) :
    wires (first ++ second) = wires first ++ wires second := List.flatMap_append

theorem wires_singleton (sending : Sending) : wires [sending] = sending.packet.wire :=
  List.flatMap_singleton _ _

end Sending

/-- A connection and the stream that it sends over, with the record of its sends. -/
structure Sender (τ : Type) where
  connection : Connection
  scene : Scene τ
  /-- What the stream has accepted and carried away. -/
  carried : Bytes := []
  record : List Sending := []

namespace Sender

variable {τ : Type} [ByteStream τ] [OrderedSink τ]

/-- All that the stream has accepted. -/
def accepted (sender : Sender τ) : Bytes := sender.carried ++ queued sender.scene.stream

/-- A new connection, with any options, sizes and limits, over a stream that carried nothing. -/
structure IsNew (sender : Sender τ) : Prop where
  outbox : sender.connection.outbox = []
  accepted : sender.accepted = []
  record : sender.record = []

def send (packet : Packet) (sender : Sender τ) : Sender τ :=
  let sending := sender.connection.send packet sender.scene
  { sender with
    connection := sending.2.1
    scene := sending.2.2
    record := sender.record ++
      [⟨packet, sending.1, sender.carried ++ queued sending.2.2.stream⟩] }

/-- What can happen to a sender. Between two sends the stream may carry octets away, time may pass,
and all of the connection but its outbox may change. -/
inductive Step : Sender τ → Sender τ → Prop where
  | send {sender : Sender τ} (packet : Packet) : Step sender (sender.send packet)
  | elapse {sender : Sender τ} (moved : Bytes) (connection : Connection) (scene : Scene τ) :
    connection.outbox = sender.connection.outbox →
    queued sender.scene.stream = moved ++ queued scene.stream →
    Step sender { sender with connection, scene, carried := sender.carried ++ moved }

variable {sender : Sender τ} {selection : List Sending}

/-- Octets that were accepted stay the first of all that were. -/
def Grown (sender : Sender τ) : Prop :=
  ∀ sending ∈ sender.record, sending.accepted <+: sender.accepted

/-- The packets of `selection` are those that were put into the outbox: what the stream has
accepted, and behind it what the outbox holds, are their wire forms. -/
structure Framed (sender : Sender τ) (selection : List Sending) : Prop where
  octets : sender.accepted ++ sender.connection.outbox = Sending.wires selection
  selected : selection.Sublist sender.record
  done : (sender.record.filter fun sending ↦ sending.result.isOk).Sublist selection
  encodes : ∀ sending ∈ selection, sending.packet.encode.isOk ∧ sending.isRefused = false
  settled : ∀ sending ∈ sender.record, sending.result = .ok () →
    ∃ earlier later, selection = earlier ++ sending :: later ∧
      sending.accepted = Sending.wires (earlier ++ [sending])

theorem IsNew.framed (h : sender.IsNew) : sender.Framed [] where
  octets := by rw [h.accepted, h.outbox]; rfl
  selected := List.nil_sublist _
  done := by rw [h.record]; exact List.Sublist.refl _
  encodes sending hsending := absurd hsending List.not_mem_nil
  settled sending hsending := absurd (h.record ▸ hsending) List.not_mem_nil

theorem IsNew.grown (h : sender.IsNew) : sender.Grown :=
  fun _ hsending ↦ absurd (h.record ▸ hsending) List.not_mem_nil

section Extended

variable {next : Sender τ} {packet : Packet} {result : Except ProtocolError Unit}
  (hrecord : next.record = sender.record ++ [⟨packet, result, next.accepted⟩])
include hrecord

theorem Grown.extend (h : sender.Grown) (hgrows : sender.accepted <+: next.accepted) :
    next.Grown := by
  intro sending hsending
  rw [hrecord, List.mem_append, List.mem_singleton] at hsending
  obtain hold | rfl := hsending
  · exact (h sending hold).trans hgrows
  · exact List.prefix_rfl

/-- A send that did not get its packet into the outbox. -/
theorem Framed.keep (h : sender.Framed selection) (hfailed : result.isOk = false)
    (hoctets : next.accepted ++ next.connection.outbox =
      sender.accepted ++ sender.connection.outbox) : next.Framed selection where
  octets := hoctets.trans h.octets
  selected := by
    rw [hrecord]
    exact h.selected.trans (List.sublist_append_left _ _)
  done := by
    rw [hrecord, List.filter_append, List.filter_cons_of_neg (by simp [hfailed]), List.filter_nil,
      List.append_nil]
    exact h.done
  encodes := h.encodes
  settled sending hsending hok := by
    rw [hrecord, List.mem_append, List.mem_singleton] at hsending
    obtain hold | rfl := hsending
    · exact h.settled sending hold hok
    · obtain rfl : result = .ok () := hok
      cases hfailed

/-- A send that did. -/
theorem Framed.add (h : sender.Framed selection) (hencodes : packet.encode.isOk)
    (hresult : Sending.isRefused ⟨packet, result, next.accepted⟩ = false)
    (hoctets : next.accepted ++ next.connection.outbox =
      sender.accepted ++ sender.connection.outbox ++ packet.wire)
    (hfinished : result = .ok () → next.connection.outbox = []) :
    next.Framed (selection ++ [⟨packet, result, next.accepted⟩]) := by
  have hwires : next.accepted ++ next.connection.outbox =
      Sending.wires (selection ++ [⟨packet, result, next.accepted⟩]) := by
    rw [Sending.wires_append, Sending.wires_singleton, hoctets, h.octets]
  refine ⟨hwires, ?_, ?_, fun sending hsending ↦ ?_, fun sending hsending hok ↦ ?_⟩
  · rw [hrecord]
    exact h.selected.append (List.Sublist.refl _)
  · rw [hrecord, List.filter_append]
    exact h.done.append List.filter_sublist
  · rw [List.mem_append, List.mem_singleton] at hsending
    obtain hold | rfl := hsending
    · exact h.encodes sending hold
    · exact ⟨hencodes, hresult⟩
  · rw [hrecord, List.mem_append, List.mem_singleton] at hsending
    obtain hold | rfl := hsending
    · obtain ⟨earlier, later, rfl, hsettled⟩ := h.settled sending hold hok
      exact ⟨earlier, later ++ [⟨packet, result, next.accepted⟩], by simp, hsettled⟩
    · rw [hfinished hok, List.append_nil] at hwires
      exact ⟨selection, [], rfl, hwires⟩

end Extended

variable [ExactSink τ]

theorem accepted_send (sender : Sender τ) (packet : Packet) :
    ∃ taken, (sender.send packet).accepted = sender.accepted ++ taken ∧
      Connection.Sends packet sender.connection.outbox
        (sender.connection.send packet sender.scene).1 taken
        (sender.send packet).connection.outbox := by
  obtain ⟨taken, hqueued, hsends⟩ := sender.connection.send_sends packet sender.scene
  refine ⟨taken, ?_, hsends⟩
  unfold accepted send
  rw [hqueued, List.append_assoc]

/-- One step keeps whole frames whole, and only adds to what was accepted. -/
theorem Framed.step {next : Sender τ} (hstep : Step sender next) (h : sender.Framed selection)
    (hgrown : sender.Grown) : (∃ selection, next.Framed selection) ∧ next.Grown := by
  cases hstep with
  | elapse moved connection scene houtbox hqueued =>
    have haccepted : accepted { sender with
        connection, scene, carried := sender.carried ++ moved } = sender.accepted := by
      unfold accepted
      rw [hqueued, List.append_assoc]
    refine ⟨⟨selection, ?_, h.selected, h.done, h.encodes, h.settled⟩, ?_⟩
    · rw [haccepted, ← h.octets]
      exact congrArg _ houtbox
    · intro sending hsending
      rw [haccepted]
      exact hgrown sending hsending
  | send packet =>
    obtain ⟨taken, haccepted, hsends⟩ := sender.accepted_send packet
    have hrecord : (sender.send packet).record = sender.record ++ [⟨packet,
        (sender.connection.send packet sender.scene).1, (sender.send packet).accepted⟩] := rfl
    have hgrows : sender.accepted <+: (sender.send packet).accepted :=
      ⟨taken, haccepted.symm⟩
    refine ⟨?_, hgrown.extend hrecord hgrows⟩
    generalize (sender.connection.send packet sender.scene).1 = result,
      houtbox : (sender.send packet).connection.outbox = outbox at hsends hrecord
    cases hsends with
    | kept _ hleft =>
      refine ⟨_, h.keep hrecord rfl ?_⟩
      rw [haccepted, houtbox, List.append_assoc, hleft]
    | begun hencodes hcategory hleft =>
      refine ⟨_, h.add hrecord hencodes (Sending.isRefused_of_transport hcategory) ?_ nofun⟩
      rw [haccepted, houtbox, List.append_assoc, hleft, List.append_assoc]
    | finished hencodes =>
      refine ⟨_, h.add hrecord hencodes rfl ?_ fun _ ↦ houtbox⟩
      rw [haccepted, houtbox, List.append_nil, List.append_assoc]

/-- So does a whole run. -/
theorem framed_of_run {start : Sender τ} (hnew : start.IsNew)
    (hrun : Relation.ReflTransGen Step start sender) :
    (∃ selection, sender.Framed selection) ∧ sender.Grown := by
  induction hrun with
  | refl => exact ⟨⟨[], hnew.framed⟩, hnew.grown⟩
  | tail _ hstep ih =>
    obtain ⟨⟨selection, hframed⟩, hgrown⟩ := ih
    exact hframed.step hstep hgrown

/-- Whatever sends are stopped or refused, and however little of the outbox a write accepts, there is
at every time a selection of the packets sent, in their order: those whose send succeeded are in
it, those that the encoder refused are not. What the stream has accepted is the beginning of their
wire forms, one behind the other, and the outbox holds the rest. The stream has only ever added to
what it had accepted, so this holds in the midst of a send too, and when a send succeeded, it had
accepted everything up to the end of that packet. -/
theorem accepted_of_run {start : Sender τ} (hnew : start.IsNew)
    (hrun : Relation.ReflTransGen Step start sender) :
    ∃ selection : List Sending,
      selection.Sublist sender.record ∧
      (sender.record.filter fun sending ↦ sending.result.isOk).Sublist selection ∧
      (∀ sending ∈ selection, sending.packet.encode.isOk ∧ sending.isRefused = false) ∧
      sender.accepted ++ sender.connection.outbox = Sending.wires selection ∧
      (∀ sending ∈ sender.record, sending.accepted <+: sender.accepted) ∧
      ∀ sending ∈ sender.record, sending.result = .ok () →
        ∃ earlier later, selection = earlier ++ sending :: later ∧
          sending.accepted = Sending.wires (earlier ++ [sending]) := by
  obtain ⟨⟨selection, h⟩, hgrown⟩ := framed_of_run hnew hrun
  exact ⟨selection, h.selected, h.done, h.encodes, h.octets, hgrown, h.settled⟩

omit [ExactSink τ] in
/-- A send, and then a scene with the same stream at the same time. -/
theorem run_of_sendTo {connection : Connection} {packet : Packet} {now later : Nat}
    {stream left : τ} {outcome : Attempt (Except ProtocolError Unit)} {outbox : Bytes}
    (carried : Bytes) (record : List Sending)
    (h : connection.sendTo (now + connection.sendLimit.ticks) packet now stream =
      ⟨outcome, outbox, later, left⟩) :
    Relation.ReflTransGen Step ⟨connection, { now, stream }, carried, record⟩
      ⟨{ connection with outbox }, { now := later, stream := left }, carried ++ [],
        record ++ [⟨packet, outcome.orTimeout, carried ++ queued left⟩]⟩ := by
  obtain ⟨hresult, hconnection, hstream⟩ := connection.send_eq packet { now, stream }
  rw [show Scene.deadline connection.sendLimit _ = now + connection.sendLimit.ticks from rfl, h]
    at hresult hconnection hstream
  have hsend : Step (⟨connection, { now, stream }, carried, record⟩ : Sender τ) _ := .send packet
  have hrun := (Relation.ReflTransGen.single hsend).tail
    (.elapse [] { connection with outbox } { now := later, stream := left }
      (congrArg Connection.outbox hconnection).symm (congrArg queued hstream))
  rwa [send, hresult, hstream] at hrun

/-- A heartbeat without its vector. -/
def bareHeartbeat : Packet := ⟨⟨1, 1⟩, ⟨.heartbeat, none, .undecoded []⟩⟩

/-- A send that times out in the midst of its frame, one that is refused, and one that finishes the
frame before its own. -/
theorem accepted_of_run_resumed :
    ∃ start sender : Sender Script.Stream, start.IsNew ∧
      Relation.ReflTransGen Step start sender ∧
      sender.record =
        [⟨.ok [104, 105], .error .timeout, [0, 3, 1]⟩,
          ⟨bareHeartbeat, .error (.missingVector .heartbeat), [0, 3, 1]⟩,
          ⟨.ok [], .ok (), [0, 3, 1, 1, 104, 105, 0, 1, 1, 1]⟩] ∧
      ∃ selection : List Sending, selection.Sublist sender.record ∧
        sender.accepted ++ sender.connection.outbox = Sending.wires selection := by
  let halting : Script.Stream := { writes := { cues := [.result (.ok 3), .delay 6000] } }
  have hfirst : Connection.sendTo 5000 {} (.ok [104, 105]) 0 halting = ⟨.expired, [1, 104, 105],
      5000, { writes := { running := some 6000 }, accepted := [0, 3, 1] }⟩ := by cbv
  have hsecond : Connection.sendTo 10000 { outbox := [1, 104, 105] } bareHeartbeat 5000
      { writes := { running := some 6000 }, accepted := [0, 3, 1] } =
        (⟨.done (.error (.missingVector .heartbeat)), [1, 104, 105], 5000,
          { writes := { running := some 6000 }, accepted := [0, 3, 1] }⟩ :
          Connection.Dispatch Script.Stream) := by cbv
  have hthird : Connection.sendTo 10000 { outbox := [1, 104, 105] } (.ok []) 5000
      { writes := { running := some 6000 }, accepted := [0, 3, 1] } =
        (⟨.done (.ok ()), [], 6000, { accepted := [0, 3, 1, 1, 104, 105, 0, 1, 1, 1] }⟩ :
          Connection.Dispatch Script.Stream) := by cbv
  have hnew : IsNew (⟨{}, { stream := halting }, [], []⟩ : Sender Script.Stream) := ⟨rfl, rfl, rfl⟩
  have hrun := ((run_of_sendTo [] [] hfirst).trans (run_of_sendTo _ _ hsecond)).trans
    (run_of_sendTo _ _ hthird)
  obtain ⟨selection, hselected, -, -, hoctets, -⟩ := accepted_of_run hnew hrun
  exact ⟨_, _, hnew, hrun, rfl, selection, hselected, hoctets⟩

end Sender

end PeerLink
