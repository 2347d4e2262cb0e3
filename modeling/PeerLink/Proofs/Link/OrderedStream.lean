import PeerLink.Link.Connection
import PeerLink.Proofs.Wire.FrameBoundary
import PeerLink.Stream.Pipe
import PeerLink.Stream.Script

/-!
Connections over streams that lose nothing. A source hands out what is pending, in order
(`OrderedSource`), and a sink keeps what it has accepted, in order (`OrderedSink`); how many octets
a call moves, and how long it takes, is left open. A send that meets no trouble on the stream adds
the wire form of its packet to what is queued (`send_spec`). A receive moves octets from the stream
into the inbox until the inbox is decided, the input has ended or time has run out
(`receive_spec`), and it never drops one.
-/

set_option autoImplicit false
set_option relaxedAutoImplicit false

namespace PeerLink

/-! ### Streams that lose nothing -/

/-- A stream whose reads hand out what is pending, in order and without faults. A read that gives
nothing has met the end of the input. -/
class OrderedSource (σ : Type) [ByteStream σ] where
  /-- What has arrived and has not been read. -/
  pending : σ → Bytes
  /-- Whether nothing more will arrive. -/
  ended : σ → Bool
  ended_read : ∀ (limit now deadline : Nat) (stream : σ),
    ended (ByteStream.read limit now deadline stream).stream = ended stream
  pending_of_expired : ∀ {limit now deadline : Nat} {stream : σ},
    (ByteStream.read limit now deadline stream).outcome = .expired →
      pending (ByteStream.read limit now deadline stream).stream = pending stream
  append_pending : ∀ {limit now deadline : Nat} {stream : σ} {bytes : Bytes},
    (ByteStream.read limit now deadline stream).outcome = .done (.ok bytes) →
      bytes ++ pending (ByteStream.read limit now deadline stream).stream = pending stream
  outcome_ne_error : ∀ (limit now deadline : Nat) (stream : σ) (fault : TransportFault),
    (ByteStream.read limit now deadline stream).outcome ≠ .done (.error fault)
  ended_of_empty : ∀ {limit now deadline : Nat} {stream : σ}, 0 < limit →
    (ByteStream.read limit now deadline stream).outcome = .done (.ok []) →
      pending stream = [] ∧ ended stream = true
  outcome_of_ended : ∀ (limit now deadline : Nat) {stream : σ}, pending stream = [] →
    ended stream = true → (ByteStream.read limit now deadline stream).outcome = .done (.ok [])

/-- A stream that keeps what its writes have accepted, in order. -/
class OrderedSink (τ : Type) [ByteStream τ] where
  /-- What has been accepted and has not been carried away. -/
  queued : τ → Bytes
  queued_write : ∀ {bytes : Bytes} {now deadline : Nat} {stream : τ} {count : Nat},
    (ByteStream.write bytes now deadline stream).outcome = .done (.ok count) →
      queued (ByteStream.write bytes now deadline stream).stream =
        queued stream ++ bytes.take count
  queued_flush : ∀ (now deadline : Nat) (stream : τ),
    queued (ByteStream.flush now deadline stream).stream = queued stream
  queued_shutdown : ∀ (now deadline : Nat) (stream : τ),
    queued (ByteStream.shutdown now deadline stream).stream = queued stream
  queued_release : ∀ stream : τ, queued (ByteStream.release stream) = queued stream

namespace Pipe

@[simp] theorem Duplex.incoming_setIncoming (duplex : Duplex) (channel : Channel) (side : Side) :
    (duplex.setIncoming channel side).incoming side = channel := by
  cases side <;> rfl

@[simp] theorem Duplex.outgoing_setOutgoing (duplex : Duplex) (channel : Channel) (side : Side) :
    (duplex.setOutgoing channel side).outgoing side = channel := by
  cases side <;> rfl

@[simp] theorem Duplex.outgoing_setIncoming (duplex : Duplex) (channel : Channel) (side : Side) :
    (duplex.setIncoming channel side).outgoing side = duplex.outgoing side := by
  cases side <;> rfl

theorem Channel.content_of_put? {channel after : Channel} {bytes : Bytes} {count : Nat}
    (h : channel.put? bytes = some (count, after)) :
    after.content = channel.content ++ bytes.take count := by
  unfold put? at h
  dsimp only at h
  split_ifs at h
  cases h
  rw [← List.take_eq_take_min]

namespace End

/-- The channel that an end reads from. -/
def source (pipe : End) : Channel := pipe.duplex.incoming pipe.side

/-- The channel that an end writes to. -/
def target (pipe : End) : Channel := pipe.duplex.outgoing pipe.side

/-- An end waits while its source is empty and not closed, and is served at once otherwise. -/
theorem read_cases (limit now deadline : Nat) (pipe : End) :
    let reading := ByteStream.read limit now deadline pipe
    (reading.outcome = .expired ∧ pipe.source.closed = false ∧
        reading.stream.source = pipe.source) ∨
      reading.outcome = .done (.ok (pipe.source.content.take limit)) ∧
        (pipe.source.content = [] → pipe.source.closed = true) ∧
        reading.stream.source =
          { pipe.source with content := pipe.source.content.drop limit } := by
  rw [show ByteStream.read limit now deadline pipe = read limit now deadline pipe from rfl]
  unfold read Channel.take? source
  split_ifs with hwait
  · simp only [Bool.and_eq_true, Bool.not_eq_true'] at hwait
    exact .inl ⟨rfl, hwait.2, rfl⟩
  · simp only [Bool.and_eq_true, List.isEmpty_iff, Bool.not_eq_true', not_and,
      Bool.not_eq_false] at hwait
    exact .inr ⟨rfl, hwait, Duplex.incoming_setIncoming _ _ _⟩

instance : OrderedSource End where
  pending pipe := pipe.source.content
  ended pipe := pipe.source.closed
  ended_read limit now deadline pipe := by
    obtain ⟨-, -, hsource⟩ | ⟨-, -, hsource⟩ := read_cases limit now deadline pipe <;> rw [hsource]
  pending_of_expired {limit now deadline pipe} h := by
    obtain ⟨-, -, hsource⟩ | ⟨hserved, -⟩ := read_cases limit now deadline pipe
    · rw [hsource]
    · exact absurd (h.symm.trans hserved) nofun
  append_pending {limit now deadline pipe bytes} h := by
    obtain ⟨hwaits, -⟩ | ⟨hserved, -, hsource⟩ := read_cases limit now deadline pipe
    · exact absurd (h.symm.trans hwaits) nofun
    · cases h.symm.trans hserved
      rw [hsource, List.take_append_drop]
  outcome_ne_error limit now deadline pipe fault h := by
    obtain ⟨hwaits, -⟩ | ⟨hserved, -⟩ := read_cases limit now deadline pipe
    · exact absurd (h.symm.trans hwaits) nofun
    · exact absurd (h.symm.trans hserved) nofun
  ended_of_empty {limit now deadline pipe} hlimit h := by
    obtain ⟨hwaits, -⟩ | ⟨hserved, hclosed, -⟩ := read_cases limit now deadline pipe
    · exact absurd (h.symm.trans hwaits) nofun
    · have htake : pipe.source.content.take limit = [] := by
        injection (h.symm.trans hserved) with h
        injection h with h
        exact h.symm
      have hempty := (List.take_eq_nil_iff.mp htake).resolve_left (Nat.ne_of_gt hlimit)
      exact ⟨hempty, hclosed hempty⟩
  outcome_of_ended limit now deadline {pipe} hempty hended := by
    obtain ⟨-, hopen, -⟩ | ⟨hserved, -⟩ := read_cases limit now deadline pipe
    · exact absurd (hended.symm.trans hopen) nofun
    · rw [hserved, hempty, List.take_nil]

theorem target_write {bytes : Bytes} {now deadline count : Nat} {pipe : End}
    (h : (ByteStream.write bytes now deadline pipe).outcome = .done (.ok count)) :
    (ByteStream.write bytes now deadline pipe).stream.target.content =
      pipe.target.content ++ bytes.take count := by
  rw [show ByteStream.write bytes now deadline pipe = write bytes now deadline pipe from rfl] at h ⊢
  unfold write at h ⊢
  dsimp only at h ⊢
  split_ifs at h ⊢
  · cases h
  · split at h
    · cases h
    · rename_i hput
      cases h
      exact (congrArg Channel.content (Duplex.outgoing_setOutgoing _ _ _)).trans
        (Channel.content_of_put? hput)

theorem target_closeOutgoing (pipe : End) : pipe.closeOutgoing.target = pipe.target.close :=
  Duplex.outgoing_setOutgoing _ _ _

theorem target_release (pipe : End) :
    (ByteStream.release pipe).target = pipe.closeOutgoing.target :=
  Duplex.outgoing_setIncoming _ _ _

instance : OrderedSink End where
  queued pipe := pipe.target.content
  queued_write := target_write
  queued_flush _ _ _ := rfl
  queued_shutdown _ _ pipe := by
    change pipe.closeOutgoing.target.content = _
    rw [target_closeOutgoing, Channel.close]
  queued_release pipe := by
    rw [target_release, target_closeOutgoing, Channel.close]

end End

end Pipe

namespace Script.Stream

theorem accepted_write {bytes : Bytes} {now deadline count : Nat} {stream : Stream}
    (h : (ByteStream.write bytes now deadline stream).outcome = .done (.ok count)) :
    (ByteStream.write bytes now deadline stream).stream.accepted =
      stream.accepted ++ bytes.take count := by
  rw [show ByteStream.write bytes now deadline stream = write bytes now deadline stream from rfl]
    at h ⊢
  unfold write at h ⊢
  split at h
  · cases h
  · cases h
    exact congrArg _ bytes.take_length.symm
  · cases h
  · cases h
    exact congrArg _ List.take_eq_take_min

instance : OrderedSink Stream where
  queued := accepted
  queued_write := accepted_write
  queued_flush now deadline stream := by
    change (flush now deadline stream).stream.accepted = _
    unfold flush
    split <;> rfl
  queued_shutdown now deadline stream := by
    change (shutdown now deadline stream).stream.accepted = _
    unfold shutdown
    split <;> rfl
  queued_release _ := rfl

end Script.Stream

/-! ### Sending -/

/-- The octets that a packet adds to a stream: its wire form if it has one. -/
def Packet.wire (packet : Packet) : Bytes := packet.encode.toOption.getD []

theorem Packet.wire_of_encode {packet : Packet} {wire : Bytes} (h : packet.encode = .ok wire) :
    packet.wire = wire := by
  rw [Packet.wire, h]
  rfl

open OrderedSink (queued)

section Sending

variable {τ : Type} [ByteStream τ] [OrderedSink τ]

/-- Octets that were all accepted are all queued. -/
theorem ByteStream.drain_of_ok {stuck : TransportFault} {deadline : Nat} {bytes : Bytes}
    {now : Nat} {stream : τ}
    (h : (drain stuck deadline bytes now stream).outcome = .done (.ok ())) :
    (drain stuck deadline bytes now stream).left = [] ∧
      queued (drain stuck deadline bytes now stream).stream = queued stream ++ bytes := by
  fun_induction drain stuck deadline bytes now stream with
  | case1 => exact ⟨rfl, (List.append_nil _).symm⟩
  | case2 => cases h
  | case3 => cases h
  | case4 => cases h
  | case5 now stream octet octets writing count hcount ih =>
    obtain ⟨hleft, hqueued⟩ := ih h
    refine ⟨hleft, hqueued.trans ?_⟩
    rw [OrderedSink.queued_write hcount, List.append_assoc]
    exact congrArg _ (List.take_append_drop (count + 1) (octet :: octets))

namespace Connection

theorem emptyOutbox_of_ok {deadline : Nat} {outbox : Bytes} {now : Nat} {stream : τ}
    (h : (emptyOutbox deadline outbox now stream).outcome = .done (.ok ())) :
    (emptyOutbox deadline outbox now stream).left = [] ∧
      queued (emptyOutbox deadline outbox now stream).stream = queued stream ++ outbox := by
  unfold emptyOutbox ByteStream.drainAndFlush at h ⊢
  dsimp only at h ⊢
  split at h
  · rename_i hdrained
    obtain ⟨hleft, hqueued⟩ := ByteStream.drain_of_ok hdrained
    exact ⟨hleft, (OrderedSink.queued_flush _ _ _).trans hqueued⟩
  · rename_i hdrained
    exact absurd h hdrained

theorem emptyOutbox_nil (deadline now : Nat) (stream : τ) :
    (emptyOutbox deadline [] now stream).left = [] ∧
      queued (emptyOutbox deadline [] now stream).stream = queued stream := by
  unfold emptyOutbox ByteStream.drainAndFlush
  rw [ByteStream.drain]
  exact ⟨rfl, OrderedSink.queued_flush _ _ _⟩

omit [ByteStream τ] [OrderedSink τ] in
/-- Trouble with the stream, be it only that it took too long, is of category transport. -/
theorem Dispatch.ofDrain_cases (drain : Drain τ) :
    drain.outcome = .done (.ok ()) ∨
      ∃ failure, (Dispatch.ofDrain drain).outcome.orTimeout = .error failure ∧
        failure.category = .transport := by
  unfold ofDrain
  cases drain.outcome with
  | expired => exact .inr ⟨.timeout, rfl, rfl⟩
  | done result =>
    cases result with
    | ok => exact .inl rfl
    | error fault => exact .inr ⟨.transport fault, rfl, rfl⟩

/-- How a packet gets from an empty outbox to the stream if nothing goes wrong there: it answers as
the encoder does, and what is queued grows by the wire form. -/
def Dispatch.Carries (packet : Packet) (stream : τ) (dispatch : Dispatch τ) : Prop :=
  dispatch.outcome.orTimeout = packet.encode.map (fun _ ↦ ()) ∧ dispatch.outbox = [] ∧
    queued dispatch.stream = queued stream ++ packet.wire

section Carries

variable {packet : Packet} {deadline now : Nat} {stream : τ}

theorem push_carries
    (h : ∀ failure, (push deadline packet [] now stream).outcome.orTimeout = .error failure →
      failure.category ≠ .transport) :
    (push deadline packet [] now stream).Carries packet stream := by
  unfold push Packet.appendTo at h ⊢
  unfold Dispatch.Carries Packet.wire
  cases hencode : packet.encode with
  | error failure => exact ⟨rfl, rfl, (List.append_nil _).symm⟩
  | ok wire =>
    simp only [hencode, Except.map, List.nil_append] at h ⊢
    obtain hdone | ⟨failure, hfailed, hcategory⟩ :=
      Dispatch.ofDrain_cases (emptyOutbox deadline wire now stream)
    · obtain ⟨hleft, hqueued⟩ := emptyOutbox_of_ok hdone
      exact ⟨congrArg (fun outcome ↦ (Attempt.map _ outcome).orTimeout) hdone, hleft, hqueued⟩
    · exact absurd hcategory (h failure hfailed)

theorem sendTo_carries {connection : Connection} (hempty : connection.outbox = [])
    (h : ∀ failure,
      (sendTo deadline connection packet now stream).outcome.orTimeout = .error failure →
        failure.category ≠ .transport) :
    (sendTo deadline connection packet now stream).Carries packet stream := by
  unfold sendTo at h ⊢
  rw [hempty] at h ⊢
  split_ifs at h ⊢
  · obtain ⟨hleft, hqueued⟩ := emptyOutbox_nil deadline now stream
    dsimp only at h ⊢
    split at h
    · simp only [hleft] at h ⊢
      have hpushed := push_carries h
      unfold Dispatch.Carries at hpushed ⊢
      rwa [hqueued] at hpushed
    · rename_i hnot
      obtain hdone | ⟨failure, hfailed, hcategory⟩ :=
        Dispatch.ofDrain_cases (emptyOutbox deadline [] now stream)
      · exact absurd hdone hnot
      · exact absurd hcategory (h failure hfailed)
  · exact push_carries h

end Carries

omit [OrderedSink τ] in
/-- All that a send does beside counting and logging. -/
theorem send_eq (connection : Connection) (packet : Packet) (scene : Scene τ) :
    let dispatch :=
      sendTo (scene.deadline connection.sendLimit) connection packet scene.now scene.stream
    (connection.send packet scene).1 = dispatch.outcome.orTimeout ∧
      (connection.send packet scene).2.1 = { connection with outbox := dispatch.outbox } ∧
      (connection.send packet scene).2.2.stream = dispatch.stream := by
  intro dispatch
  unfold send
  dsimp only
  split <;> rename_i hresult <;> exact ⟨hresult.symm, rfl, rfl⟩

/-- A send that meets no trouble on the stream answers as the encoder does, leaves nothing in the
outbox and adds the wire form to what is queued. -/
theorem send_spec {connection : Connection} {packet : Packet} {scene : Scene τ}
    (hempty : connection.outbox = [])
    (h : ∀ failure, (connection.send packet scene).1 = .error failure →
      failure.category ≠ .transport) :
    (connection.send packet scene).1 = packet.encode.map (fun _ ↦ ()) ∧
      (connection.send packet scene).2.1.outbox = [] ∧
      queued (connection.send packet scene).2.2.stream = queued scene.stream ++ packet.wire := by
  obtain ⟨hresult, hconnection, hstream⟩ := send_eq connection packet scene
  rw [hresult] at h ⊢
  rw [hconnection, hstream]
  exact sendTo_carries hempty h

/-- Closing with nothing in the outbox adds nothing to what is queued, whatever comes of it. -/
theorem queued_close {connection : Connection} (hempty : connection.outbox = []) (deadline : Nat)
    (scene : Scene τ) :
    queued (connection.close deadline scene).2.stream = queued scene.stream := by
  obtain ⟨-, hqueued⟩ := emptyOutbox_nil deadline scene.now scene.stream
  unfold close
  rw [hempty]
  dsimp only
  split <;> refine (OrderedSink.queued_release _).trans (Eq.trans ?_ hqueued)
  all_goals
    dsimp only [Scene.moveTo, Scene.note]
    split
    · exact OrderedSink.queued_shutdown _ _ _
    · rfl

end Connection

end Sending

/-! ### Receiving -/

open OrderedSource (pending ended)

section Receiving

variable {σ : Type} [ByteStream σ] [OrderedSource σ]

namespace Connection

/-- What a receive comes to while the input has not ended, by the octets `buffer` that the inbox
holds at last: time is up, a frame is decided, or the input is over. It tells the outcome, and the
inbox, whether the input has ended and the mode afterwards. -/
inductive Received (options : DecodeOptions) (buffer : Bytes) (atEnd : Prop) :
    Attempt (Except ProtocolError Packet) → Bytes → Bool → ReadMode → Prop where
  | expired : FrameBuffer.step options buffer = .waiting → ¬ atEnd →
    Received options buffer atEnd .expired buffer false .waiting
  | packet {packet : Packet} {rest : Bytes} :
    FrameBuffer.step options buffer = .packet packet rest →
      Received options buffer atEnd (.done (.ok packet)) rest false .ready
  | failed {failure : ProtocolError} {rest : Bytes} :
    FrameBuffer.step options buffer = .failed failure rest →
      Received options buffer atEnd (.done (.error failure)) rest false .failed
  | closed : atEnd → buffer = [] →
    Received options buffer atEnd (.done (.error .connectionClosed)) [] true .waiting
  | cut : atEnd → FrameBuffer.step options buffer = .waiting → buffer ≠ [] →
    Received options buffer atEnd (.done (.error (.transport FrameBuffer.remainingFault))) buffer
      true .failed

/-- The connection after a receive that came to `outcome`. -/
def ReceivedBy (connection : Connection) (buffer : Bytes) (atEnd : Prop)
    (outcome : Attempt (Except ProtocolError Packet)) (after : Connection) : Prop :=
  Received connection.options buffer atEnd outcome after.inbox after.inputEnded after.mode

omit [ByteStream σ] [OrderedSource σ] in
theorem options_of_takeReady {connection after : Connection}
    {result : Option (Except ProtocolError Packet)}
    (h : connection.takeReady = (result, after)) : after.options = connection.options := by
  unfold takeReady at h
  dsimp only at h
  split at h <;> cases h <;> rfl

omit [ByteStream σ] [OrderedSource σ] in
/-- A look at the inbox before the input has ended. -/
theorem takeReady_cases (connection : Connection) (hmode : connection.mode = .ready)
    (hinput : connection.inputEnded = false) (atEnd : Prop) :
    (FrameBuffer.step connection.options connection.inbox = .waiting ∧
        connection.takeReady = (none, { connection with mode := .waiting })) ∨
      ∃ result after, connection.takeReady = (some result, after) ∧
        connection.ReceivedBy connection.inbox atEnd (.done result) after := by
  unfold takeReady
  rw [hinput]
  dsimp only
  rw [if_neg Bool.false_ne_true]
  cases hstep : FrameBuffer.step connection.options connection.inbox with
  | waiting => exact .inl ⟨rfl, rfl⟩
  | packet packet rest =>
    refine .inr ⟨_, _, rfl, ?_⟩
    unfold ReceivedBy
    rw [hmode]
    exact .packet hstep
  | failed failure rest =>
    exact .inr ⟨_, _, rfl, .failed hstep⟩

omit [ByteStream σ] [OrderedSource σ] in
/-- A look at an inbox that waits when the input has just ended. -/
theorem takeReady_of_over (connection : Connection) {atEnd : Prop} (hover : atEnd)
    (hinput : connection.inputEnded = true)
    (hwaits : FrameBuffer.step connection.options connection.inbox = .waiting) :
    connection.ReceivedBy connection.inbox atEnd
      (.done (connection.takeReady.1.getD (.error .connectionClosed))) connection.takeReady.2 := by
  unfold takeReady FrameBuffer.finalStep
  rw [hinput]
  dsimp only
  rw [if_pos rfl, if_pos rfl, hwaits]
  dsimp only
  by_cases hempty : connection.inbox = []
  · rw [if_pos (List.isEmpty_iff.mpr hempty)]
    unfold ReceivedBy
    rw [hempty]
    exact .closed hover rfl
  · rw [if_neg (fun hnil ↦ hempty (List.isEmpty_iff.mp hnil))]
    exact .cut hover hwaits hempty

theorem room_pos (connection : Connection) : 0 < connection.room := by
  unfold room
  dsimp only
  omega

/-- A receive moves octets from the stream into the inbox, all of them in order, and comes to what
the inbox then holds. -/
def Gathers (connection : Connection) (before : σ) (outcome : Attempt (Except ProtocolError Packet))
    (after : Connection) (left : σ) : Prop :=
  ∃ taken, taken ++ pending left = pending before ∧ ended left = ended before ∧
    connection.ReceivedBy (connection.inbox ++ taken) (pending left = [] ∧ ended left = true)
      outcome after

/-- A receive that has to read first. -/
theorem gather_spec (deadline : Nat) (connection : Connection) (now : Nat) (stream : σ)
    (hmode : connection.mode = .waiting) (hinput : connection.inputEnded = false)
    (hwaits : FrameBuffer.step connection.options connection.inbox = .waiting) :
    let reception := gather deadline connection now stream
    connection.Gathers stream reception.outcome reception.connection reception.stream := by
  unfold Gathers
  fun_induction gather deadline connection now stream with
  | case1 connection now stream reading hexpired =>
    have hpending := OrderedSource.pending_of_expired hexpired
    have hended := OrderedSource.ended_read connection.room now deadline stream
    refine ⟨[], hpending, hended, ?_⟩
    unfold ReceivedBy
    rw [hinput, hmode, List.append_nil]
    refine .expired hwaits fun hover ↦ ?_
    have hserved := OrderedSource.outcome_of_ended connection.room now deadline
      (hpending ▸ hover.1) (hended ▸ hover.2)
    exact absurd (hexpired.symm.trans hserved) nofun
  | case2 connection now stream reading fault hfault =>
    exact absurd hfault (OrderedSource.outcome_ne_error _ _ _ _ fault)
  | case3 connection now stream reading hempty hclosed =>
    exact absurd (hinput.symm.trans hclosed) nofun
  | case4 connection now stream reading hempty _ result after hready =>
    have hpending := OrderedSource.append_pending hempty
    have hended := OrderedSource.ended_read connection.room now deadline stream
    obtain ⟨hnone, hover⟩ := OrderedSource.ended_of_empty connection.room_pos hempty
    have hover : pending reading.stream = [] ∧ ended reading.stream = true :=
      ⟨hpending.trans hnone, hended.trans hover⟩
    have hseen := takeReady_of_over
      { connection with inputEnded := true, mode := .ready } hover rfl hwaits
    rw [hready] at hseen
    refine ⟨[], hpending, hended, ?_⟩
    rw [List.append_nil]
    exact hseen
  | case5 connection now stream reading octet octets hread inbox result after hready =>
    have hpending := OrderedSource.append_pending hread
    have hended := OrderedSource.ended_read connection.room now deadline stream
    refine ⟨octet :: octets, hpending, hended, ?_⟩
    obtain ⟨-, hnone⟩ | ⟨_, _, hsome, hseen⟩ := takeReady_cases
      { connection with inbox, inputEnded := false, mode := .ready } rfl rfl
      (pending reading.stream = [] ∧ ended reading.stream = true)
    · exact absurd (hready.symm.trans hnone) nofun
    · cases hready.symm.trans hsome
      exact hseen
  | case6 connection now stream reading octet octets hread inbox after hready ih =>
    have hpending := OrderedSource.append_pending hread
    have hended := OrderedSource.ended_read connection.room now deadline stream
    obtain ⟨hwaits, hnone⟩ | ⟨_, _, hsome, -⟩ := takeReady_cases
      { connection with inbox, inputEnded := false, mode := .ready } rfl rfl True
    · cases hready.symm.trans hnone
      obtain ⟨taken, htaken, hsame, hreceived⟩ := ih rfl rfl hwaits
      refine ⟨octet :: octets ++ taken, ?_, hsame.trans hended, ?_⟩
      · rw [List.append_assoc, htaken, hpending]
      · rw [← List.append_assoc]
        exact hreceived
    · exact absurd (hready.symm.trans hsome) nofun

omit [OrderedSource σ] in
theorem gather_options (deadline : Nat) (connection : Connection) (now : Nat) (stream : σ) :
    (gather deadline connection now stream).connection.options = connection.options := by
  fun_induction gather deadline connection now stream with
  | case1 => rfl
  | case2 => rfl
  | case3 => rfl
  | case4 connection now stream reading _ _ result after hready =>
    have hoptions := options_of_takeReady hready
    exact hoptions
  | case5 connection now stream reading octet octets _ inbox result after hready =>
    have hoptions := options_of_takeReady hready
    exact hoptions
  | case6 connection now stream reading octet octets _ inbox after hready ih =>
    have hoptions := options_of_takeReady hready
    exact ih.trans hoptions

/-- A connection on which a receive may still bring something: no error is to be followed by the
report of the end, and the inbox is not left unlooked at. -/
structure IsOpen (connection : Connection) : Prop where
  inputEnded : connection.inputEnded = false
  mode_ne_failed : connection.mode ≠ .failed
  waiting : connection.mode = .waiting →
    FrameBuffer.step connection.options connection.inbox = .waiting

theorem receiveFrom_spec (deadline : Nat) {connection : Connection} (hopen : connection.IsOpen)
    (now : Nat) (stream : σ) :
    let reception := receiveFrom deadline connection now stream
    connection.Gathers stream reception.outcome reception.connection reception.stream := by
  unfold receiveFrom
  cases hmode : connection.mode with
  | failed => exact absurd hmode hopen.mode_ne_failed
  | waiting => exact gather_spec deadline _ now stream hmode hopen.inputEnded (hopen.waiting hmode)
  | ready =>
    obtain ⟨hwaits, hnone⟩ | ⟨result, after, hsome, hreceived⟩ := takeReady_cases connection hmode
      hopen.inputEnded (pending stream = [] ∧ ended stream = true)
    · rw [hnone]
      exact gather_spec deadline { connection with mode := .waiting } now stream rfl
        hopen.inputEnded hwaits
    · rw [hsome]
      refine ⟨[], rfl, rfl, ?_⟩
      rw [List.append_nil]
      exact hreceived

omit [OrderedSource σ] in
/-- All that a receive does beside counting and logging. -/
theorem receive_eq (connection : Connection) (scene : Scene σ) :
    let reception :=
      receiveFrom (scene.deadline connection.receiveLimit) connection scene.now scene.stream
    (connection.receive scene).1 = reception.outcome.orTimeout ∧
      (connection.receive scene).2.1 = reception.connection ∧
      (connection.receive scene).2.2.stream = reception.stream := by
  intro reception
  unfold receive
  dsimp only
  split <;> rename_i hresult <;> exact ⟨hresult.symm, rfl, rfl⟩

omit [OrderedSource σ] in
theorem receive_options (connection : Connection) (scene : Scene σ) :
    (connection.receive scene).2.1.options = connection.options := by
  obtain ⟨-, hconnection, -⟩ := receive_eq connection scene
  rw [hconnection]
  unfold receiveFrom
  split
  · rfl
  · exact gather_options _ _ _ _
  · split
    · rename_i hready
      exact options_of_takeReady hready
    · rename_i hready
      exact (gather_options _ _ _ _).trans (options_of_takeReady hready)

theorem receive_spec {connection : Connection} (hopen : connection.IsOpen) (scene : Scene σ) :
    let received := connection.receive scene
    ∃ outcome, received.1 = outcome.orTimeout ∧
      connection.Gathers scene.stream outcome received.2.1 received.2.2.stream := by
  intro received
  obtain ⟨hresult, hconnection, hstream⟩ := receive_eq connection scene
  refine ⟨_, hresult, ?_⟩
  rw [hstream, hconnection]
  exact receiveFrom_spec _ hopen _ _

theorem gather_of_inputEnded (deadline : Nat) {connection : Connection} (now : Nat) {stream : σ}
    (hinput : connection.inputEnded = true) (hpending : pending stream = [])
    (hended : ended stream = true) :
    let reception := gather deadline connection now stream
    reception.outcome = .done (.error .connectionClosed) ∧ reception.connection = connection ∧
      pending reception.stream = [] ∧ ended reception.stream = true := by
  have hempty := OrderedSource.outcome_of_ended connection.room now deadline hpending hended
  have hleft := OrderedSource.append_pending hempty
  have hkept := OrderedSource.ended_read connection.room now deadline stream
  fun_cases gather deadline connection now stream with
  | case1 reading hexpired => exact absurd (hempty.symm.trans hexpired) nofun
  | case2 reading fault hfault => exact absurd (hempty.symm.trans hfault) nofun
  | case3 reading _ _ => exact ⟨rfl, rfl, hleft.trans hpending, hkept.trans hended⟩
  | case4 reading _ hopen => exact absurd hinput hopen
  | case5 reading octet octets hread => exact absurd (hempty.symm.trans hread) nofun
  | case6 reading octet octets hread => exact absurd (hempty.symm.trans hread) nofun

/-- Once the input has ended and nothing is pending, every receive reports the end. -/
theorem receive_of_inputEnded {connection : Connection} {scene : Scene σ}
    (hinput : connection.inputEnded = true) (hmode : connection.mode ≠ .ready)
    (hpending : pending scene.stream = []) (hended : ended scene.stream = true) :
    let received := connection.receive scene
    received.1 = .error .connectionClosed ∧
      received.2.1 = { connection with mode := .waiting } ∧
      pending received.2.2.stream = [] ∧ ended received.2.2.stream = true := by
  intro received
  obtain ⟨hresult, hconnection, hstream⟩ := receive_eq connection scene
  rw [hresult, hconnection, hstream]
  unfold receiveFrom
  cases hcase : connection.mode with
  | failed => exact ⟨rfl, rfl, hpending, hended⟩
  | ready => exact absurd hcase hmode
  | waiting =>
    obtain ⟨hclosed, hsame, hleft, hkept⟩ := gather_of_inputEnded
      (scene.deadline connection.receiveLimit) scene.now hinput hpending hended
    refine ⟨congrArg Attempt.orTimeout hclosed, hsame.trans ?_, hleft, hkept⟩
    rw [← hcase]

end Connection

end Receiving

end PeerLink
