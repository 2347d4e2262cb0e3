import PeerLink.Link.Recorded
import PeerLink.Proofs.Traffic.Call

/-!
Sending one packet over a stream that does what it likes. Every call on the stream is on record
(`Recorded`), so that what the stream accepted is what the calls say and not what the sender
believes. The writes offer the wire form until all of it is accepted or one of them fails
(`Drains`), and a flush ends them (`Ships`): the octets accepted are the beginning of the wire form
at every time, and success means all of them and a flush (`OneShot.send_whole_or_reported`).
-/

set_option autoImplicit false
set_option relaxedAutoImplicit false

namespace PeerLink

/-- The octets that the stream accepted in these calls. -/
def Exchange.allAccepted (exchanges : List Exchange) : Bytes :=
  exchanges.flatMap Exchange.accepted

/-! ### Writes -/

/-- The writes that offer `bytes` until all of them are accepted, and how they end. -/
inductive Drains (stuck : TransportFault) :
    Bytes → List Exchange → Attempt (Except TransportFault Unit) → Prop where
  | finished : Drains stuck [] [] (.done (.ok ()))
  | abandoned (bytes : Bytes) : Drains stuck bytes [.write bytes .expired] .expired
  | failed (bytes : Bytes) (fault : TransportFault) :
    Drains stuck bytes [.write bytes (.done (.error fault))] (.done (.error fault))
  | nothing (bytes : Bytes) :
    Drains stuck bytes [.write bytes (.done (.ok 0))] (.done (.error stuck))
  | more {bytes : Bytes} {count : Nat} {exchanges : List Exchange}
    {outcome : Attempt (Except TransportFault Unit)} :
    Drains stuck (bytes.drop (count + 1)) exchanges outcome →
    Drains stuck bytes (.write bytes (.done (.ok (count + 1))) :: exchanges) outcome

namespace Drains

variable {stuck : TransportFault} {bytes : Bytes} {exchanges : List Exchange}
  {outcome : Attempt (Except TransportFault Unit)}

theorem accepted_prefix (h : Drains stuck bytes exchanges outcome) :
    Exchange.allAccepted exchanges <+: bytes := by
  induction h with
  | finished | abandoned | failed | nothing => exact List.nil_prefix
  | @more bytes count exchanges outcome _ ih =>
    obtain ⟨left, hleft⟩ := ih
    refine ⟨left, ?_⟩
    calc Exchange.allAccepted (.write bytes (.done (.ok (count + 1))) :: exchanges) ++ left
        = bytes.take (count + 1) ++ (Exchange.allAccepted exchanges ++ left) :=
          List.append_assoc _ _ _
      _ = bytes := by rw [hleft, List.take_append_drop]

theorem accepted_of_ok (h : Drains stuck bytes exchanges outcome)
    (hok : outcome = .done (.ok ())) : Exchange.allAccepted exchanges = bytes := by
  induction h with
  | finished => rfl
  | abandoned | failed | nothing => cases hok
  | @more bytes count exchanges outcome _ ih =>
    calc Exchange.allAccepted (.write bytes (.done (.ok (count + 1))) :: exchanges)
        = bytes.take (count + 1) ++ Exchange.allAccepted exchanges := rfl
      _ = bytes := by rw [ih hok, List.take_append_drop]

/-- Writes that did not go through tell why with the last of them. -/
theorem last_of_ne_ok (h : Drains stuck bytes exchanges outcome)
    (hnot : outcome ≠ .done (.ok ())) :
    ∃ offered written, exchanges.getLast? = some (.write offered written) ∧
      (∀ fault, outcome = .done (.error fault) →
        (Exchange.write offered written).fault? stuck = some fault) ∧
      (outcome = .expired → written = .expired) := by
  induction h with
  | finished => exact absurd rfl hnot
  | abandoned bytes => exact ⟨bytes, .expired, rfl, nofun, fun _ ↦ rfl⟩
  | failed bytes fault =>
    refine ⟨bytes, .done (.error fault), rfl, ?_, nofun⟩
    rintro _ ⟨⟩
    rfl
  | nothing bytes =>
    refine ⟨bytes, .done (.ok 0), rfl, ?_, nofun⟩
    rintro _ ⟨⟩
    rfl
  | more _ ih =>
    obtain ⟨offered, written, hlast, hcause⟩ := ih hnot
    exact ⟨offered, written, by rw [List.getLast?_cons, hlast]; rfl, hcause⟩

end Drains

variable {σ : Type} [ByteStream σ]

/-- The drain without the record of its calls. -/
def Drain.unrecorded (drain : Drain (Recorded σ)) : Drain σ :=
  ⟨drain.outcome, drain.left, drain.now, drain.stream.stream⟩

namespace ByteStream

theorem drain_unrecorded (stuck : TransportFault) (deadline : Nat) (bytes : Bytes) (now : Nat)
    (recorded : Recorded σ) :
    (drain stuck deadline bytes now recorded).unrecorded =
      drain stuck deadline bytes now recorded.stream := by
  fun_induction drain stuck deadline bytes now recorded with
  | case1 now recorded =>
    rw [drain]
    rfl
  | case2 now recorded octet octets writing hexpired =>
    change (write (octet :: octets) now deadline recorded.stream).outcome = _ at hexpired
    rw [drain, hexpired]
    rfl
  | case3 now recorded octet octets writing fault hfault =>
    change (write (octet :: octets) now deadline recorded.stream).outcome = _ at hfault
    rw [drain, hfault]
    rfl
  | case4 now recorded octet octets writing hnone =>
    change (write (octet :: octets) now deadline recorded.stream).outcome = _ at hnone
    rw [drain, hnone]
    rfl
  | case5 now recorded octet octets writing count hcount ih =>
    change (write (octet :: octets) now deadline recorded.stream).outcome = _ at hcount
    rw [ih, drain, hcount]
    rfl

theorem drain_recorded (stuck : TransportFault) (deadline : Nat) (bytes : Bytes) (now : Nat)
    (recorded : Recorded σ) :
    ∃ exchanges,
      (drain stuck deadline bytes now recorded).stream.exchanges =
        recorded.exchanges ++ exchanges ∧
      Drains stuck bytes exchanges (drain stuck deadline bytes now recorded).outcome := by
  fun_induction drain stuck deadline bytes now recorded with
  | case1 => exact ⟨[], (List.append_nil _).symm, .finished⟩
  | case2 now recorded octet octets writing hexpired =>
    refine ⟨[.write (octet :: octets) writing.outcome], rfl, ?_⟩
    rw [hexpired]
    exact .abandoned _
  | case3 now recorded octet octets writing fault hfault =>
    refine ⟨[.write (octet :: octets) writing.outcome], rfl, ?_⟩
    rw [hfault]
    exact .failed _ fault
  | case4 now recorded octet octets writing hnone =>
    refine ⟨[.write (octet :: octets) writing.outcome], rfl, ?_⟩
    rw [hnone]
    exact .nothing _
  | case5 now recorded octet octets writing count hcount ih =>
    obtain ⟨exchanges, hexchanges, hdrains⟩ := ih
    refine ⟨.write (octet :: octets) writing.outcome :: exchanges, ?_, ?_⟩
    · rw [hexchanges]
      exact List.append_assoc _ [_] exchanges
    · rw [hcount]
      exact .more hdrains

end ByteStream

/-! ### Writes and a flush -/

/-- The calls that bring `bytes` to the stream, and how they end. -/
inductive Ships (stuck : TransportFault) (bytes : Bytes) :
    List Exchange → Attempt (Except TransportFault Unit) → Prop where
  | stopped {exchanges : List Exchange} {outcome : Attempt (Except TransportFault Unit)} :
    Drains stuck bytes exchanges outcome → outcome ≠ .done (.ok ()) →
    Ships stuck bytes exchanges outcome
  | flushed {exchanges : List Exchange} (outcome : Attempt (Except TransportFault Unit)) :
    Drains stuck bytes exchanges (.done (.ok ())) →
    Ships stuck bytes (exchanges ++ [.flush outcome]) outcome

theorem Exchange.allAccepted_flush (exchanges : List Exchange)
    (outcome : Attempt (Except TransportFault Unit)) :
    allAccepted (exchanges ++ [.flush outcome]) = allAccepted exchanges := by
  unfold allAccepted
  rw [List.flatMap_append, List.flatMap_singleton]
  exact List.append_nil _

theorem Exchange.allAccepted_prefix {earlier exchanges : List Exchange}
    (h : earlier <+: exchanges) : allAccepted earlier <+: allAccepted exchanges := by
  obtain ⟨later, rfl⟩ := h
  exact ⟨allAccepted later, List.flatMap_append.symm⟩

namespace Ships

variable {stuck : TransportFault} {bytes : Bytes} {exchanges : List Exchange}
  {outcome : Attempt (Except TransportFault Unit)}

theorem accepted_prefix (h : Ships stuck bytes exchanges outcome) :
    Exchange.allAccepted exchanges <+: bytes := by
  cases h with
  | stopped hdrains => exact hdrains.accepted_prefix
  | flushed _ hdrains =>
    rw [Exchange.allAccepted_flush]
    exact hdrains.accepted_prefix

/-- It takes every octet and a flush, and these are enough. -/
theorem ok_iff (h : Ships stuck bytes exchanges outcome) :
    outcome = .done (.ok ()) ↔ Exchange.allAccepted exchanges = bytes ∧
      exchanges.getLast? = some (.flush (.done (.ok ()))) := by
  cases h with
  | stopped hdrains hnot =>
    obtain ⟨offered, written, hlast, -⟩ := hdrains.last_of_ne_ok hnot
    refine ⟨fun hok ↦ absurd hok hnot, fun ⟨_, hflush⟩ ↦ ?_⟩
    cases hlast.symm.trans hflush
  | flushed outcome hdrains =>
    rw [Exchange.allAccepted_flush, List.getLast?_concat]
    constructor
    · rintro rfl
      exact ⟨hdrains.accepted_of_ok rfl, rfl⟩
    · rintro ⟨-, hflush⟩
      injection hflush with hflush
      injection hflush

/-- A fault is that of the last call. -/
theorem last_of_error {fault : TransportFault} (h : Ships stuck bytes exchanges outcome)
    (hfault : outcome = .done (.error fault)) :
    ∃ exchange, exchanges.getLast? = some exchange ∧ exchange.fault? stuck = some fault := by
  cases h with
  | stopped hdrains hnot =>
    obtain ⟨offered, written, hlast, hcause, -⟩ := hdrains.last_of_ne_ok hnot
    exact ⟨_, hlast, hcause fault hfault⟩
  | flushed outcome hdrains =>
    refine ⟨.flush outcome, List.getLast?_concat, ?_⟩
    rw [hfault]
    rfl

theorem last_of_expired (h : Ships stuck bytes exchanges outcome) (hexpired : outcome = .expired) :
    ∃ exchange, exchanges.getLast? = some exchange ∧ exchange.isAbandoned := by
  cases h with
  | stopped hdrains hnot =>
    obtain ⟨offered, written, hlast, -, hcause⟩ := hdrains.last_of_ne_ok hnot
    refine ⟨_, hlast, ?_⟩
    rw [hcause hexpired]
    rfl
  | flushed outcome hdrains =>
    refine ⟨.flush outcome, List.getLast?_concat, ?_⟩
    rw [hexpired]
    rfl

end Ships

namespace ByteStream

theorem drainAndFlush_unrecorded (stuck : TransportFault) (deadline : Nat) (bytes : Bytes)
    (now : Nat) (recorded : Recorded σ) :
    (drainAndFlush stuck deadline bytes now recorded).unrecorded =
      drainAndFlush stuck deadline bytes now recorded.stream := by
  have hdrain := drain_unrecorded stuck deadline bytes now recorded
  unfold drainAndFlush
  rw [← hdrain]
  generalize drain stuck deadline bytes now recorded = draining
  dsimp only [Drain.unrecorded]
  split
  · rfl
  · rfl

theorem drainAndFlush_recorded (stuck : TransportFault) (deadline : Nat) (bytes : Bytes)
    (now : Nat) (recorded : Recorded σ) :
    ∃ exchanges,
      (drainAndFlush stuck deadline bytes now recorded).stream.exchanges =
        recorded.exchanges ++ exchanges ∧
      Ships stuck bytes exchanges (drainAndFlush stuck deadline bytes now recorded).outcome := by
  obtain ⟨exchanges, hexchanges, hdrains⟩ := drain_recorded stuck deadline bytes now recorded
  unfold drainAndFlush
  dsimp only
  split
  · rename_i hok
    rw [hok] at hdrains
    refine ⟨exchanges ++ [.flush _], ?_, .flushed _ hdrains⟩
    rw [← List.append_assoc, ← hexchanges]
    rfl
  · rename_i hnot
    exact ⟨exchanges, hexchanges, .stopped hdrains hnot⟩

end ByteStream

/-! ### Sending a packet -/

namespace OneShot

/-- What a send makes of its calls on the stream. -/
def report (type : MessageType) (size : Nat) (drain : Drain σ) (scene : Scene σ) :
    Outcome σ Unit :=
  let scene := scene.moveTo drain.now drain.stream
  match drain.outcome with
  | .expired => (.expired, scene)
  | .done (.error fault) =>
    (.done (.error (.transport fault)),
      (scene.note [writeFailed type fault]).count (Counters.failed (.transport fault)))
  | .done (.ok ()) =>
    (.done (.ok ()),
      (scene.note [messageSent type size]).count (Counters.sent (.ofNat size)))

theorem send_of_encode {packet : Packet} {wire : Bytes} (h : packet.encode = .ok wire)
    (deadline : Nat) (scene : Scene σ) :
    send packet deadline scene =
      report packet.type wire.length
        (ByteStream.drainAndFlush writeZero deadline wire scene.now scene.stream)
        (scene.note [sending packet.type wire.length]) := by
  unfold send
  rw [h]
  rfl

omit [ByteStream σ] in
theorem report_unrecorded (type : MessageType) (size : Nat) (drain : Drain (Recorded σ))
    (scene : Scene (Recorded σ)) :
    (report type size drain scene).1 =
        (report type size drain.unrecorded scene.unrecorded).1 ∧
      (report type size drain scene).2.unrecorded =
        (report type size drain.unrecorded scene.unrecorded).2 := by
  obtain ⟨outcome, left, now, stream⟩ := drain
  cases outcome with
  | expired => exact ⟨rfl, rfl⟩
  | done result =>
    cases result with
    | error fault => exact ⟨rfl, rfl⟩
    | ok done => exact ⟨rfl, rfl⟩

omit [ByteStream σ] in
theorem stream_report (type : MessageType) (size : Nat) (drain : Drain σ) (scene : Scene σ) :
    (report type size drain scene).2.stream = drain.stream := by
  unfold report
  dsimp only
  split
  · rfl
  · rfl
  · rfl

omit [ByteStream σ] in
theorem report_eq_ok_iff {type : MessageType} {size : Nat} {drain : Drain σ} {scene : Scene σ} :
    (report type size drain scene).1 = .done (.ok ()) ↔ drain.outcome = .done (.ok ()) := by
  unfold report
  dsimp only
  split
  · rename_i hexpired
    rw [hexpired]
    exact ⟨nofun, nofun⟩
  · rename_i hfault
    rw [hfault]
    exact ⟨nofun, nofun⟩
  · rename_i hok
    exact ⟨fun _ ↦ hok, fun _ ↦ rfl⟩

variable (packet : Packet) (deadline : Nat) (scene : Scene σ)

/-- The record does not change what is sent. -/
theorem send_unrecorded :
    (send packet deadline scene.recorded).1 = (send packet deadline scene).1 ∧
      (send packet deadline scene.recorded).2.unrecorded = (send packet deadline scene).2 := by
  cases hencode : packet.encode with
  | error failure =>
    unfold send
    rw [hencode]
    exact ⟨rfl, rfl⟩
  | ok wire =>
    rw [send_of_encode hencode, send_of_encode hencode]
    have hreport := report_unrecorded packet.type wire.length
      (ByteStream.drainAndFlush writeZero deadline wire scene.recorded.now scene.recorded.stream)
      (scene.recorded.note [sending packet.type wire.length])
    rw [ByteStream.drainAndFlush_unrecorded] at hreport
    exact hreport

/-- A packet without a wire form never gets to the stream. With one, the stream has accepted a
beginning of it after every call; the send succeeds exactly if in the end the stream has accepted
all of it and a flush went through, and it counts the packet and its octets then. Otherwise the
fault of the last call is reported and counted once, unless that call was given up. -/
theorem send_whole_or_reported :
    let sent := send packet deadline scene
    let recorded := send packet deadline scene.recorded
    let exchanges := recorded.2.stream.exchanges
    recorded.1 = sent.1 ∧ recorded.2.unrecorded = sent.2 ∧
      match packet.encode with
      | .error failure =>
        sent.1 = .done (.error failure) ∧ exchanges = [] ∧ sent.2.stream = scene.stream ∧
          sent.2.counters = scene.counters
      | .ok wire =>
        (∀ earlier, earlier <+: exchanges → Exchange.allAccepted earlier <+: wire) ∧
        (sent.1 = .done (.ok ()) ↔ Exchange.allAccepted exchanges = wire ∧
          exchanges.getLast? = some (.flush (.done (.ok ())))) ∧
        match sent.1 with
        | .done (.ok ()) =>
          sent.2.counters =
            { scene.counters with
              packetsSent := scene.counters.packetsSent + 1
              bytesSent := scene.counters.bytesSent + .ofNat wire.length }
        | .done (.error failure) =>
          (∃ exchange fault, exchanges.getLast? = some exchange ∧
            exchange.fault? writeZero = some fault ∧ failure = .transport fault) ∧
          sent.2.counters =
            { scene.counters with transportErrors := scene.counters.transportErrors + 1 }
        | .expired =>
          (∃ exchange, exchanges.getLast? = some exchange ∧ exchange.isAbandoned) ∧
            sent.2.counters = scene.counters := by
  obtain ⟨hresult, hscene⟩ := send_unrecorded packet deadline scene
  refine ⟨hresult, hscene, ?_⟩
  rw [← hscene, ← hresult]
  cases hencode : packet.encode with
  | error failure =>
    unfold send
    rw [hencode]
    exact ⟨rfl, rfl, rfl, rfl⟩
  | ok wire =>
    obtain ⟨exchanges, hexchanges, hships⟩ := ByteStream.drainAndFlush_recorded writeZero deadline
      wire scene.recorded.now scene.recorded.stream
    rw [send_of_encode hencode, stream_report]
    generalize ByteStream.drainAndFlush writeZero deadline wire scene.recorded.now
      scene.recorded.stream = writing at hexchanges hships ⊢
    rw [show writing.stream.exchanges = exchanges from hexchanges]
    refine ⟨fun earlier hearlier ↦
      (Exchange.allAccepted_prefix hearlier).trans hships.accepted_prefix,
      report_eq_ok_iff.trans hships.ok_iff, ?_⟩
    obtain ⟨outcome, left, now, stream⟩ := writing
    cases outcome with
    | expired => exact ⟨hships.last_of_expired rfl, rfl⟩
    | done result =>
      cases result with
      | ok done => exact rfl
      | error fault =>
        obtain ⟨exchange, hlast, hfault⟩ := hships.last_of_error rfl
        exact ⟨⟨exchange, fault, hlast, hfault, rfl⟩, rfl⟩

end OneShot

end PeerLink
