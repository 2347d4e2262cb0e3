import PeerLink.Link.Holder
import PeerLink.Proofs.Link.Reading
import PeerLink.Proofs.Wire.RuleOrder
import PeerLink.Stream.Script

/-!
What a call that moves a packet does to the counters, whatever the stream does. A call that sends
counts the octets of its packet's wire form, a call that receives counts the octets that the packet
took up on the stream, and a call that fails counts its failure, each of them once
(`Call.perform_counts`). There is one exception: a call under a limit of its own that is not made
over a connection forgets to count that the limit has passed.
-/

set_option autoImplicit false
set_option relaxedAutoImplicit false

namespace PeerLink

open ByteStream (Reads)

/-! ### Failures and their categories -/

namespace Packet

theorem category_of_encode {packet : Packet} {failure : ProtocolError}
    (h : packet.encode = .error failure) : failure.category = .other := by
  unfold encode at h
  split_ifs at h
  · cases h
    rfl
  · cases h
    rfl

/-- The octets that a received packet took up on its stream. -/
structure Fills (packet : Packet) (wire : Bytes) : Prop where
  encode_eq : packet.encode = .ok wire
  length_eq : wire.length = Header.size + packet.head.length.toNat

theorem fills_of_decodeFront {options : DecodeOptions} {bytes : Bytes} {front : Front}
    (h : decodeFront options bytes = .ok front) :
    front.packet.Fills (bytes.take front.consumed) ∧
      (bytes.take front.consumed).length = front.consumed := by
  have haccepted := accepted_of_decodeFront h
  have hlength : (bytes.take front.consumed).length = front.consumed := by
    rw [List.length_take]
    exact Nat.min_eq_left haccepted.consumed_le
  exact ⟨⟨haccepted.encode_eq, hlength.trans haccepted.consumed_eq⟩, hlength⟩

theorem fills_of_decodeWith {options : DecodeOptions} (hstrict : options.framing = .strict)
    {bytes : Bytes} {packet : Packet} (h : decodeWith options bytes = .ok packet) :
    packet.Fills bytes := by
  obtain ⟨front, hfront, rfl⟩ := decodeWith_eq_ok_iff.mp h
  obtain ⟨hfills, -⟩ := fills_of_decodeFront hfront
  rwa [(accepted_of_decodeFront hfront).exact hstrict, List.take_length] at hfills

/-- A frame that is taken off a buffer is what its packet takes up. -/
theorem fills_of_step {options : DecodeOptions} {buffer rest : Bytes} {packet : Packet}
    (h : FrameBuffer.step options buffer = .packet packet rest) :
    ∃ wire, packet.Fills wire ∧ buffer = wire ++ rest := by
  obtain ⟨hlength, hverdict, rfl⟩ := FrameBuffer.step_eq_packet_iff.mp h
  have hpos := FrameBuffer.declaredLength_pos_of_verdict hlength hverdict
  refine ⟨buffer.take (FrameBuffer.frameEnd buffer), fills_of_decodeWith rfl hverdict, ?_⟩
  rw [FrameBuffer.remainder, if_neg (by omega), List.take_append_drop]

end Packet

/-! ### What a connection counts -/

namespace Connection

variable {σ : Type} [ByteStream σ]

theorem counters_receive (connection : Connection) (scene : Scene σ) :
    (connection.receive scene).2.2.counters =
      match (connection.receive scene).1 with
      | .ok packet => scene.counters.received (.ofNat packet.wireLength)
      | .error failure => scene.counters.failed failure := by
  unfold receive
  dsimp only
  split
  · rfl
  · rfl

theorem counters_send (connection : Connection) (packet : Packet) (scene : Scene σ) :
    (connection.send packet scene).2.2.counters =
      match (connection.send packet scene).1 with
      | .ok () => scene.counters.sent (.ofNat packet.wireLength)
      | .error failure => scene.counters.failed failure := by
  unfold send
  dsimp only
  split
  · rfl
  · rfl

theorem encode_of_push {deadline : Nat} {packet : Packet} {outbox : Bytes} {now : Nat}
    {stream : σ} (h : (push deadline packet outbox now stream).outcome.orTimeout = .ok ()) :
    ∃ wire, packet.encode = .ok wire := by
  unfold push Packet.appendTo at h
  cases hencode : packet.encode with
  | error failure =>
    rw [hencode] at h
    cases h
  | ok wire => exact ⟨wire, rfl⟩

/-- A connection sends nothing that cannot be encoded. -/
theorem encode_of_send {connection : Connection} {packet : Packet} {scene : Scene σ}
    (h : (connection.send packet scene).1 = .ok ()) : ∃ wire, packet.encode = .ok wire := by
  obtain ⟨hresult, -, -⟩ := send_eq connection packet scene
  rw [hresult] at h
  unfold sendTo at h
  split_ifs at h
  · dsimp only at h
    split at h
    · exact encode_of_push h
    · rename_i hnot
      obtain hdone | ⟨failure, hfailed, -⟩ := Dispatch.ofDrain_cases
        (emptyOutbox (scene.deadline connection.sendLimit) connection.outbox scene.now scene.stream)
      · exact absurd hdone hnot
      · rw [hfailed] at h
        cases h
  · exact encode_of_push h

end Connection

/-! ### The calls that move a packet -/

/-- A call that moves one packet: straight over a stream, with a limit of its own or without, or
over a connection. -/
inductive Call where
  | receive (key : Option Bytes) (maxBytes : Nat)
  | receiveWith (options : DecodeOptions) (key : Option Bytes) (maxBytes : Nat)
  | receiveWithin (limit : Duration) (key : Option Bytes) (maxBytes : Nat)
  | send (packet : Packet)
  | sendWithin (limit : Duration) (packet : Packet)
  | receiveOver (connection : Connection)
  | sendOver (connection : Connection) (packet : Packet)

namespace Call

/-- The packet that is to be sent. -/
def packet? : Call → Option Packet
  | send packet | sendWithin _ packet | sendOver _ packet => some packet
  | receive _ _ | receiveWith _ _ _ | receiveWithin _ _ _ | receiveOver _ => none

def connection? : Call → Option Connection
  | receiveOver connection | sendOver connection _ => some connection
  | receive _ _ | receiveWith _ _ _ | receiveWithin _ _ _ | send _ | sendWithin _ _ => none

/-- The octets that were read before a call over `connection?` and not yet taken. -/
def inboxOf (connection? : Option Connection) : Bytes :=
  (connection?.map Connection.inbox).getD []

/-- Whether the call has a limit of its own and no connection. -/
def isBounded : Call → Bool
  | receiveWithin _ _ _ | sendWithin _ _ => true
  | receive _ _ | receiveWith _ _ _ | send _ | receiveOver _ | sendOver _ _ => false

/-- What a call leaves: its answer, its connection if it has one, and the scene. -/
structure Ending (σ : Type) where
  answer : Answer
  connection : Option Connection
  scene : Scene σ

variable {σ : Type} [ByteStream σ]

/-- The call as it is made. One without a limit is given up at `deadline`. -/
def perform (deadline : Nat) (call : Call) (scene : Scene σ) : Ending σ :=
  match call with
  | receive key maxBytes =>
    let (attempt, scene) := OneShot.receive key maxBytes deadline scene
    ⟨.ofAttempt .ofPacket attempt, none, scene⟩
  | receiveWith options key maxBytes =>
    let (attempt, scene) := OneShot.receiveWith options key maxBytes deadline scene
    ⟨.ofAttempt .ofPacket attempt, none, scene⟩
  | receiveWithin limit key maxBytes =>
    let (result, scene) := OneShot.receiveWithin limit key maxBytes scene
    ⟨.ofPacket result, none, scene⟩
  | send packet =>
    let (attempt, scene) := OneShot.send packet deadline scene
    ⟨.ofAttempt .ofUnit attempt, none, scene⟩
  | sendWithin limit packet =>
    let (result, scene) := OneShot.sendWithin limit packet scene
    ⟨.ofUnit result, none, scene⟩
  | receiveOver connection =>
    let (result, connection, scene) := connection.receive scene
    ⟨.ofPacket result, some connection, scene⟩
  | sendOver connection packet =>
    let (result, connection, scene) := connection.send packet scene
    ⟨.ofUnit result, some connection, scene⟩

/-! ### What each of them counts -/

/-- How a call ends that had `packet?` to send or was to receive, over `connection?` or over the
stream alone, and the one thing that it does to the counters then. A call with a limit of its own
tells that the limit has passed and does not count it. -/
inductive Counts (packet? : Option Packet) (connection? : Option Connection) (isBounded : Bool)
    (before : Scene σ) : Ending σ → Prop where
  | sent {packet : Packet} {wire : Bytes} {later? : Option Connection} {after : Scene σ} :
    packet? = some packet → packet.encode = .ok wire →
    after.counters = before.counters.sent (.ofNat wire.length) →
    Counts packet? connection? isBounded before ⟨.done, later?, after⟩
  | received {packet : Packet} {wire taken rest : Bytes} {later? : Option Connection}
    {after : Scene σ} :
    packet? = none → packet.Fills wire → Reads before.stream taken after.stream →
    inboxOf connection? ++ taken = wire ++ rest →
    (∀ later, later? = some later → later.inbox = rest) →
    after.counters = before.counters.received (.ofNat wire.length) →
    Counts packet? connection? isBounded before ⟨.packet packet, later?, after⟩
  | failed {failure : ProtocolError} {later? : Option Connection} {after : Scene σ} :
    (failure = .timeout → connection?.isSome) →
    after.counters = before.counters.failed failure →
    Counts packet? connection? isBounded before ⟨.failed failure, later?, after⟩
  | forgotten {later? : Option Connection} {after : Scene σ} :
    isBounded → after.counters = before.counters →
    Counts packet? connection? isBounded before ⟨.failed .timeout, later?, after⟩
  | never {later? : Option Connection} {after : Scene σ} : after.counters = before.counters →
    Counts packet? connection? isBounded before ⟨.never, later?, after⟩

/-- The ending under a limit: what would go on for ever is given up. -/
def Ending.limited (ending : Ending σ) : Ending σ :=
  match ending.answer with
  | .never => { ending with answer := .failed .timeout }
  | _ => ending

theorem Counts.limited {packet? : Option Packet} {connection? : Option Connection}
    {before : Scene σ} {ending : Ending σ} (h : Counts packet? connection? false before ending) :
    Counts packet? connection? true before ending.limited := by
  cases h with
  | sent hpacket hencode hcounters => exact .sent hpacket hencode hcounters
  | received hnone hfills hreads hsplit hrest hcounters =>
    exact .received hnone hfills hreads hsplit hrest hcounters
  | failed htimeout hcounters => exact .failed htimeout hcounters
  | forgotten hbounded hcounters => exact .forgotten rfl hcounters
  | never hcounters => exact .forgotten rfl hcounters

/-- A limit makes a difference only where a call would go on after it. -/
theorem perform_receiveWithin (deadline : Nat) (limit : Duration) (key : Option Bytes)
    (maxBytes : Nat) (scene : Scene σ) :
    (receiveWithin limit key maxBytes).perform deadline scene =
      ((receive key maxBytes).perform (scene.deadline limit) scene).limited := by
  unfold perform OneShot.receiveWithin
  dsimp only
  cases (OneShot.receive key maxBytes (scene.deadline limit) scene).1 with
  | expired => rfl
  | done result =>
    cases result with
    | error failure => rfl
    | ok packet => rfl

theorem perform_sendWithin (deadline : Nat) (limit : Duration) (packet : Packet)
    (scene : Scene σ) :
    (sendWithin limit packet).perform deadline scene =
      ((send packet).perform (scene.deadline limit) scene).limited := by
  unfold perform OneShot.sendWithin
  dsimp only
  cases (OneShot.send packet (scene.deadline limit) scene).1 with
  | expired => rfl
  | done result =>
    cases result with
    | error failure => rfl
    | ok done => rfl

/-! ### Straight over a stream -/

omit [ByteStream σ] in
/-- All that accepting a read does beside logging. -/
theorem accept_eq (options : DecodeOptions) (key : Option Bytes) (bytes : Bytes)
    (scene : Scene σ) :
    let accepted := OneShot.accept options key bytes scene
    accepted.1 = (Packet.decodeFront options bytes).map Packet.Front.packet ∧
      accepted.2.stream = scene.stream ∧
      accepted.2.counters =
        match Packet.decodeFront options bytes with
        | .ok front => scene.counters.received (.ofNat front.consumed)
        | .error failure => scene.counters.failed failure := by
  unfold OneShot.accept Packet.decodeFrontKeyed
  dsimp only
  cases Packet.decodeFront options bytes with
  | error failure => exact ⟨rfl, rfl, rfl⟩
  | ok front =>
    dsimp only
    split_ifs
    · exact ⟨rfl, rfl, rfl⟩
    · exact ⟨rfl, rfl, rfl⟩

/-- A read that brought octets: the packet at the front of them is counted with what it took up. -/
theorem counts_accept {options : DecodeOptions} {key : Option Bytes} {bytes : Bytes}
    {before scene : Scene σ} (hreads : Reads before.stream bytes scene.stream)
    (hcounters : scene.counters = before.counters) :
    let accepted := OneShot.accept options key bytes scene
    Counts none none false before ⟨.ofPacket accepted.1, none, accepted.2⟩ := by
  obtain ⟨hresult, hstream, hcounted⟩ := accept_eq options key bytes scene
  intro accepted
  rw [hresult]
  rw [← hstream] at hreads
  rw [hcounters] at hcounted
  cases hfront : Packet.decodeFront options bytes with
  | error failure =>
    rw [hfront] at hcounted
    refine .failed ?_ hcounted
    -- A timeout would not be of category decode.
    rintro rfl
    cases Packet.category_of_decodeFront hfront
  | ok front =>
    rw [hfront] at hcounted
    obtain ⟨hfills, hlength⟩ := Packet.fills_of_decodeFront hfront
    refine .received rfl hfills hreads (List.take_append_drop front.consumed bytes).symm nofun ?_
    rw [hlength]
    exact hcounted

theorem counts_receiveWith (options : DecodeOptions) (key : Option Bytes)
    (maxBytes deadline : Nat) (scene : Scene σ) :
    Counts none none false scene
      ((receiveWith options key maxBytes).perform deadline scene) := by
  unfold perform OneShot.receiveWith
  dsimp only
  split_ifs with hzero
  · -- Nothing can be asked for: a failure of category other, which leaves all counts alone.
    exact .failed nofun rfl
  · split
    · exact .never rfl
    · exact .failed nofun rfl
    · rename_i bytes hread
      split_ifs with hempty
      · exact .failed nofun rfl
      · exact counts_accept (.of_served hread) rfl

theorem counts_send (packet : Packet) (deadline : Nat) (scene : Scene σ) :
    Counts (some packet) none false scene ((send packet).perform deadline scene) := by
  unfold perform OneShot.send
  dsimp only
  cases hencode : packet.encode with
  | error failure =>
    have hcategory := Packet.category_of_encode hencode
    refine .failed ?_ (Counters.failed_of_other hcategory _).symm
    rintro rfl
    cases hcategory
  | ok wire =>
    dsimp only
    split
    · exact .never rfl
    · exact .failed nofun rfl
    · exact .sent rfl hencode rfl

/-! ### Over a connection -/

theorem counts_receiveOver (connection : Connection) (deadline : Nat) (scene : Scene σ) :
    Counts none (some connection) false scene
      ((receiveOver connection).perform deadline scene) := by
  obtain ⟨taken, hreads, htakes⟩ := connection.receive_collects scene
  have hcounters := connection.counters_receive scene
  unfold perform
  dsimp only at hreads htakes ⊢
  cases hresult : (connection.receive scene).1 with
  | error failure =>
    rw [hresult] at hcounters
    exact .failed (fun _ ↦ rfl) hcounters
  | ok packet =>
    rw [hresult] at hcounters htakes
    cases htakes with
    | packet hstep =>
      -- What is counted is worked out from the packet; it is the length of what was taken.
      obtain ⟨wire, hfills, hbuffer⟩ := Packet.fills_of_step hstep
      refine .received rfl hfills hreads hbuffer ?_ ?_
      · rintro later hlater
        cases hlater
        rfl
      · rw [Packet.length_of_encode hfills.encode_eq]
        exact hcounters

theorem counts_sendOver (connection : Connection) (packet : Packet) (deadline : Nat)
    (scene : Scene σ) :
    Counts (some packet) (some connection) false scene
      ((sendOver connection packet).perform deadline scene) := by
  have hcounters := connection.counters_send packet scene
  unfold perform
  dsimp only
  cases hresult : (connection.send packet scene).1 with
  | error failure =>
    rw [hresult] at hcounters
    exact .failed (fun _ ↦ rfl) hcounters
  | ok done =>
    rw [hresult] at hcounters
    obtain ⟨wire, hencode⟩ := connection.encode_of_send hresult
    refine .sent rfl hencode ?_
    rw [Packet.length_of_encode hencode]
    exact hcounters

/-! ### Every call -/

/-- Whatever the stream does, a call ends in one of five ways and counts accordingly. -/
theorem perform_counts (deadline : Nat) (call : Call) (scene : Scene σ) :
    Counts call.packet? call.connection? call.isBounded scene (call.perform deadline scene) := by
  cases call with
  | receive key maxBytes => exact counts_receiveWith .streaming key maxBytes deadline scene
  | receiveWith options key maxBytes => exact counts_receiveWith options key maxBytes deadline scene
  | receiveWithin limit key maxBytes =>
    rw [perform_receiveWithin]
    exact (counts_receiveWith .streaming key maxBytes _ scene).limited
  | send packet => exact counts_send packet deadline scene
  | sendWithin limit packet =>
    rw [perform_sendWithin]
    exact (counts_send packet _ scene).limited
  | receiveOver connection => exact counts_receiveOver connection deadline scene
  | sendOver connection packet => exact counts_sendOver connection packet deadline scene

theorem connection?_of_isBounded {call : Call} (h : call.isBounded = true) :
    call.connection? = none := by
  cases call with
  | receiveWithin | sendWithin => rfl
  | receive | receiveWith | send | receiveOver | sendOver => cases h

/-- A call that fails for reasons of the stream or of time counts that once and counts nothing else,
unless it has a limit of its own and no connection: that its limit has passed is counted nowhere. -/
theorem counters_of_transport {deadline : Nat} {call : Call} {scene : Scene σ}
    {failure : ProtocolError} (hfailed : (call.perform deadline scene).answer = .failed failure)
    (hcategory : failure.category = .transport) :
    (call.perform deadline scene).scene.counters =
      if call.isBounded ∧ failure = .timeout then scene.counters
      else { scene.counters with transportErrors := scene.counters.transportErrors + 1 } := by
  have hcounts := call.perform_counts deadline scene
  generalize call.perform deadline scene = ending at hcounts hfailed ⊢
  cases hcounts with
  | sent | received | never => cases hfailed
  | failed htimeout hcounters =>
    cases hfailed
    have hcounted : ¬ (call.isBounded ∧ failure = .timeout) := by
      rintro ⟨hbounded, hpassed⟩
      have hsome := htimeout hpassed
      rw [connection?_of_isBounded hbounded] at hsome
      cases hsome
    rw [if_neg hcounted]
    exact hcounters.trans (Counters.failed_of_transport hcategory _)
  | forgotten hbounded hcounters =>
    cases hfailed
    rw [if_pos ⟨hbounded, rfl⟩]
    exact hcounters

/-- A receive under a limit, of at most 64 octets and for at most 20 milliseconds. -/
def briefReceive : Call := .receiveWithin (.ofMilliseconds 20) none 64

/-- The end of the input, met under a limit, is counted. -/
theorem counters_of_transport_end_of_input :
    let scene : Scene Script.Stream := { stream := { reads := { cues := [.result (.ok [])] } } }
    (briefReceive.perform 0 scene).answer = .failed .emptyRead ∧
      (briefReceive.perform 0 scene).scene.counters = { transportErrors := 1 } := by
  intro scene
  have hfailed : (briefReceive.perform 0 scene).answer = .failed .emptyRead := by rfl
  exact ⟨hfailed, (counters_of_transport hfailed rfl).trans (if_neg nofun)⟩

/-- That the limit has passed before anything came is a failure of the transport, and is not
counted. -/
theorem exists_uncounted_timeout :
    ∃ (call : Call) (scene : Scene Script.Stream) (failure : ProtocolError),
      (call.perform 0 scene).answer = .failed failure ∧ failure.category = .transport ∧
        (call.perform 0 scene).scene.counters.transportErrors ≠
          scene.counters.transportErrors + 1 :=
  ⟨briefReceive, { stream := { reads := { cues := [.stall] } } }, .timeout, by rfl, rfl, by decide⟩

end Call

end PeerLink
