import Mathlib.Logic.Relation
import PeerLink.Link.Dial
import PeerLink.Proofs.Traffic.Call

/-!
A process from its start: the counters that everything in it shares, the connections that are live,
and the calls that have ended. Any number of connections come and go between the calls, each over a
stream of its own that does what it likes. For the counters it is enough to know which of four
changes a step makes (`Process.changes_of_step`): a call ends, a connection is created, a connection
is over, or nothing is counted.
-/

set_option autoImplicit false
set_option relaxedAutoImplicit false

namespace PeerLink

namespace Action

/-- The call that an action makes over a connection, if it moves a packet. -/
def call? (connection : Connection) : Action → Option Call
  | send packet => some (.sendOver connection packet)
  | receive => some (.receiveOver connection)
  | limits _ _ | close | drop | unwrap | write _ | read _ | rewrap => none

/-- Whether a connection is over after the action, however that goes. -/
def isFinal : Action → Bool
  | close | drop | unwrap => true
  | send _ | receive | limits _ _ | write _ | read _ | rewrap => false

end Action

/-! ### What counts connections -/

namespace Connection

theorem counters_close {σ : Type} [ByteStream σ] (connection : Connection) (deadline : Nat)
    (scene : Scene σ) :
    (connection.close deadline scene).2.counters = scene.counters.closed := by
  unfold close
  dsimp only
  split
  · rfl
  · rfl
  · rfl

/-- An attempt to connect gives a connection and counts it, or fails and counts nothing. -/
theorem connect_cases {σ : Type} (dialling : Dialling) (config : Config) (scene : Scene σ) :
    let connected := connect dialling config scene
    (∃ connection, connected.1 = .ok connection ∧
        connected.2.counters = scene.counters.established) ∨
      ∃ failure, connected.1 = .error failure ∧ connected.2.counters = scene.counters := by
  unfold connect
  dsimp only
  split
  · exact .inr ⟨_, rfl, rfl⟩
  · exact .inr ⟨_, rfl, rfl⟩
  · exact .inl ⟨_, rfl, rfl⟩

end Connection

namespace Holder

variable {σ : Type} [ByteStream σ] {connection later : Connection} {scene after : Scene σ}
  {patience : Duration} {action : Action} {answer : Answer} {holder : Holder}

/-- Closing, even if it fails, dropping and unwrapping each take one connection off the count. -/
theorem counters_of_isFinal (hfinal : action.isFinal = true)
    (h : (framed connection).act patience action scene = some (answer, holder, after)) :
    after.counters = scene.counters.closed := by
  cases action with
  | close =>
    cases h
    exact Connection.counters_close connection _ scene
  | drop | unwrap =>
    cases h
    rfl
  | send | receive | limits | write | read | rewrap => cases hfinal

/-- Any other action is a call, or is not counted. -/
theorem call_of_not_isFinal (hfinal : action.isFinal = false)
    (h : (framed connection).act patience action scene = some (answer, .framed later, after)) :
    (∃ call, action.call? connection = some call ∧
        ∀ deadline, answer = (call.perform deadline scene).answer ∧
          after = (call.perform deadline scene).scene) ∨
      action.call? connection = none ∧ after.counters = scene.counters := by
  cases action with
  | send packet =>
    cases h
    exact .inl ⟨_, rfl, fun _ ↦ ⟨rfl, rfl⟩⟩
  | receive =>
    cases h
    exact .inl ⟨_, rfl, fun _ ↦ ⟨rfl, rfl⟩⟩
  | limits =>
    cases h
    exact .inr ⟨rfl, rfl⟩
  | close | drop | unwrap => cases hfinal
  | write | read | rewrap => cases h

end Holder

/-! ### A process and its steps -/

/-- The packet that a call with this answer has received. -/
def Answer.packet? : Answer → Option Packet
  | packet received => some received
  | done | octets _ | failed _ | never => none

/-- The packet that the call has sent if this was its answer. -/
def Call.sent? (call : Call) : Answer → Option Packet
  | .done => call.packet?
  | .packet _ | .octets _ | .failed _ | .never => none

structure Process where
  counters : Counters := {}
  /-- The connections that were created and not yet closed, unwrapped or dropped. -/
  live : List Connection := []
  /-- How many connections were ever created. -/
  created : Nat := 0
  /-- The calls that have ended, each with its answer. -/
  record : List (Call × Answer) := []

namespace Process

/-- The packets whose sending has succeeded, in order. -/
def sent (process : Process) : List Packet :=
  process.record.filterMap fun (call, answer) ↦ call.sent? answer

/-- The packets that were received, in order. -/
def received (process : Process) : List Packet :=
  process.record.filterMap fun (_, answer) ↦ answer.packet?

/-- One thing that happens in a process: a call straight over a stream ends, an action on a live
connection ends, a call over one is abandoned at some point, a connection with any settings is
created over a stream that is there, or the attempt to open a socket and create one over it ends. -/
inductive Step : Process → Process → Prop where
  | call {σ : Type} [ByteStream σ] {process : Process} (scene : Scene σ) (deadline : Nat)
    (call : Call) : call.connection? = none → scene.counters = process.counters →
    Step process { process with
      counters := (call.perform deadline scene).scene.counters
      record := process.record ++ [(call, (call.perform deadline scene).answer)] }
  | act {σ : Type} [ByteStream σ] {process : Process} {first rest : List Connection}
    {connection later : Connection} {answer : Answer} {after : Scene σ} (scene : Scene σ)
    (patience : Duration) (action : Action) :
    process.live = first ++ connection :: rest → scene.counters = process.counters →
    action.isFinal = false →
    (Holder.framed connection).act patience action scene = some (answer, .framed later, after) →
    Step process { process with
      counters := after.counters
      live := first ++ later :: rest
      record := process.record ++ (action.call? connection).toList.map (·, answer) }
  | finish {σ : Type} [ByteStream σ] {process : Process} {first rest : List Connection}
    {connection : Connection} {answer : Answer} {holder : Holder} {after : Scene σ}
    (scene : Scene σ) (patience : Duration) (action : Action) :
    process.live = first ++ connection :: rest → scene.counters = process.counters →
    action.isFinal = true →
    (Holder.framed connection).act patience action scene = some (answer, holder, after) →
    Step process { process with counters := after.counters, live := first ++ rest }
  | abandon {process : Process} {first rest : List Connection} {connection : Connection}
    (later : Connection) : process.live = first ++ connection :: rest →
    Step process { process with live := first ++ later :: rest }
  | create {σ : Type} {process : Process} (scene : Scene σ) (connection : Connection) :
    scene.counters = process.counters →
    Step process { process with
      counters := (Connection.register scene).counters
      live := connection :: process.live
      created := process.created + 1 }
  | connect {σ : Type} {process : Process} {connection : Connection} {after : Scene σ}
    (scene : Scene σ) (dialling : Connection.Dialling) (config : Config) :
    scene.counters = process.counters →
    Connection.connect dialling config scene = (.ok connection, after) →
    Step process { process with
      counters := after.counters
      live := connection :: process.live
      created := process.created + 1 }
  | refuse {σ : Type} {process : Process} {failure : ProtocolError} {after : Scene σ}
    (scene : Scene σ) (dialling : Connection.Dialling) (config : Config) :
    scene.counters = process.counters →
    Connection.connect dialling config scene = (.error failure, after) →
    Step process { process with counters := after.counters }

/-- A process at some point of its life. -/
def Reachable (process : Process) : Prop := Relation.ReflTransGen Step {} process

/-! ### What a step changes -/

/-- The four ways in which a step changes what is counted and what is recorded. -/
inductive Changes (process next : Process) : Prop where
  | call {σ : Type} [ByteStream σ] (scene : Scene σ) (deadline : Nat) (call : Call) :
    scene.counters = process.counters →
    next.counters = (call.perform deadline scene).scene.counters →
    next.record = process.record ++ [(call, (call.perform deadline scene).answer)] →
    next.live.length = process.live.length → next.created = process.created →
    Changes process next
  | opened : next.counters = process.counters.established → next.record = process.record →
    next.live.length = process.live.length + 1 → next.created = process.created + 1 →
    Changes process next
  | ended : next.counters = process.counters.closed → next.record = process.record →
    next.live.length + 1 = process.live.length → next.created = process.created →
    Changes process next
  | nothing : next.counters = process.counters → next.record = process.record →
    next.live.length = process.live.length → next.created = process.created →
    Changes process next

theorem length_of_live {live first rest : List Connection} {connection : Connection}
    (hlive : live = first ++ connection :: rest) (later : Connection) :
    (first ++ later :: rest).length = live.length := by
  rw [hlive, List.length_append, List.length_append]
  rfl

theorem changes_of_step {process next : Process} (h : Step process next) :
    process.Changes next := by
  cases h with
  | call scene deadline call _ hcounters =>
    exact .call scene deadline call hcounters rfl rfl rfl rfl
  | @act σ _ _ first rest connection later answer after scene patience action hlive hcounters hfinal
      hact =>
    have hlength := length_of_live hlive later
    obtain ⟨call, hcall, hends⟩ | ⟨hnone, hsame⟩ := Holder.call_of_not_isFinal hfinal hact
    · obtain ⟨hanswer, hafter⟩ := hends 0
      refine .call scene 0 call hcounters (congrArg Scene.counters hafter) ?_ hlength rfl
      rw [hcall, ← hanswer]
      rfl
    · refine .nothing (hsame.trans hcounters) ?_ hlength rfl
      rw [hnone]
      exact List.append_nil _
  | @finish σ _ _ first rest connection answer holder after scene patience action hlive hcounters
      hfinal hact =>
    have hlength : (first ++ rest).length + 1 = process.live.length := by
      rw [hlive, List.length_append, List.length_append]
      rfl
    have hclosed := Holder.counters_of_isFinal hfinal hact
    rw [hcounters] at hclosed
    exact .ended hclosed rfl hlength rfl
  | abandon later hlive => exact .nothing rfl rfl (length_of_live hlive later) rfl
  | create scene connection hcounters =>
    exact .opened (congrArg Counters.established hcounters) rfl rfl rfl
  | connect scene dialling config hcounters hconnect =>
    obtain ⟨_, -, hopened⟩ | ⟨failure, hfailed, -⟩ := Connection.connect_cases dialling config scene
    · rw [hconnect, hcounters] at hopened
      exact .opened hopened rfl rfl rfl
    · rw [hconnect] at hfailed
      cases hfailed
  | refuse scene dialling config hcounters hconnect =>
    obtain ⟨connection, hdone, -⟩ | ⟨_, -, hsame⟩ := Connection.connect_cases dialling config scene
    · rw [hconnect] at hdone
      cases hdone
    · rw [hconnect, hcounters] at hsame
      exact .nothing hsame rfl rfl rfl

end Process

end PeerLink
