import PeerLink.Proofs.Traffic.Process
import PeerLink.Stream.Script

/-!
The gauge of active connections. It is a number modulo 2^64 that is counted up and down without any
check, so it is right only because every connection is counted up once and down once, however it
comes about and however it ends. From fresh counters on it is the number of live connections, and
the total is the number of those ever created (`Process.gauge_of_reachable`).
-/

set_option autoImplicit false
set_option relaxedAutoImplicit false

namespace PeerLink

/-- The two counts of connections. -/
structure Gauge where
  total : UInt64
  active : UInt64

namespace Gauge

/-- The counts when `created` connections were created and `live` of them are live. -/
def ofNumbers (created live : Nat) : Gauge := ⟨.ofNat created, .ofNat live⟩

end Gauge

namespace Counters

def gauge (counters : Counters) : Gauge := ⟨counters.connectionsTotal, counters.connectionsActive⟩

@[simp] theorem gauge_sent (size : UInt64) (counters : Counters) :
    (counters.sent size).gauge = counters.gauge := rfl

@[simp] theorem gauge_received (size : UInt64) (counters : Counters) :
    (counters.received size).gauge = counters.gauge := rfl

@[simp] theorem gauge_failed (failure : ProtocolError) (counters : Counters) :
    (counters.failed failure).gauge = counters.gauge := by
  unfold failed
  split
  · rfl
  · rfl
  · rfl

theorem gauge_established {counters : Counters} {created live : Nat}
    (h : counters.gauge = .ofNumbers created live) :
    counters.established.gauge = .ofNumbers (created + 1) (live + 1) := by
  have htotal : counters.connectionsTotal = .ofNat created := congrArg Gauge.total h
  have hactive : counters.connectionsActive = .ofNat live := congrArg Gauge.active h
  unfold gauge established Gauge.ofNumbers
  rw [htotal, hactive, UInt64.ofNat_add, UInt64.ofNat_add]
  rfl

/-- Counted down from at least one, the gauge does not wrap around. -/
theorem gauge_closed {counters : Counters} {created live : Nat}
    (h : counters.gauge = .ofNumbers created (live + 1)) :
    counters.closed.gauge = .ofNumbers created live := by
  have htotal : counters.connectionsTotal = .ofNat created := congrArg Gauge.total h
  have hactive : counters.connectionsActive = .ofNat (live + 1) := congrArg Gauge.active h
  unfold gauge closed Gauge.ofNumbers
  rw [htotal, hactive, UInt64.ofNat_add]
  congr 1
  exact UInt64.add_sub_cancel _ _

end Counters

/-- No call changes the counts of connections, however it ends. -/
theorem Call.gauge_perform {σ : Type} [ByteStream σ] (deadline : Nat) (call : Call)
    (scene : Scene σ) :
    (call.perform deadline scene).scene.counters.gauge = scene.counters.gauge := by
  have hcounts := call.perform_counts deadline scene
  generalize call.perform deadline scene = ending at hcounts ⊢
  cases hcounts with
  | sent _ _ hcounters | received _ _ _ _ _ hcounters | failed _ hcounters
  | forgotten _ hcounters | never hcounters => simp [hcounters]

namespace Process

variable {process next : Process}

/-- The counts of connections are right, whatever they wrap around to. -/
structure IsGauged (process : Process) : Prop where
  gauge : process.counters.gauge = .ofNumbers process.created process.live.length
  live_le : process.live.length ≤ process.created

theorem IsGauged.step (h : process.IsGauged) (hstep : Step process next) : next.IsGauged := by
  have hgauge := h.gauge
  have hle := h.live_le
  cases changes_of_step hstep with
  | call scene deadline call hscene hcounters _ hlive hcreated =>
    constructor
    · rw [hcounters, call.gauge_perform, hscene, hlive, hcreated, hgauge]
    · rwa [hlive, hcreated]
  | opened hcounters _ hlive hcreated =>
    constructor
    · rw [hcounters, hlive, hcreated]
      exact Counters.gauge_established hgauge
    · omega
  | ended hcounters _ hlive hcreated =>
    rw [← hlive] at hgauge
    constructor
    · rw [hcounters, hcreated]
      exact Counters.gauge_closed hgauge
    · omega
  | nothing hcounters _ hlive hcreated =>
    constructor
    · rw [hcounters, hlive, hcreated, hgauge]
    · rwa [hlive, hcreated]

theorem isGauged_of_reachable (h : process.Reachable) : process.IsGauged := by
  induction h with
  | refl => exact ⟨rfl, Nat.le_refl 0⟩
  | tail _ hstep ih => exact ih.step hstep

theorem toNat_active_of_reachable (h : process.Reachable)
    (hcreated : process.created < UInt64.size) :
    process.counters.connectionsActive.toNat = process.live.length := by
  have hgauged := isGauged_of_reachable h
  have hactive : process.counters.connectionsActive = .ofNat process.live.length :=
    congrArg Gauge.active hgauged.gauge
  rw [hactive, UInt64.toNat_ofNat']
  exact Nat.mod_eq_of_lt (Nat.lt_of_le_of_lt hgauged.live_le hcreated)

theorem toNat_total_of_reachable (h : process.Reachable)
    (hcreated : process.created < UInt64.size) :
    process.counters.connectionsTotal.toNat = process.created := by
  have htotal : process.counters.connectionsTotal = .ofNat process.created :=
    congrArg Gauge.total (isGauged_of_reachable h).gauge
  rw [htotal, UInt64.toNat_ofNat']
  exact Nat.mod_eq_of_lt hcreated

/-- A connection that is over takes one off the gauge, and the gauge is not at zero then. -/
theorem active_lt_of_step (h : process.Reachable) (hcreated : process.created < UInt64.size)
    (hstep : Step process next) (hlive : next.live.length < process.live.length) :
    next.counters.connectionsActive < process.counters.connectionsActive := by
  have hnext : next.Reachable := Relation.ReflTransGen.tail h hstep
  have hle : next.created ≤ process.created := by
    cases changes_of_step hstep with
    | call _ _ _ _ _ _ _ hsame | ended _ _ _ hsame | nothing _ _ _ hsame => exact Nat.le_of_eq hsame
    | opened _ _ hmore _ => omega
  rw [UInt64.lt_iff_toNat_lt, toNat_active_of_reachable h hcreated,
    toNat_active_of_reachable hnext (Nat.lt_of_le_of_lt hle hcreated)]
  exact hlive

/-- From fresh counters on, whatever calls are made and however connections come about and end, the
gauge is the number of live connections and the total the number of those ever created. An attempt
to connect that fails counts nothing, and the end of a connection never takes the gauge below
zero. -/
theorem gauge_of_reachable (h : process.Reachable) (hcreated : process.created < UInt64.size) :
    process.counters.connectionsActive.toNat = process.live.length ∧
      process.counters.connectionsTotal.toNat = process.created ∧
      (∀ {σ : Type} (dialling : Connection.Dialling) (config : Config) (scene after : Scene σ)
        (failure : ProtocolError),
        Connection.connect dialling config scene = (.error failure, after) →
          after.counters = scene.counters) ∧
      ∀ next, Step process next → next.live.length < process.live.length →
        next.counters.connectionsActive < process.counters.connectionsActive := by
  refine ⟨toNat_active_of_reachable h hcreated, toNat_total_of_reachable h hcreated, ?_,
    fun next ↦ active_lt_of_step h hcreated⟩
  intro σ dialling config scene after failure hfailed
  obtain ⟨connection, hdone, -⟩ | ⟨_, -, hsame⟩ := Connection.connect_cases dialling config scene
  · rw [hfailed] at hdone
    cases hdone
  · rw [hfailed] at hsame
    exact hsame

/-- One attempt to connect times out and one succeeds, another connection is created, and closing
it fails. -/
theorem gauge_of_reachable_failing_close :
    ∃ process next : Process, process.Reachable ∧ Step process next ∧
      process.counters.connectionsActive.toNat = 2 ∧
      process.counters.connectionsTotal.toNat = 2 ∧
      next.counters.connectionsActive < process.counters.connectionsActive := by
  let resetting : Script.Stream :=
    { shutdowns := { cues := [.result (.error ⟨.connectionReset, "connection reset"⟩)] } }
  let scene (counters : Counters) : Scene Script.Stream := { stream := resetting, counters }
  let one : Process :=
    { counters := Counters.established {}, live := [.ofConfig {}], created := 1 }
  let two : Process :=
    { counters := one.counters.established, live := {} :: one.live, created := 2 }
  have hrefuse : Step {} {} := .refuse (scene {}) { duration := none, outcome := .ok () } {} rfl rfl
  have hconnect : Step {} one :=
    .connect (scene {}) { duration := some 1, outcome := .ok () } {} rfl rfl
  have hcreate : Step one two := .create (scene one.counters) {} rfl
  have hlive : two.live = [] ++ ({} : Connection) :: one.live := rfl
  have hclose : Step two _ := .finish (scene two.counters) .standard .close hlive rfl rfl rfl
  have hreachable : two.Reachable :=
    ((Relation.ReflTransGen.single hrefuse).tail hconnect).tail hcreate
  obtain ⟨hactive, htotal, -, hdown⟩ := gauge_of_reachable hreachable (by decide)
  exact ⟨two, _, hreachable, hclose, hactive, htotal, hdown _ hclose (by decide)⟩

end Process

end PeerLink
