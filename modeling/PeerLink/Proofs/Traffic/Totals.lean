import Mathlib
import PeerLink.Counters

/-!
The counters as sums. Whatever is recorded adds to single counters, each addition on its own, and
additions modulo 2^64 commute. So the counters show in the end what was recorded and how often, not
in which order, even where the parts of two recordings come in between each other
(`Operation.totals_of_perm`).
-/

set_option autoImplicit false
set_option relaxedAutoImplicit false

namespace PeerLink

/-! ### Words -/

theorem toNat_ofInt (value : Int) : ((UInt64.ofInt value).toNat : Int) = value % 2 ^ 64 := by
  rw [UInt64.ofInt, UInt64.toNat_ofNat']
  omega

theorem ofInt_toNat (word : UInt64) : UInt64.ofInt word.toNat = word := by
  have hword : ((word.toNat : Int) % 2 ^ 64).toNat = word.toNat := by
    have hlt := word.toNat_lt
    omega
  rw [UInt64.ofInt, hword, UInt64.ofNat_toNat]

/-! ### Single additions -/

inductive Counter where
  | connectionsTotal
  | connectionsActive
  | packetsSent
  | packetsReceived
  | bytesSent
  | bytesReceived
  | decodeErrors
  | transportErrors
  deriving DecidableEq

/-- An amount that is added to one counter, in one step that nothing can come between. -/
structure Addition where
  counter : Counter
  amount : Int

namespace Counters

def read (counters : Counters) : Counter → UInt64
  | .connectionsTotal => counters.connectionsTotal
  | .connectionsActive => counters.connectionsActive
  | .packetsSent => counters.packetsSent
  | .packetsReceived => counters.packetsReceived
  | .bytesSent => counters.bytesSent
  | .bytesReceived => counters.bytesReceived
  | .decodeErrors => counters.decodeErrors
  | .transportErrors => counters.transportErrors

def ofReading (reading : Counter → UInt64) : Counters where
  connectionsTotal := reading .connectionsTotal
  connectionsActive := reading .connectionsActive
  packetsSent := reading .packetsSent
  packetsReceived := reading .packetsReceived
  bytesSent := reading .bytesSent
  bytesReceived := reading .bytesReceived
  decodeErrors := reading .decodeErrors
  transportErrors := reading .transportErrors

theorem read_ofReading (reading : Counter → UInt64) (counter : Counter) :
    (ofReading reading).read counter = reading counter := by
  cases counter <;> rfl

theorem eq_of_read {first second : Counters}
    (h : ∀ counter, first.read counter = second.read counter) : first = second :=
  congrArg ofReading (funext h)

/-- The counters after an addition to one of them. -/
def add (counters : Counters) (addition : Addition) : Counters :=
  ofReading fun counter ↦
    if counter = addition.counter then counters.read counter + .ofInt addition.amount
    else counters.read counter

def addAll (counters : Counters) (additions : List Addition) : Counters :=
  additions.foldl add counters

end Counters

/-- What an addition is for a counter. -/
def Addition.to (addition : Addition) (counter : Counter) : Int :=
  if counter = addition.counter then addition.amount else 0

namespace Counters

theorem read_add (counters : Counters) (addition : Addition) (counter : Counter) :
    (counters.add addition).read counter =
      counters.read counter + .ofInt (addition.to counter) := by
  have hzero : UInt64.ofInt 0 = 0 := rfl
  rw [add, read_ofReading, Addition.to]
  by_cases h : counter = addition.counter
  · rw [if_pos h, if_pos h]
  · rw [if_neg h, if_neg h, hzero, UInt64.add_zero]

/-- Of many additions a counter keeps their sum. -/
theorem read_addAll (counters : Counters) (additions : List Addition) (counter : Counter) :
    (counters.addAll additions).read counter =
      counters.read counter + .ofInt (additions.map fun addition ↦ addition.to counter).sum := by
  induction additions generalizing counters with
  | nil =>
    have hzero : UInt64.ofInt 0 = 0 := rfl
    rw [List.map_nil, List.sum_nil, hzero, UInt64.add_zero]
    rfl
  | cons addition additions ih =>
    rw [List.map_cons, List.sum_cons, UInt64.ofInt_add, ← UInt64.add_assoc, ← read_add, ← ih]
    rfl

theorem addAll_append (counters : Counters) (front back : List Addition) :
    counters.addAll (front ++ back) = (counters.addAll front).addAll back :=
  List.foldl_append

theorem addAll_perm {first second : List Addition} (h : first.Perm second)
    (counters : Counters) : counters.addAll first = counters.addAll second := by
  refine eq_of_read fun counter ↦ ?_
  rw [read_addAll, read_addAll, (h.map _).sum_eq]

end Counters

/-! ### What can be recorded -/

inductive Operation where
  | established
  | closed
  | sent (size : UInt64)
  | received (size : UInt64)
  | failed (failure : ProtocolError)
  | report (uptime : Nat)
  deriving DecidableEq

namespace Operation

/-- The counters after the operation, and the event that it logs. -/
def perform (counters : Counters) : Operation → Counters × Option Log.Event
  | established => (counters.established, none)
  | closed => (counters.closed, none)
  | sent size => (counters.sent size, none)
  | received size => (counters.received size, none)
  | failed failure => (counters.failed failure, none)
  | report uptime => (counters, some (counters.report uptime))

/-- The additions that the operation is made of. -/
def additions : Operation → List Addition
  | established => [⟨.connectionsTotal, 1⟩, ⟨.connectionsActive, 1⟩]
  | closed => [⟨.connectionsActive, -1⟩]
  | sent size => [⟨.packetsSent, 1⟩, ⟨.bytesSent, size.toNat⟩]
  | received size => [⟨.packetsReceived, 1⟩, ⟨.bytesReceived, size.toNat⟩]
  | failed failure =>
    match failure.category with
    | .decode => [⟨.decodeErrors, 1⟩]
    | .transport => [⟨.transportErrors, 1⟩]
    | .other => []
  | report _ => []

theorem perform_eq_addAll (operation : Operation) (counters : Counters) :
    (operation.perform counters).1 = counters.addAll operation.additions := by
  cases operation with
  | established => rfl
  | closed =>
    have hdown : counters.connectionsActive - 1 = counters.connectionsActive + .ofInt (-1) :=
      UInt64.sub_eq_add_neg _ _
    simp only [perform, Counters.closed, hdown]
    rfl
  | sent size =>
    calc counters.sent size = counters.sent (.ofInt size.toNat) := by rw [ofInt_toNat]
      _ = counters.addAll (additions (sent size)) := rfl
  | received size =>
    calc counters.received size = counters.received (.ofInt size.toNat) := by rw [ofInt_toNat]
      _ = counters.addAll (additions (received size)) := rfl
  | failed failure =>
    show counters.failed failure = _
    cases hcategory : failure.category with
    | decode =>
      rw [additions, hcategory, Counters.failed_of_decode hcategory]
      rfl
    | transport =>
      rw [additions, hcategory, Counters.failed_of_transport hcategory]
      rfl
    | other =>
      rw [additions, hcategory, Counters.failed_of_other hcategory]
      rfl
  | report uptime => rfl

def sentSize? : Operation → Option UInt64
  | sent size => some size
  | _ => none

def receivedSize? : Operation → Option UInt64
  | received size => some size
  | _ => none

def failure? : Operation → Option ProtocolError
  | failed failure => some failure
  | _ => none

/-- The operations one after another: the counters in the end, and the events. -/
def run : List Operation → Counters → Counters × List Log.Event
  | [], counters => (counters, [])
  | operation :: operations, counters =>
    let (next, event) := operation.perform counters
    let (last, events) := run operations next
    (last, event.toList ++ events)

theorem run_eq_addAll (operations : List Operation) (counters : Counters) :
    (run operations counters).1 = counters.addAll (operations.flatMap additions) := by
  induction operations generalizing counters with
  | nil => rfl
  | cons operation operations ih =>
    rw [List.flatMap_cons, Counters.addAll_append, ← perform_eq_addAll, ← ih]
    rfl

/-- What was recorded, as the counters name it. -/
def total (operations : List Operation) : Counter → Int
  | .connectionsTotal => operations.count established
  | .connectionsActive => operations.count established - operations.count closed
  | .packetsSent => (operations.filterMap sentSize?).length
  | .packetsReceived => (operations.filterMap receivedSize?).length
  | .bytesSent => ((operations.filterMap sentSize?).map UInt64.toNat).sum
  | .bytesReceived => ((operations.filterMap receivedSize?).map UInt64.toNat).sum
  | .decodeErrors => (operations.filterMap failure?).countP ProtocolError.isDecode
  | .transportErrors => (operations.filterMap failure?).countP ProtocolError.isTransport

/-- The totals follow the list: what an operation adds comes on top of what the others add. -/
theorem total_cons (operation : Operation) (operations : List Operation) (counter : Counter) :
    total (operation :: operations) counter =
      (operation.additions.map fun addition ↦ addition.to counter).sum +
        total operations counter := by
  cases operation with
  | established | closed | sent size | received size | report uptime =>
    cases counter <;>
      simp [total, additions, Addition.to, sentSize?, receivedSize?, failure?,
        List.filterMap_cons] <;> omega
  | failed failure =>
    -- Only the category of the failure matters: one counter is for it, or none.
    cases hcategory : failure.category <;> cases counter <;>
      simp [total, additions, Addition.to, sentSize?, receivedSize?, failure?,
        List.filterMap_cons, ProtocolError.isDecode_iff, ProtocolError.isTransport_iff,
        hcategory] <;> omega

theorem sum_additions (operations : List Operation) (counter : Counter) :
    ((operations.flatMap additions).map fun addition ↦ addition.to counter).sum =
      total operations counter := by
  induction operations with
  | nil => cases counter <;> rfl
  | cons operation operations ih =>
    rw [List.flatMap_cons, List.map_append, List.sum_append, ih, total_cons]

theorem toNat_read_run (operations : List Operation) (counter : Counter) :
    ((((run operations {}).1.read counter).toNat : Nat) : Int) =
      total operations counter % 2 ^ 64 := by
  have hzero : ({} : Counters).read counter = 0 := by cases counter <;> rfl
  rw [run_eq_addAll, Counters.read_addAll, hzero, UInt64.zero_add, sum_additions, toNat_ofInt]

/-- Operations that no counter is for: the reports, and the failures that are neither malformed
input nor failures of a stream. -/
def Uncounted : Operation → Prop
  | report _ | failed (.missingVector _) | failed (.oversizedPacket _)
  | failed (.unexpectedMessage _) | failed (.configuration _) | failed (.custom _) => True
  | _ => False

theorem uncounted_failed_iff {failure : ProtocolError} :
    (failed failure).Uncounted ↔ failure.category = .other := by
  cases failure <;> simp [Uncounted, ProtocolError.category]

theorem perform_of_uncounted {operation : Operation} (h : operation.Uncounted)
    (counters : Counters) : (operation.perform counters).1 = counters := by
  cases operation with
  | failed failure => exact Counters.failed_of_other (uncounted_failed_iff.mp h) counters
  | report uptime => rfl
  | established | closed | sent size | received size => exact h.elim

/-- Counters are sums modulo 2^64. Whatever is recorded on new counters, they show in the end the
totals of what was recorded, in this order and in any other, and also where the single additions
come in any order: closing more often than establishing takes the gauge below zero, to 2^64 - 1
at first. No failure is in both of the groups that are counted, and failures in neither of them
and reports leave the counters as they are. -/
theorem totals_of_perm (operations : List Operation) :
    (∀ reordered, reordered.Perm operations →
      (run reordered {}).1 = (run operations {}).1 ∧
        ∀ counter, (((run reordered {}).1.read counter).toNat : Int) =
          total operations counter % 2 ^ 64) ∧
    (∀ interleaved, interleaved.Perm (operations.flatMap additions) →
      ({} : Counters).addAll interleaved = (run operations {}).1) ∧
    (∀ counters : Counters, counters.connectionsActive = 0 →
      (closed.perform counters).1.connectionsActive.toNat = 2 ^ 64 - 1) ∧
    (∀ failure : ProtocolError, ¬ (failure.isDecode ∧ failure.isTransport)) ∧
    (∀ failure : ProtocolError,
      (failed failure).Uncounted ↔ ¬ failure.isDecode ∧ ¬ failure.isTransport) ∧
    (∀ operation : Operation, operation.Uncounted → ∀ counters,
      (operation.perform counters).1 = counters) := by
  have hreordered (reordered : List Operation) (hperm : reordered.Perm operations) :
      (run reordered {}).1 = (run operations {}).1 := by
    rw [run_eq_addAll, run_eq_addAll]
    exact Counters.addAll_perm (hperm.flatMap_right additions) {}
  refine ⟨fun reordered hperm ↦ ⟨hreordered reordered hperm, fun counter ↦ ?_⟩,
    fun interleaved hperm ↦ ?_, fun counters hzero ↦ ?_, ProtocolError.not_isDecode_and_isTransport,
    fun failure ↦ ?_, fun operation ↦ perform_of_uncounted⟩
  · rw [hreordered reordered hperm]
    exact toNat_read_run operations counter
  · rw [run_eq_addAll]
    exact Counters.addAll_perm hperm {}
  · rw [perform, Counters.closed, hzero]
    rfl
  · rw [uncounted_failed_iff, ProtocolError.isDecode_iff, ProtocolError.isTransport_iff]
    cases failure.category <;> decide

def wrapping : List Operation :=
  [established, sent 3, closed, failed .timeout, report 7, closed, sent 18446744073709551615]

theorem totals_of_perm_wrapping :
    (run wrapping.reverse {}).1 =
      { connectionsTotal := 1, connectionsActive := 18446744073709551615, packetsSent := 2,
        bytesSent := 2, transportErrors := 1 } ∧
    ({} : Counters).addAll (wrapping.flatMap additions).reverse =
      (run wrapping.reverse {}).1 ∧
    (closed.perform {}).1.connectionsActive.toNat = 2 ^ 64 - 1 ∧
    ((report 7).perform {}).1 = {} := by
  obtain ⟨hreordered, hinterleaved, hclosed, -, -, huncounted⟩ := totals_of_perm wrapping
  have hrun : (run wrapping.reverse {}).1 = (run wrapping {}).1 :=
    (hreordered wrapping.reverse wrapping.reverse_perm).1
  refine ⟨hrun.trans (by decide), ?_, hclosed {} rfl, huncounted (report 7) trivial {}⟩
  rw [hrun]
  exact hinterleaved _ (List.reverse_perm _)

end Operation

end PeerLink
