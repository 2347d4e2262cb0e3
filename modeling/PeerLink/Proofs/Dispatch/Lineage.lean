import PeerLink.Dispatch.Pool
import Mathlib.Data.List.Infix

/-!
What a pool of dispatchers has become is told by its history. A name goes back, through clones, to
the creation of a table (`origin?`), and all names that go back to one creation are a family. What
counts in a family for a type of message is the newest registration (`registrations`) and how many
packets were dispatched since (`served`), unless a registration has replaced a handler that panics
at that (`Broken`). The pool after a history is just this (`records_of_after`).

In a run, the answers of a handler are a function of the number of the call and the packet, whatever
the handler remembers or shares.
-/

set_option autoImplicit false
set_option relaxedAutoImplicit false

namespace PeerLink.Dispatch

/-! ### Histories -/

inductive Operation where
  | create (name : String)
  | share (name source : String)
  | register (name : String) (type : MessageType) (handler : Handler)
  | isRegistered (name : String) (type : MessageType)
  | dispatch (name : String) (packet : Packet)

/-- What was done, the newest operation in front. -/
abbrev History := List Operation

namespace HandlerTable

variable {type : MessageType} {handler : Handler} {slots : MessageType → Option Slot}

theorem register_of_panics
    (h : (slots type).any (fun slot ↦ slot.handler.panicsWhenReplaced) = true) :
    register type handler (.open slots) = (.panicked, .poisoned) :=
  if_pos h

theorem register_of_calm
    (h : ¬ (slots type).any (fun slot ↦ slot.handler.panicsWhenReplaced) = true) :
    register type handler (.open slots) =
      (.registered, .open (install type { handler } slots)) :=
  if_neg h

/-- One more call of what is installed for `type`, if anything is. -/
def counted (type : MessageType) (slots : MessageType → Option Slot) :
    MessageType → Option Slot :=
  fun other ↦ (slots other).map fun slot ↦
    if other = type then { slot with calls := slot.calls + 1 } else slot

theorem counted_of_ne {other : MessageType} (h : other ≠ type) :
    counted type slots other = slots other := by
  unfold counted
  simp only [if_neg h, Option.map_id_fun', id]

/-- A dispatch leaves the handlers as they are. -/
theorem dispatch_open (packet : Packet) (slots : MessageType → Option Slot) :
    (dispatch packet (.open slots)).table = .open (counted packet.type slots) := by
  unfold dispatch
  cases hslot : slots packet.type with
  | none =>
    simp only [hslot]
    refine congrArg HandlerTable.open (funext fun other ↦ ?_)
    by_cases hother : other = packet.type
    · subst hother
      simp only [counted, hslot, Option.map_none]
    · exact (counted_of_ne hother).symm
  | some slot =>
    simp only [hslot]
    refine congrArg HandlerTable.open (funext fun other ↦ ?_)
    unfold install
    split_ifs with hother
    · subst hother
      simp only [counted, hslot, Option.map_some, if_pos]
    · exact (counted_of_ne hother).symm

end HandlerTable

namespace Pool

def isRegistered? (name : String) (type : MessageType) (pool : Pool) : Option Bool := do
  let index ← pool.index? name
  return (← pool.tables[index]?).isRegistered type

/-- The pool after an operation, unless that names a dispatcher that is not there. -/
def act (pool : Pool) : Operation → Option Pool
  | .create name => some (pool.create name)
  | .share name source => pool.share name source
  | .register name type handler => (pool.register name type handler).map Prod.snd
  | .isRegistered name type => (pool.isRegistered? name type).map fun _ ↦ pool
  | .dispatch name packet => (pool.dispatch name packet).map fun reply ↦ reply.2.2

def after : History → Option Pool
  | [] => some {}
  | operation :: earlier => (after earlier).bind fun pool ↦ pool.act operation

end Pool

namespace History

def creations : History → Nat
  | [] => 0
  | .create _ :: earlier => creations earlier + 1
  | _ :: earlier => creations earlier

/-- The creation that a name goes back to, counted from zero. -/
def origin? : History → String → Option Nat
  | [], _ => none
  | .create created :: earlier, name =>
    if name = created then some (creations earlier) else origin? earlier name
  | .share shared source :: earlier, name =>
    if name = shared then origin? earlier source else origin? earlier name
  | _ :: earlier, name => origin? earlier name

/-- The handlers that were registered for a type through any dispatcher of a family, the newest in
front. -/
def registrations (family : Nat) (type : MessageType) : History → List Handler
  | [] => []
  | .register name registered handler :: earlier =>
    if origin? earlier name = some family ∧ registered = type then
      handler :: registrations family type earlier
    else registrations family type earlier
  | _ :: earlier => registrations family type earlier

/-- How many packets of a type were dispatched through a family since the newest registration for
that type. -/
def served (family : Nat) (type : MessageType) : History → Nat
  | [] => 0
  | .register name registered _ :: earlier =>
    if origin? earlier name = some family ∧ registered = type then 0
    else served family type earlier
  | .dispatch name packet :: earlier =>
    if origin? earlier name = some family ∧ packet.type = type then served family type earlier + 1
    else served family type earlier
  | _ :: earlier => served family type earlier

/-- What is installed for a type in a family that is not broken. -/
def slot? (history : History) (family : Nat) (type : MessageType) : Option Slot :=
  (registrations family type history).head?.map fun handler ↦
    ⟨handler, served family type history⟩

/-- The newest operation replaces a handler of the family that panics at that. -/
def Breaks (family : Nat) : History → Prop
  | .register name type _ :: earlier =>
    origin? earlier name = some family ∧
      ∃ replaced ∈ (registrations family type earlier).head?, replaced.panicsWhenReplaced = true
  | _ => False

instance Breaks.decidable (family : Nat) : (history : History) → Decidable (Breaks family history)
  | [] | .create .. :: _ | .share .. :: _ | .isRegistered .. :: _ | .dispatch .. :: _ => .isFalse id
  | .register name type _ :: earlier =>
    inferInstanceAs (Decidable (origin? earlier name = some family ∧
      ∃ replaced ∈ (registrations family type earlier).head?, replaced.panicsWhenReplaced = true))

theorem exists_of_breaks {family : Nat} {history : History} (h : Breaks family history) :
    ∃ name type handler earlier, history = .register name type handler :: earlier ∧
      origin? earlier name = some family ∧
        ∃ replaced ∈ registrations family type earlier, replaced.panicsWhenReplaced = true := by
  match history, h with
  | .register name type handler :: earlier, ⟨hname, replaced, hreplaced, hpanics⟩ =>
    exact ⟨name, type, handler, earlier, rfl, hname, replaced, List.mem_of_mem_head? hreplaced,
      hpanics⟩

/-- Some operation did. -/
def Broken (family : Nat) (history : History) : Prop :=
  ∃ part, part <:+ history ∧ Breaks family part

theorem not_broken_nil (family : Nat) : ¬ Broken family [] := by
  rintro ⟨part, hpart, hbreaks⟩
  rw [List.suffix_nil.mp hpart] at hbreaks
  exact hbreaks

theorem broken_cons_iff {family : Nat} {operation : Operation} {earlier : History} :
    Broken family (operation :: earlier) ↔
      Breaks family (operation :: earlier) ∨ Broken family earlier := by
  unfold Broken
  constructor
  · rintro ⟨part, hpart, hbreaks⟩
    obtain rfl | hpart := List.suffix_cons_iff.mp hpart
    · exact .inl hbreaks
    · exact .inr ⟨part, hpart, hbreaks⟩
  · rintro (hbreaks | ⟨part, hpart, hbreaks⟩)
    · exact ⟨_, List.suffix_rfl, hbreaks⟩
    · exact ⟨part, hpart.trans (List.suffix_cons _ _), hbreaks⟩

/-- A break in the past is never mended. -/
theorem Broken.append {family : Nat} {earlier : History} (h : Broken family earlier)
    (later : History) : Broken family (later ++ earlier) := by
  obtain ⟨part, hpart, hbreaks⟩ := h
  exact ⟨part, hpart.trans (List.suffix_append _ _), hbreaks⟩

instance Broken.decidable (family : Nat) : (history : History) → Decidable (Broken family history)
  | [] => .isFalse (not_broken_nil family)
  | _ :: earlier =>
    haveI := Broken.decidable family earlier
    decidable_of_iff _ broken_cons_iff.symm

/-- The table that a family works on. -/
def table? (history : History) (family : Nat) : Option HandlerTable :=
  if family < creations history then
    some (if Broken family history then .poisoned else .open (slot? history family))
  else none

/-! ### Families that are not there yet -/

theorem origin?_lt {history : History} {name : String} {family : Nat}
    (h : origin? history name = some family) : family < creations history := by
  induction history generalizing name with
  | nil => cases h
  | cons operation earlier ih =>
    cases operation with
    | create created =>
      unfold origin? at h
      unfold creations
      split_ifs at h
      · cases h
        omega
      · have := ih h
        omega
    | share shared source =>
      unfold origin? at h
      unfold creations
      split_ifs at h
      · exact ih h
      · exact ih h
    | register name type handler => exact ih h
    | isRegistered name type => exact ih h
    | dispatch name packet => exact ih h

theorem registrations_of_le {history : History} {family : Nat} (h : creations history ≤ family)
    (type : MessageType) : registrations family type history = [] := by
  induction history with
  | nil => rfl
  | cons operation earlier ih =>
    cases operation with
    | create name =>
      unfold creations at h
      exact ih (by omega)
    | register name registered handler =>
      unfold registrations
      rw [if_neg fun hname ↦ Nat.not_lt_of_le h (origin?_lt hname.1)]
      exact ih h
    | share name source => exact ih h
    | isRegistered name type => exact ih h
    | dispatch name packet => exact ih h

theorem not_breaks_of_le {history : History} {family : Nat} (h : creations history ≤ family) :
    ¬ Breaks family history := by
  intro hbreaks
  obtain ⟨name, type, handler, earlier, rfl, hname, -⟩ := exists_of_breaks hbreaks
  exact Nat.not_lt_of_le h (origin?_lt hname)

theorem creations_le_cons (operation : Operation) (earlier : History) :
    creations earlier ≤ creations (operation :: earlier) := by
  cases operation with
  | create name => exact Nat.le_succ _
  | share name source => exact Nat.le_refl _
  | register name type handler => exact Nat.le_refl _
  | isRegistered name type => exact Nat.le_refl _
  | dispatch name packet => exact Nat.le_refl _

theorem not_broken_of_le {history : History} {family : Nat} (h : creations history ≤ family) :
    ¬ Broken family history := by
  induction history with
  | nil => exact not_broken_nil family
  | cons operation earlier ih =>
    rw [broken_cons_iff, not_or]
    exact ⟨not_breaks_of_le h, ih ((creations_le_cons operation earlier).trans h)⟩

/-! ### The table of a family from one operation to the next -/

variable {history : History} {family : Nat} {name : String} {table : HandlerTable}

theorem table?_of_le (h : creations history ≤ family) : history.table? family = none :=
  if_neg (Nat.not_lt_of_le h)

theorem table?_of_broken (hfamily : family < creations history) (h : Broken family history) :
    history.table? family = some .poisoned := by
  unfold table?
  rw [if_pos hfamily, if_pos h]

theorem table?_of_not_broken (hfamily : family < creations history) (h : ¬ Broken family history) :
    history.table? family = some (.open (slot? history family)) := by
  unfold table?
  rw [if_pos hfamily, if_neg h]

theorem lt_creations_of_table? (h : history.table? family = some table) :
    family < creations history := by
  by_contra hfamily
  rw [table?_of_le (Nat.le_of_not_lt hfamily)] at h
  cases h

/-- An operation that leaves the family alone. -/
theorem table?_cons {operation : Operation}
    (hcreations : creations (operation :: history) = creations history)
    (hbreaks : ¬ Breaks family (operation :: history))
    (hslot : slot? (operation :: history) family = slot? history family) :
    History.table? (operation :: history) family = history.table? family := by
  unfold table?
  rw [hcreations, hslot]
  simp only [broken_cons_iff, hbreaks, false_or]

/-- An operation that changes the table of one family. -/
theorem table?_cons_on {operation : Operation} {index : Nat} (change : HandlerTable → HandlerTable)
    (hcreations : creations (operation :: history) = creations history)
    (hpoisoned : change .poisoned = .poisoned)
    (hbreaks : Breaks index (operation :: history) →
      change (.open (slot? history index)) = .poisoned)
    (hcalm : ¬ Breaks index (operation :: history) →
      change (.open (slot? history index)) = .open (slot? (operation :: history) index))
    (hothers : ∀ other, other ≠ index → ¬ Breaks other (operation :: history) ∧
      slot? (operation :: history) other = slot? history other)
    (htable : history.table? index = some table) :
    History.table? (operation :: history) family =
      if family = index then some (change table) else history.table? family := by
  split_ifs with hfamily
  · subst hfamily
    have hbefore := lt_creations_of_table? htable
    have hlt : family < creations (operation :: history) := hcreations ▸ hbefore
    by_cases hbroken : Broken family history
    · rw [table?_of_broken hbefore hbroken] at htable
      cases htable
      rw [hpoisoned]
      exact table?_of_broken hlt (broken_cons_iff.mpr (.inr hbroken))
    · rw [table?_of_not_broken hbefore hbroken] at htable
      cases htable
      by_cases hnow : Breaks family (operation :: history)
      · rw [hbreaks hnow]
        exact table?_of_broken hlt (broken_cons_iff.mpr (.inl hnow))
      · rw [hcalm hnow]
        exact table?_of_not_broken hlt (broken_cons_iff.not.mpr (not_or.mpr ⟨hnow, hbroken⟩))
  · obtain ⟨hapart, hslot⟩ := hothers family hfamily
    exact table?_cons hcreations hapart hslot

theorem table?_create (name : String) (history : History) (family : Nat) :
    History.table? (.create name :: history) family =
      if family = creations history then some .empty else history.table? family := by
  have hbroken : Broken family (.create name :: history) ↔ Broken family history := by
    rw [broken_cons_iff]
    exact or_iff_right id
  split_ifs with hfamily
  · subst hfamily
    rw [table?_of_not_broken (Nat.lt_succ_self _)
      (hbroken.not.mpr (not_broken_of_le (Nat.le_refl _)))]
    unfold HandlerTable.empty slot?
    congr 2
    funext type
    change ((registrations _ type history).head?.map _) = none
    rw [registrations_of_le (Nat.le_refl _)]
    rfl
  · have hlt : family < creations history + 1 ↔ family < creations history := by omega
    unfold table?
    simp only [creations, hlt, hbroken]
    rfl

theorem slot?_register_of_ne {type other : MessageType} {handler : Handler}
    (h : ¬ (origin? history name = some family ∧ type = other)) :
    slot? (.register name type handler :: history) family other = slot? history family other := by
  have hregistrations : registrations family other (.register name type handler :: history) =
      registrations family other history := if_neg h
  have hserved : served family other (.register name type handler :: history) =
      served family other history := if_neg h
  unfold slot?
  rw [hregistrations, hserved]

theorem slot?_register {type : MessageType} {handler : Handler}
    (hname : origin? history name = some family) :
    slot? (.register name type handler :: history) family =
      HandlerTable.install type { handler } (slot? history family) := by
  funext other
  unfold HandlerTable.install
  split_ifs with hother
  · have h : origin? history name = some family ∧ type = other := ⟨hname, hother.symm⟩
    unfold slot? registrations served
    rw [if_pos h, if_pos h]
    rfl
  · exact slot?_register_of_ne fun h ↦ hother h.2.symm

theorem breaks_register_iff {type : MessageType} {handler : Handler}
    (hname : origin? history name = some family) :
    Breaks family (.register name type handler :: history) ↔
      ((slot? history family type).any fun slot ↦ slot.handler.panicsWhenReplaced) = true := by
  unfold Breaks slot?
  rw [Option.any_map, Option.any_eq_true]
  exact and_iff_right hname

theorem table?_register {type : MessageType} {handler : Handler} {index : Nat}
    (hname : origin? history name = some index) (htable : history.table? index = some table) :
    History.table? (.register name type handler :: history) family =
      if family = index then some (table.register type handler).2 else history.table? family := by
  refine table?_cons_on (fun table ↦ (table.register type handler).2) rfl rfl (fun hbreaks ↦ ?_)
    (fun hcalm ↦ ?_) (fun other hother ↦ ?_) htable
  · rw [HandlerTable.register_of_panics ((breaks_register_iff hname).mp hbreaks)]
  · rw [HandlerTable.register_of_calm ((breaks_register_iff hname).not.mp hcalm),
      slot?_register hname]
  · have hapart : origin? history name ≠ some other := by
      rw [hname]
      exact fun h ↦ hother (Option.some.inj h).symm
    exact ⟨fun h ↦ hapart h.1, funext fun type ↦ slot?_register_of_ne fun h ↦ hapart h.1⟩

theorem slot?_dispatch_of_ne {packet : Packet} {other : MessageType}
    (h : ¬ (origin? history name = some family ∧ packet.type = other)) :
    slot? (.dispatch name packet :: history) family other = slot? history family other := by
  have hserved : served family other (.dispatch name packet :: history) =
      served family other history := if_neg h
  unfold slot?
  rw [hserved]
  rfl

theorem slot?_dispatch {packet : Packet} (hname : origin? history name = some family) :
    slot? (.dispatch name packet :: history) family =
      HandlerTable.counted packet.type (slot? history family) := by
  funext other
  by_cases hother : other = packet.type
  · have hserved : served family other (.dispatch name packet :: history) =
        served family other history + 1 := if_pos ⟨hname, hother.symm⟩
    unfold HandlerTable.counted slot?
    rw [hserved, Option.map_map]
    simp only [if_pos hother, Function.comp_def]
    rfl
  · rw [slot?_dispatch_of_ne fun h ↦ hother h.2.symm, HandlerTable.counted_of_ne hother]

theorem table?_dispatch {packet : Packet} {index : Nat}
    (hname : origin? history name = some index) (htable : history.table? index = some table) :
    History.table? (.dispatch name packet :: history) family =
      if family = index then some (table.dispatch packet).table else history.table? family := by
  refine table?_cons_on (fun table ↦ (table.dispatch packet).table) rfl rfl False.elim (fun _ ↦ ?_)
    (fun other hother ↦ ?_) htable
  · rw [HandlerTable.dispatch_open, slot?_dispatch hname]
  · have hapart : origin? history name ≠ some other := by
      rw [hname]
      exact fun h ↦ hother (Option.some.inj h).symm
    exact ⟨id, funext fun type ↦ slot?_dispatch_of_ne fun h ↦ hapart h.1⟩

end History

/-! ### The pool after a history -/

namespace Pool

variable {name : String} {type : MessageType} {handler : Handler} {packet : Packet}
  {pool later : Pool} {history : History} {index : Nat} {table : HandlerTable}

/-- A reply is computed from the number and the table that the name stands for. -/
theorem reply_eq_some_iff {β : Type} {compute : Nat → HandlerTable → β} {reply : β} :
    ((pool.index? name).bind fun index ↦
        pool.tables[index]?.bind fun table ↦ some (compute index table)) = some reply ↔
      ∃ index table, pool.index? name = some index ∧ pool.tables[index]? = some table ∧
        reply = compute index table := by
  constructor
  · intro h
    obtain ⟨index, hname, h⟩ := Option.bind_eq_some_iff.mp h
    obtain ⟨table, htable, h⟩ := Option.bind_eq_some_iff.mp h
    exact ⟨index, table, hname, htable, (Option.some.inj h).symm⟩
  · rintro ⟨index, table, hname, htable, rfl⟩
    rw [hname, Option.bind_some, htable, Option.bind_some]

theorem register_eq_some_iff {reply : Registration × Pool} :
    pool.register name type handler = some reply ↔
      ∃ index table, pool.index? name = some index ∧ pool.tables[index]? = some table ∧
        reply = ((table.register type handler).1,
          pool.setTable index (table.register type handler).2) :=
  reply_eq_some_iff

theorem dispatch_eq_some_iff
    {reply : Except ProtocolError (Option Packet) × List Log.Event × Pool} :
    pool.dispatch name packet = some reply ↔
      ∃ index table, pool.index? name = some index ∧ pool.tables[index]? = some table ∧
        reply = ((table.dispatch packet).answer, (table.dispatch packet).events,
          pool.setTable index (table.dispatch packet).table) :=
  reply_eq_some_iff

theorem isRegistered?_eq_some_iff {answer : Bool} :
    pool.isRegistered? name type = some answer ↔
      ∃ index table, pool.index? name = some index ∧ pool.tables[index]? = some table ∧
        answer = table.isRegistered type :=
  reply_eq_some_iff

theorem index?_cons (other : String) (tables : List HandlerTable) (names : List (String × Nat)) :
    index? other ⟨tables, (name, index) :: names⟩ =
      if other = name then some index else index? other ⟨tables, names⟩ := by
  unfold index?
  split_ifs with hother
  · rw [hother]
    exact List.lookup_cons_self
  · rw [List.lookup_cons, beq_false_of_ne hother]

theorem getElem?_create (name : String) (pool : Pool) (family : Nat) :
    (pool.create name).tables[family]? =
      if family = pool.tables.length then some .empty else pool.tables[family]? := by
  unfold create
  split_ifs with hfamily
  · rw [hfamily, List.getElem?_concat_length]
  · rw [List.getElem?_append]
    split_ifs with hlt
    · rfl
    · have hlength := List.length_singleton (a := HandlerTable.empty)
      rw [List.getElem?_eq_none (by omega), List.getElem?_eq_none (by omega)]

theorem getElem?_setTable (hlt : index < pool.tables.length) (family : Nat) :
    (pool.setTable index table).tables[family]? =
      if family = index then some table else pool.tables[family]? := by
  unfold setTable
  rw [List.getElem?_set]
  simp only [if_pos hlt, eq_comm]

/-- The tables and the names of the pool are those of its history. -/
structure Records (history : History) (pool : Pool) : Prop where
  names : ∀ name, pool.index? name = history.origin? name
  count : pool.tables.length = history.creations
  tables : ∀ family, pool.tables[family]? = history.table? family

namespace Records

/-- A name of the pool goes back to a table of the pool. -/
theorem exists_table (h : Records history pool) (hname : history.origin? name = some index) :
    ∃ table, pool.tables[index]? = some table := by
  have hlt := History.origin?_lt hname
  rw [← h.count] at hlt
  exact ⟨_, List.getElem?_eq_getElem hlt⟩

theorem create (h : Records history pool) :
    Records (.create name :: history) (pool.create name) where
  names other := by
    unfold Pool.create History.origin?
    rw [index?_cons, h.count, ← h.names]
    rfl
  count := by
    unfold Pool.create History.creations
    rw [List.length_append, h.count]
    rfl
  tables family := by
    rw [getElem?_create, History.table?_create, h.count, h.tables]

theorem share {source : String} (h : Records history pool)
    (hlater : pool.share name source = some later) :
    Records (.share name source :: history) later := by
  obtain ⟨index, hindex, hlater⟩ := Option.bind_eq_some_iff.mp hlater
  cases hlater
  refine ⟨fun other ↦ ?_, h.count, fun family ↦ ?_⟩
  · unfold History.origin?
    rw [index?_cons, ← hindex, ← h.names, ← h.names]
  · rw [h.tables, History.table?_cons rfl id rfl]

/-- An operation that keeps the names and puts `table` in the place of an old one. -/
theorem setTable {operation : Operation} (h : Records history pool)
    (hname : history.origin? name = some index)
    (hnames : ∀ other, History.origin? (operation :: history) other = history.origin? other)
    (hcount : History.creations (operation :: history) = history.creations)
    (htables : ∀ family, History.table? (operation :: history) family =
      if family = index then some table else history.table? family) :
    Records (operation :: history) (pool.setTable index table) where
  names other := (h.names other).trans (hnames other).symm
  count := by
    unfold Pool.setTable
    rw [List.length_set, h.count, hcount]
  tables family := by
    have hlt := History.origin?_lt hname
    rw [← h.count] at hlt
    rw [getElem?_setTable hlt, htables, h.tables]

theorem register (h : Records history pool) (hname : history.origin? name = some index)
    (htable : pool.tables[index]? = some table) :
    Records (.register name type handler :: history)
      (pool.setTable index (table.register type handler).2) :=
  h.setTable hname (fun _ ↦ rfl) rfl fun _ ↦
    History.table?_register hname ((h.tables index).symm.trans htable)

theorem dispatch (h : Records history pool) (hname : history.origin? name = some index)
    (htable : pool.tables[index]? = some table) :
    Records (.dispatch name packet :: history)
      (pool.setTable index (table.dispatch packet).table) :=
  h.setTable hname (fun _ ↦ rfl) rfl fun _ ↦
    History.table?_dispatch hname ((h.tables index).symm.trans htable)

theorem isRegistered (h : Records history pool) :
    Records (.isRegistered name type :: history) pool :=
  ⟨h.names, h.count, fun family ↦ (h.tables family).trans (History.table?_cons rfl id rfl).symm⟩

theorem act {operation : Operation} (h : Records history pool)
    (hact : pool.act operation = some later) : Records (operation :: history) later := by
  cases operation with
  | create name =>
    cases hact
    exact h.create
  | share name source => exact h.share hact
  | isRegistered name type =>
    obtain ⟨_, _, hlater⟩ := Option.map_eq_some_iff.mp hact
    cases hlater
    exact h.isRegistered
  | register name type handler =>
    obtain ⟨reply, hreply, rfl⟩ := Option.map_eq_some_iff.mp hact
    obtain ⟨index, table, hname, htable, rfl⟩ := register_eq_some_iff.mp hreply
    exact h.register ((h.names name).symm.trans hname) htable
  | dispatch name packet =>
    obtain ⟨reply, hreply, rfl⟩ := Option.map_eq_some_iff.mp hact
    obtain ⟨index, table, hname, htable, rfl⟩ := dispatch_eq_some_iff.mp hreply
    exact h.dispatch ((h.names name).symm.trans hname) htable

end Records

theorem records_of_after (h : after history = some pool) : Records history pool := by
  induction history generalizing pool with
  | nil =>
    cases h
    exact ⟨fun _ ↦ rfl, rfl, fun _ ↦ rfl⟩
  | cons operation earlier ih =>
    obtain ⟨before, hbefore, hact⟩ := Option.bind_eq_some_iff.mp h
    exact (ih hbefore).act hact

end Pool

end PeerLink.Dispatch
