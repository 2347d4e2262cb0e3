import PeerLink.Proofs.Dispatch.Lineage

/-!
What a handler does that panics at being replaced. The first registration that replaces one poisons
the table of its family, for good: through no dispatcher of the family can a handler be registered
or reached any more. For the other families it is as if no handler had panicked there
(`History.calmed`), and nothing but a registration poisons a table (`contained_of_after`).
-/

set_option autoImplicit false
set_option relaxedAutoImplicit false

namespace PeerLink.Dispatch

/-- The operation with a handler that does not panic, if it registers one in the family. -/
def Operation.calmed (family : Nat) (earlier : History) : Operation → Operation
  | .register name type handler =>
    if earlier.origin? name = some family then
      .register name type { handler with panicsWhenReplaced := false }
    else .register name type handler
  | operation => operation

/-- The history in which no handler of the family panics. -/
def History.calmed (family : Nat) : History → History
  | [] => []
  | operation :: earlier => operation.calmed family earlier :: calmed family earlier

/-! ### A pool beside one in which a family has not panicked -/

/-- No installed handler panics, and none did. -/
def HandlerTable.IsHarmless : HandlerTable → Prop
  | .open slots => ∀ type slot, slots type = some slot → slot.handler.panicsWhenReplaced = false
  | .poisoned => False

namespace HandlerTable.IsHarmless

variable {table : HandlerTable} {type : MessageType} {handler : Handler}

theorem register (h : table.IsHarmless) (hhandler : handler.panicsWhenReplaced = false) :
    (table.register type handler).2.IsHarmless := by
  cases table with
  | poisoned => exact h
  | «open» slots =>
    have hcalm : ¬ (slots type).any (fun slot ↦ slot.handler.panicsWhenReplaced) = true := by
      rw [Option.any_eq_true]
      rintro ⟨slot, hslot, hpanics⟩
      rw [h type slot hslot] at hpanics
      cases hpanics
    rw [register_of_calm hcalm]
    intro other slot hslot
    unfold install at hslot
    split_ifs at hslot
    · cases hslot
      exact hhandler
    · exact h other slot hslot

theorem dispatch (h : table.IsHarmless) (packet : Packet) :
    (table.dispatch packet).table.IsHarmless := by
  cases table with
  | poisoned => exact h
  | «open» slots =>
    rw [dispatch_open]
    intro other slot hslot
    obtain ⟨before, hbefore, rfl⟩ := Option.map_eq_some_iff.mp hslot
    have hharmless := h other before hbefore
    split_ifs
    · exact hharmless
    · exact hharmless

end HandlerTable.IsHarmless

namespace Pool

variable {family : Nat} {pool calm later : Pool} {index : Nat} {table : HandlerTable}
  {history : History}

/-- `calm` is `pool` apart from the table of the family, which is harmless. -/
structure Beside (family : Nat) (pool calm : Pool) : Prop where
  names : calm.names = pool.names
  count : calm.tables.length = pool.tables.length
  tables : ∀ other, other ≠ family → calm.tables[other]? = pool.tables[other]?
  harmless : ∀ table, calm.tables[family]? = some table → table.IsHarmless

namespace Beside

theorem index? (h : Beside family pool calm) (name : String) :
    calm.index? name = pool.index? name := by
  unfold Pool.index?
  rw [h.names]

theorem exists_table (h : Beside family pool calm) (htable : pool.tables[index]? = some table) :
    ∃ harmless, calm.tables[index]? = some harmless ∧ (index ≠ family → harmless = table) ∧
      (index = family → harmless.IsHarmless) := by
  obtain ⟨hlt, -⟩ := List.getElem?_eq_some_iff.mp htable
  rw [← h.count] at hlt
  have hcalm := List.getElem?_eq_getElem hlt
  refine ⟨_, hcalm, fun hother ↦ ?_, fun hfamily ↦ ?_⟩
  · rw [h.tables index hother, htable] at hcalm
    exact (Option.some.inj hcalm).symm
  · subst hfamily
    exact h.harmless _ hcalm

theorem create (h : Beside family pool calm) (name : String) :
    Beside family (pool.create name) (calm.create name) where
  names := by
    unfold Pool.create
    rw [h.names, h.count]
  count := by
    unfold Pool.create
    rw [List.length_append, List.length_append, h.count]
  tables other hother := by
    rw [getElem?_create, getElem?_create, h.count, h.tables other hother]
  harmless := by
    intro table htable
    rw [getElem?_create] at htable
    split_ifs at htable
    · cases htable
      exact fun _ _ hslot ↦ nomatch hslot
    · exact h.harmless table htable

theorem share {name source : String} (h : Beside family pool calm)
    (hlater : pool.share name source = some later) :
    ∃ calmer, calm.share name source = some calmer ∧ Beside family later calmer := by
  obtain ⟨index, hindex, hlater⟩ := Option.bind_eq_some_iff.mp hlater
  cases hlater
  rw [← h.index?] at hindex
  exact ⟨_, Option.bind_eq_some_iff.mpr ⟨index, hindex, rfl⟩,
    congrArg ((name, index) :: ·) h.names, h.count, h.tables, h.harmless⟩

theorem setTable {harmless : HandlerTable} (h : Beside family pool calm)
    (hlt : index < pool.tables.length) (hsame : index ≠ family → harmless = table)
    (hharmless : index = family → harmless.IsHarmless) :
    Beside family (pool.setTable index table) (calm.setTable index harmless) where
  names := h.names
  count := by
    unfold Pool.setTable
    rw [List.length_set, List.length_set, h.count]
  tables other hother := by
    rw [getElem?_setTable hlt, getElem?_setTable (h.count.symm ▸ hlt), h.tables other hother]
    split_ifs with hindex
    · rw [hsame (hindex ▸ hother)]
    · rfl
  harmless := by
    intro set hset
    rw [getElem?_setTable (h.count.symm ▸ hlt)] at hset
    split_ifs at hset with hindex
    · cases hset
      exact hharmless hindex.symm
    · exact h.harmless set hset

/-- An operation on the one pool goes through on the other, calmed. -/
theorem act {operation : Operation} (h : Beside family pool calm) (hrecords : Records history pool)
    (hact : pool.act operation = some later) :
    ∃ calmer, calm.act (operation.calmed family history) = some calmer ∧
      Beside family later calmer := by
  cases operation with
  | create name =>
    cases hact
    exact ⟨_, rfl, h.create name⟩
  | share name source => exact h.share hact
  | isRegistered name type =>
    obtain ⟨_, hregistered, hlater⟩ := Option.map_eq_some_iff.mp hact
    cases hlater
    obtain ⟨index, table, hname, htable, -⟩ := isRegistered?_eq_some_iff.mp hregistered
    obtain ⟨harmless, hharmless, -, -⟩ := h.exists_table htable
    exact ⟨calm, Option.map_eq_some_iff.mpr ⟨_, isRegistered?_eq_some_iff.mpr
      ⟨index, harmless, (h.index? name).trans hname, hharmless, rfl⟩, rfl⟩, h⟩
  | register name type handler =>
    obtain ⟨reply, hreply, rfl⟩ := Option.map_eq_some_iff.mp hact
    obtain ⟨index, table, hname, htable, rfl⟩ := register_eq_some_iff.mp hreply
    obtain ⟨harmless, hharmless, hsame, hfamily⟩ := h.exists_table htable
    have hlt := (List.getElem?_eq_some_iff.mp htable).1
    have hcalm (given : Handler) : calm.act (.register name type given) =
        some (calm.setTable index (harmless.register type given).2) :=
      Option.map_eq_some_iff.mpr ⟨_, register_eq_some_iff.mpr
        ⟨index, harmless, (h.index? name).trans hname, hharmless, rfl⟩, rfl⟩
    simp only [Operation.calmed, ← hrecords.names, hname]
    split_ifs with hindex
    · cases hindex
      exact ⟨_, hcalm _, h.setTable hlt (fun hother ↦ absurd rfl hother)
        fun _ ↦ (hfamily rfl).register rfl⟩
    · refine ⟨_, hcalm _, h.setTable hlt (fun hother ↦ ?_)
        fun hfamily ↦ absurd (congrArg some hfamily) hindex⟩
      rw [hsame hother]
  | dispatch name packet =>
    obtain ⟨reply, hreply, rfl⟩ := Option.map_eq_some_iff.mp hact
    obtain ⟨index, table, hname, htable, rfl⟩ := dispatch_eq_some_iff.mp hreply
    obtain ⟨harmless, hharmless, hsame, hfamily⟩ := h.exists_table htable
    have hlt := (List.getElem?_eq_some_iff.mp htable).1
    refine ⟨_, Option.map_eq_some_iff.mpr ⟨_, dispatch_eq_some_iff.mpr
      ⟨index, harmless, (h.index? name).trans hname, hharmless, rfl⟩, rfl⟩,
      h.setTable hlt (fun hother ↦ ?_) fun hindex ↦ (hfamily hindex).dispatch packet⟩
    rw [hsame hother]

end Beside

theorem exists_calmed (h : after history = some pool) (family : Nat) :
    ∃ calm, after (history.calmed family) = some calm ∧ Beside family pool calm := by
  induction history generalizing pool with
  | nil =>
    cases h
    exact ⟨{}, rfl, rfl, rfl, fun _ _ ↦ rfl, fun _ htable ↦ nomatch htable⟩
  | cons operation earlier ih =>
    obtain ⟨before, hbefore, hact⟩ := Option.bind_eq_some_iff.mp h
    obtain ⟨calm, hcalm, hbeside⟩ := ih hbefore
    obtain ⟨calmer, hcalmer, hlater⟩ := hbeside.act (records_of_after hbefore) hact
    exact ⟨calmer, Option.bind_eq_some_iff.mpr ⟨calm, hcalm, hcalmer⟩, hlater⟩

theorem Beside.table? {name : String} (h : Beside family pool calm)
    (hname : pool.index? name ≠ some family) : calm.table? name = pool.table? name := by
  unfold Pool.table?
  rw [h.index?]
  cases hindex : pool.index? name with
  | none => rfl
  | some index =>
    rw [hindex] at hname
    exact h.tables index fun hfamily ↦ hname (congrArg some hfamily)

/-! ### Poisoned tables -/

variable {name : String} {type : MessageType} {handler : Handler}

theorem poisoned_iff (h : Records history pool) :
    pool.tables[family]? = some .poisoned ↔ history.Broken family := by
  rw [h.tables]
  unfold History.table?
  split_ifs with hlt hbroken
  · exact iff_of_true rfl hbroken
  · exact iff_of_false nofun hbroken
  · exact iff_of_false nofun (History.not_broken_of_le (Nat.le_of_not_lt hlt))

theorem poisoned_act_iff {operation : Operation} (h : Records history pool)
    (hoperation : ∀ name type handler, operation ≠ .register name type handler)
    (hact : pool.act operation = some later) :
    later.tables[family]? = some .poisoned ↔ pool.tables[family]? = some .poisoned := by
  rw [poisoned_iff h, poisoned_iff (h.act hact), History.broken_cons_iff]
  refine or_iff_right fun hbreaks ↦ ?_
  obtain ⟨name, type, handler, earlier, heq, -⟩ := History.exists_of_breaks hbreaks
  cases heq
  exact hoperation name type handler rfl

theorem panicked_iff (h : Records history pool) (hname : history.origin? name = some family) :
    ∃ outcome later, pool.register name type handler = some (outcome, later) ∧
      (outcome = .panicked ↔ ¬ history.Broken family ∧
        History.Breaks family (.register name type handler :: history)) := by
  obtain ⟨table, htable⟩ := h.exists_table hname
  refine ⟨_, _, register_eq_some_iff.mpr
    ⟨family, table, (h.names name).trans hname, htable, rfl⟩, ?_⟩
  have hlt := History.origin?_lt hname
  rw [h.tables] at htable
  by_cases hbroken : history.Broken family
  · rw [History.table?_of_broken hlt hbroken] at htable
    cases htable
    exact iff_of_false nofun fun hfirst ↦ hfirst.1 hbroken
  · rw [History.table?_of_not_broken hlt hbroken] at htable
    cases htable
    rw [History.breaks_register_iff hname]
    by_cases hpanics : ((history.slot? family type).any
      fun slot ↦ slot.handler.panicsWhenReplaced) = true
    · rw [HandlerTable.register_of_panics hpanics]
      exact iff_of_true rfl ⟨hbroken, hpanics⟩
    · rw [HandlerTable.register_of_calm hpanics]
      exact iff_of_false nofun fun hfirst ↦ hpanics hfirst.2

/-- Nothing can be registered or reached through the dispatcher, and no handler is called. -/
def Refuses (name : String) (pool : Pool) : Prop :=
  (∀ type handler,
    pool.register name type handler = some (.refused HandlerTable.writeRefusal, pool)) ∧
  (∀ packet, pool.dispatch name packet = some (.error HandlerTable.readRefusal, [], pool)) ∧
  ∀ type, pool.isRegistered? name type = some false

theorem setTable_self (h : pool.tables[index]? = some table) :
    pool.setTable index table = pool := by
  obtain ⟨hlt, rfl⟩ := List.getElem?_eq_some_iff.mp h
  unfold setTable
  rw [List.set_getElem_self]

theorem refuses_of_broken (h : Records history pool) (hname : history.origin? name = some family)
    (hbroken : history.Broken family) : pool.Refuses name := by
  have hindex := (h.names name).trans hname
  have htable := (poisoned_iff h).mpr hbroken
  refine ⟨fun type handler ↦ ?_, fun packet ↦ ?_, fun type ↦ ?_⟩
  · refine register_eq_some_iff.mpr ⟨family, _, hindex, htable, ?_⟩
    exact congrArg (Prod.mk _) (setTable_self htable).symm
  · refine dispatch_eq_some_iff.mpr ⟨family, _, hindex, htable, ?_⟩
    exact congrArg (fun later ↦ (_, _, later)) (setTable_self htable).symm
  · exact isRegistered?_eq_some_iff.mpr ⟨family, _, hindex, htable, rfl⟩

/-- After every history the poisoned tables are those of the families in which a registration has
replaced a handler that panics at that, and the first such registration is the one that panics.
From then on every dispatcher of the family refuses everything, whatever else is done. The
dispatchers of other families are in the state in which they would be without the panic, and no
operation but a registration poisons a table. -/
theorem contained_of_after (h : after history = some pool) :
    (∀ family, pool.tables[family]? = some .poisoned ↔ history.Broken family) ∧
      (∀ name family type handler, history.origin? name = some family →
        ∃ outcome later, pool.register name type handler = some (outcome, later) ∧
          (outcome = .panicked ↔ ¬ history.Broken family ∧
            History.Breaks family (.register name type handler :: history))) ∧
      (∀ family, history.Broken family → ∀ more later, after (more ++ history) = some later →
        ∀ name, History.origin? (more ++ history) name = some family → later.Refuses name) ∧
      (∀ family, ∃ calm, after (history.calmed family) = some calm ∧
        calm.tables[family]? ≠ some .poisoned ∧
        ∀ name, history.origin? name ≠ some family → calm.table? name = pool.table? name) ∧
      ∀ (operation : Operation) (later : Pool),
        (∀ name type handler, operation ≠ .register name type handler) →
        pool.act operation = some later → ∀ family : Nat,
          later.tables[family]? = some .poisoned ↔ pool.tables[family]? = some .poisoned := by
  have hrecords := records_of_after h
  refine ⟨fun family ↦ poisoned_iff hrecords, fun name family type handler ↦ panicked_iff hrecords,
    fun family hbroken more later hlater name hname ↦ ?_, fun family ↦ ?_,
    fun operation later hoperation hact family ↦ poisoned_act_iff hrecords hoperation hact⟩
  · exact refuses_of_broken (records_of_after hlater) hname (hbroken.append more)
  · obtain ⟨calm, hcalm, hbeside⟩ := exists_calmed h family
    refine ⟨calm, hcalm, hbeside.harmless _, fun name hname ↦ hbeside.table? ?_⟩
    rwa [hrecords.names]

/-- Through a clone a handler is replaced that panics at that. -/
def toppled : History :=
  [.register "clone" .ok .silent, .register "apart" .ok .echo, .create "apart",
    .share "clone" "first", .register "first" .ok .volatile, .create "first"]

theorem contained_of_after_toppled :
    ∃ pool, after toppled = some pool ∧ pool.tables[0]? = some .poisoned ∧
      pool.Refuses "first" ∧ pool.tables[1]? ≠ some .poisoned := by
  have hafter : (after toppled).isSome := by rfl
  obtain ⟨pool, hpool⟩ := Option.isSome_iff_exists.mp hafter
  have hbroken : toppled.Broken 0 := by decide
  have hname : toppled.origin? "first" = some 0 := by rfl
  have happart : ¬ toppled.Broken 1 := by decide
  obtain ⟨hpoisoned, -, hrefuses, -⟩ := contained_of_after hpool
  exact ⟨pool, hpool, (hpoisoned 0).mpr hbroken, hrefuses 0 hbroken [] pool hpool "first" hname,
    (hpoisoned 1).not.mpr happart⟩

end Pool

end PeerLink.Dispatch
