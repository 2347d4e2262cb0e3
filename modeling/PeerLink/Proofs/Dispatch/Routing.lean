import PeerLink.Proofs.Dispatch.Lineage

/-!
Where packets go when no handler panics at being replaced. A dispatcher calls the handler that was
registered last for the type of the packet in its family, once, and hands its answer on
(`History.answer`). Registrations succeed, and they and the calls leave everything else in the pool
alone (`routes_of_after`).
-/

set_option autoImplicit false
set_option relaxedAutoImplicit false

namespace PeerLink.Dispatch

namespace History

/-- No handler panics at being replaced. -/
def Calm (history : History) : Prop :=
  ∀ name type handler, .register name type handler ∈ history → handler.panicsWhenReplaced = false

/-- The answer of the newest handler of the family, which so many packets reached before. -/
def answer (history : History) (family : Nat) (packet : Packet) :
    Except ProtocolError (Option Packet) :=
  match (registrations family packet.type history).head? with
  | none => .error (.unexpectedMessage packet.type)
  | some handler => handler.answer (served family packet.type history + 1) packet

/-- A registration for `type` through some dispatcher of the family succeeded. -/
def Accepted (family : Nat) (type : MessageType) (history : History) : Prop :=
  ∃ name handler earlier before later,
    (.register name type handler :: earlier) <:+ history ∧ origin? earlier name = some family ∧
      Pool.after earlier = some before ∧
      before.register name type handler = some (.registered, later)

variable {history : History} {family : Nat} {name : String} {type : MessageType}
  {handler : Handler} {packet : Packet}

theorem mem_registrations_cons_iff {operation : Operation} :
    handler ∈ registrations family type (operation :: history) ↔
      (∃ name, operation = .register name type handler ∧ origin? history name = some family) ∨
        handler ∈ registrations family type history := by
  cases operation with
  | register name registered given =>
    change handler ∈ (if _ then given :: registrations family type history else _) ↔ _
    split_ifs with h
    · obtain ⟨hname, rfl⟩ := h
      rw [List.mem_cons]
      refine or_congr_left ⟨?_, ?_⟩
      · rintro rfl
        exact ⟨name, rfl, hname⟩
      · rintro ⟨other, hother, -⟩
        cases hother
        rfl
    · refine (or_iff_right ?_).symm
      rintro ⟨other, hother, hname⟩
      cases hother
      exact h ⟨hname, rfl⟩
  | create name => exact (or_iff_right fun ⟨_, h, _⟩ ↦ nomatch h).symm
  | share name source => exact (or_iff_right fun ⟨_, h, _⟩ ↦ nomatch h).symm
  | isRegistered name type => exact (or_iff_right fun ⟨_, h, _⟩ ↦ nomatch h).symm
  | dispatch name packet => exact (or_iff_right fun ⟨_, h, _⟩ ↦ nomatch h).symm

theorem mem_registrations_iff : handler ∈ registrations family type history ↔
    ∃ name earlier, (.register name type handler :: earlier) <:+ history ∧
      origin? earlier name = some family := by
  induction history with
  | nil => simp only [registrations, List.not_mem_nil, List.suffix_nil, reduceCtorEq, false_and,
      exists_false]
  | cons operation rest ih =>
    rw [mem_registrations_cons_iff, ih]
    constructor
    · rintro (⟨name, rfl, hname⟩ | ⟨name, earlier, hsuffix, hname⟩)
      · exact ⟨name, rest, List.suffix_rfl, hname⟩
      · exact ⟨name, earlier, hsuffix.trans (List.suffix_cons _ _), hname⟩
    · rintro ⟨name, earlier, hsuffix, hname⟩
      obtain heq | hsuffix := List.suffix_cons_iff.mp hsuffix
      · cases heq
        exact .inl ⟨name, rfl, hname⟩
      · exact .inr ⟨name, earlier, hsuffix, hname⟩

theorem Calm.of_suffix {earlier : History} (h : Calm history) (hsuffix : earlier <:+ history) :
    Calm earlier :=
  fun name type handler hmem ↦ h name type handler (hsuffix.subset hmem)

theorem Calm.not_breaks_cons (h : Calm history) (family : Nat) (operation : Operation) :
    ¬ Breaks family (operation :: history) := by
  intro hbreaks
  obtain ⟨name, type, handler, earlier, heq, -, replaced, hreplaced, hpanics⟩ :=
    exists_of_breaks hbreaks
  cases heq
  obtain ⟨other, before, hbefore, -⟩ := mem_registrations_iff.mp hreplaced
  rw [h _ _ _ (hbefore.subset List.mem_cons_self)] at hpanics
  cases hpanics

theorem Calm.not_broken (h : Calm history) (family : Nat) : ¬ Broken family history := by
  induction history with
  | nil => exact not_broken_nil family
  | cons operation earlier ih =>
    rw [broken_cons_iff, not_or]
    have hearlier := h.of_suffix (List.suffix_cons _ _)
    exact ⟨hearlier.not_breaks_cons family operation, ih hearlier⟩

/-! ### What an unbroken family answers -/

theorem dispatch_slot? (history : History) (family : Nat) (packet : Packet) :
    HandlerTable.dispatch packet (.open (slot? history family)) =
      ⟨history.answer family packet,
        .open (HandlerTable.counted packet.type (slot? history family)),
        [HandlerTable.dispatchNotice packet.type]⟩ := by
  rw [← HandlerTable.dispatch_open]
  unfold answer slot? HandlerTable.dispatch
  cases hnewest : (registrations family packet.type history).head? <;> simp only [hnewest]
  · rfl
  · rfl

theorem isRegistered_slot?_iff : HandlerTable.isRegistered type (.open (slot? history family)) ↔
    ∃ handler, handler ∈ registrations family type history := by
  change ((registrations family type history).head?.map _).isSome = true ↔ _
  rw [Option.isSome_map, List.isSome_head?]
  exact ⟨List.exists_mem_of_ne_nil _, fun ⟨_, hmem⟩ ↦ List.ne_nil_of_mem hmem⟩

end History

namespace Pool

variable {history : History} {family : Nat} {name : String} {type : MessageType}
  {handler : Handler} {packet : Packet} {pool : Pool}

theorem exists_after_of_suffix {earlier : History} (h : after history = some pool)
    (hsuffix : earlier <:+ history) : ∃ before, after earlier = some before := by
  induction history generalizing pool with
  | nil =>
    rw [List.suffix_nil.mp hsuffix]
    exact ⟨pool, h⟩
  | cons operation rest ih =>
    obtain rfl | hsuffix := List.suffix_cons_iff.mp hsuffix
    · exact ⟨pool, h⟩
    · obtain ⟨before, hbefore, -⟩ := Option.bind_eq_some_iff.mp h
      exact ih hbefore hsuffix

/-- The pool holds the table of an unbroken family open. -/
theorem tables_of_not_broken (h : after history = some pool)
    (hname : history.origin? name = some family) (hbroken : ¬ history.Broken family) :
    pool.tables[family]? = some (.open (history.slot? family)) :=
  ((records_of_after h).tables family).trans
    (History.table?_of_not_broken (History.origin?_lt hname) hbroken)

theorem register_of_calm (h : after history = some pool) (hcalm : history.Calm)
    (hname : history.origin? name = some family) (type : MessageType) (handler : Handler) :
    pool.register name type handler =
      some (.registered, pool.setTable family
        (.open (HandlerTable.install type { handler } (history.slot? family)))) := by
  have hbreaks := hcalm.not_breaks_cons family (.register name type handler)
  rw [History.breaks_register_iff hname] at hbreaks
  refine register_eq_some_iff.mpr ⟨family, _, ((records_of_after h).names name).trans hname,
    tables_of_not_broken h hname (hcalm.not_broken family), ?_⟩
  rw [HandlerTable.register_of_calm hbreaks]

theorem accepted_iff (h : after history = some pool) (hcalm : history.Calm) :
    history.Accepted family type ↔ ∃ handler, handler ∈ history.registrations family type := by
  simp only [History.mem_registrations_iff]
  constructor
  · rintro ⟨name, handler, earlier, -, -, hsuffix, hname, -, -⟩
    exact ⟨handler, name, earlier, hsuffix, hname⟩
  · rintro ⟨handler, name, earlier, hsuffix, hname⟩
    have hearlier := (List.suffix_cons _ _).trans hsuffix
    obtain ⟨before, hbefore⟩ := exists_after_of_suffix h hearlier
    exact ⟨name, handler, earlier, before, _, hsuffix, hname, hbefore,
      register_of_calm hbefore (hcalm.of_suffix hearlier) hname type handler⟩

/-- Whatever was created, cloned, registered and dispatched before, a dispatcher answers each packet
with one call of the newest handler that its family has for the type, or with the error for types
without a handler, and nothing but the count of that call changes. A type is registered in a family
exactly if some registration for it succeeded there. Registrations succeed, and change what is
installed for their own type in their own family only. -/
theorem routes_of_after (h : after history = some pool) (hcalm : history.Calm)
    (hname : history.origin? name = some family) :
    pool.tables[family]? = some (.open (history.slot? family)) ∧
      (∀ packet, pool.dispatch name packet =
        some (history.answer family packet, [HandlerTable.dispatchNotice packet.type],
          pool.setTable family
            (.open (HandlerTable.counted packet.type (history.slot? family))))) ∧
      (∀ type, ∃ answer, pool.isRegistered? name type = some answer ∧
        (answer = true ↔ history.Accepted family type)) ∧
      ∀ type handler, pool.register name type handler =
        some (.registered, pool.setTable family
          (.open (HandlerTable.install type { handler } (history.slot? family)))) := by
  have hindex := ((records_of_after h).names name).trans hname
  have htable := tables_of_not_broken h hname (hcalm.not_broken family)
  refine ⟨htable, fun packet ↦ ?_, fun type ↦ ?_, register_of_calm h hcalm hname⟩
  · rw [dispatch_eq_some_iff]
    refine ⟨family, _, hindex, htable, ?_⟩
    rw [History.dispatch_slot?]
  · refine ⟨_, isRegistered?_eq_some_iff.mpr ⟨family, _, hindex, htable, rfl⟩, ?_⟩
    rw [History.isRegistered_slot?_iff, accepted_iff h hcalm]

/-- A clone that takes over its table's type, and a dispatcher of another family. -/
def takeover : History :=
  [.register "apart" .ok .echo, .create "apart", .dispatch "first" (.ok []),
    .register "clone" .ok .counting, .share "clone" "first", .register "first" .ok .silent,
    .create "first"]

theorem routes_of_after_takeover :
    ∃ pool, after takeover = some pool ∧ takeover.Calm ∧ takeover.origin? "first" = some 0 ∧
      ∃ later, pool.dispatch "first" (.ok []) =
        some (.ok (some (.ok [50])), [HandlerTable.dispatchNotice .ok], later) := by
  have hcalm : takeover.Calm := by
    intro name type handler hmem
    simp only [takeover, List.mem_cons, reduceCtorEq, Operation.register.injEq, false_or,
      List.not_mem_nil, or_false] at hmem
    obtain ⟨-, -, rfl⟩ | ⟨-, -, rfl⟩ | ⟨-, -, rfl⟩ := hmem
    · rfl
    · rfl
    · rfl
  have hafter : (after takeover).isSome := by rfl
  obtain ⟨pool, hpool⟩ := Option.isSome_iff_exists.mp hafter
  have hname : takeover.origin? "first" = some 0 := by rfl
  have hanswer : takeover.answer 0 (.ok []) = .ok (some (.ok [50])) := by rfl
  have hdispatch := (routes_of_after hpool hcalm hname).2.1 (.ok [])
  rw [hanswer] at hdispatch
  exact ⟨pool, hpool, hcalm, hname, _, hdispatch⟩

end Pool

end PeerLink.Dispatch
