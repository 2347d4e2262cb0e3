import PeerLink.Proofs.Toml.Atoms
import PeerLink.Toml.Format

/-!
The document of some sections is read back as the table of these sections. Line by line, the reader
finds the header and the entries that were printed; statement by statement, the table grows by what
they say, because no name and no key comes twice.
-/

set_option autoImplicit false
set_option relaxedAutoImplicit false

namespace PeerLink.Toml

open Text (Reader)

theorem Section.Proper.of_cons {part : Section} {others : List Section}
    (h : Section.Proper (part :: others)) : Section.Proper others where
  distinct := (List.nodup_cons.mp h.distinct).2
  bare other hother := h.bare other (List.mem_cons_of_mem _ hother)
  distinctKeys other hother := h.distinctKeys other (List.mem_cons_of_mem _ hother)
  bareKeys other hother := h.bareKeys other (List.mem_cons_of_mem _ hother)

/-! ### Keys -/

theorem IsBare.exists_cons {name : String} (hname : IsBare name) :
    ∃ first others, name.toList = first :: others ∧ isBareChar first = true := by
  obtain ⟨first, others, hfirst⟩ := List.exists_cons_of_ne_nil hname.ne_nil
  exact ⟨first, others, hfirst, hname.forall_mem first (by simp [hfirst])⟩

/-- A text that starts with a bare name does not start with a character that no name holds. -/
theorem IsBare.append_ne_cons {name : String} (hname : IsBare name) {char : Char}
    (hchar : isBareChar char = false) (text rest : List Char) :
    name.toList ++ text ≠ char :: rest := by
  intro heq
  obtain ⟨first, others, hfirst, hbare⟩ := hname.exists_cons
  rw [hfirst, List.cons_append] at heq
  rw [(List.cons.inj heq).1, hchar] at hbare
  contradiction

theorem IsBare.skipBlanks_append {name : String} (hname : IsBare name) (rest : List Char) :
    skipBlanks (name.toList ++ rest) = name.toList ++ rest := by
  obtain ⟨first, others, hfirst, hbare⟩ := hname.exists_cons
  have hblank : isBlank first = false := isBlank_eq_false isBareChar rfl rfl hbare
  rw [hfirst, List.cons_append, skipBlanks, List.dropWhile_cons_of_neg (by simp [hblank])]

theorem IsBare.step_append {name : String} (hname : IsBare name) {behind : Char}
    (hbehind : isBareChar behind = false) (rest : List Char) :
    step (name.toList ++ behind :: rest) = some (name, behind :: rest) := by
  unfold step
  split
  · rename_i heq
    exact absurd heq (hname.append_ne_cons rfl _ _)
  · rename_i heq
    exact absurd heq (hname.append_ne_cons rfl _ _)
  · rw [takeWhile_word hname.forall_mem hbehind, dropWhile_word hname.forall_mem hbehind]
    simp [hname.ne_nil]

/-- A name with blanks and then no dot behind it is a whole key. -/
theorem IsBare.reader_append {name : String} (hname : IsBare name) {behind : Char}
    (hbehind : isBareChar behind = false) {rest : List Char}
    (hdot : (skipBlanks (behind :: rest)).head? ≠ some '.') :
    Key.reader (name.toList ++ behind :: rest) =
      some (⟨[], name⟩, skipBlanks (behind :: rest)) := by
  have hspaced : spacedStep (name.toList ++ behind :: rest) =
      some (name, skipBlanks (behind :: rest)) := by
    rw [spacedStep, hname.skipBlanks_append, hname.step_append hbehind rest]
    rfl
  have hdots : (Reader.skip? ['.'] (skipBlanks (behind :: rest))).bind spacedStep = none := by
    rw [Reader.skip?_eq_none hdot]
    rfl
  unfold Key.reader
  rw [hspaced]
  simp only [Option.bind_eq_bind, Option.bind_some]
  rw [Reader.many_of_none hdots]
  simp [depthLimit]

/-! ### Lines -/

theorem endLine?_newline (rest : List Char) : endLine? ('\n' :: rest) = some rest := rfl

/-- A line goes on with anything but a blank, a comment or a line end. -/
theorem endLine?_cons {char : Char} (hblank : isBlank char = false) (hcomment : char ≠ '#')
    (hfeed : char ≠ '\n') (hreturn : char ≠ '\r') (rest : List Char) :
    endLine? (char :: rest) = none := by
  have hskip : skipBlanks (char :: rest) = char :: rest := by
    rw [skipBlanks, List.dropWhile_cons_of_neg (by simp [hblank])]
  unfold endLine?
  rw [hskip]
  simp [newline?, hcomment, hfeed, hreturn]

theorem IsBare.endLine?_append {name : String} (hname : IsBare name) (rest : List Char) :
    endLine? (name.toList ++ rest) = none := by
  obtain ⟨first, others, hfirst, hbare⟩ := hname.exists_cons
  have hne : ∀ char, isBareChar char = false → first ≠ char := by
    rintro char hchar rfl
    rw [hbare] at hchar
    contradiction
  rw [hfirst, List.cons_append, endLine?_cons (isBlank_eq_false isBareChar rfl rfl hbare)
    (hne '#' rfl) (hne '\n' rfl) (hne '\r' rfl)]

namespace Statement

/-- The statements that a printed section makes. -/
def ofSection (part : Section) : List Statement :=
  .header ⟨[], part.name⟩ :: part.entries.map fun entry ↦ .entry ⟨[], entry.1⟩ entry.2.value

theorem line_of_reader {text rest behind : List Char} {statement : Statement}
    (hend : endLine? text = none)
    (hreader : reader (skipBlanks text) = some (statement, rest))
    (hrest : endLine? rest = some behind) :
    line text = some (some statement, behind) := by
  unfold line
  rw [hend]
  simp [hreader, hrest]

theorem line_header {name : String} (hname : IsBare name) (rest : List Char) :
    line ('[' :: name.toList ++ "]\n".toList ++ rest) =
      some (some (.header ⟨[], name⟩), rest) := by
  have htext : '[' :: name.toList ++ "]\n".toList ++ rest =
      '[' :: (name.toList ++ ']' :: '\n' :: rest) := by simp
  have hkey : Key.reader (name.toList ++ ']' :: '\n' :: rest) =
      some (⟨[], name⟩, ']' :: '\n' :: rest) :=
    hname.reader_append rfl (by simp [skipBlanks, isBlank])
  have hreader : reader ('[' :: (name.toList ++ ']' :: '\n' :: rest)) =
      some (.header ⟨[], name⟩, '\n' :: rest) := by
    rw [reader.eq_2 _ (hname.append_ne_cons rfl _), hkey]
    rfl
  rw [htext]
  exact line_of_reader rfl hreader (endLine?_newline rest)

theorem line_entry {key : String} {atom : Atom} (hkey : IsBare key) (hatom : atom.fits = true)
    (rest : List Char) :
    line (Printer.entry (key, atom) ++ rest) =
      some (some (.entry ⟨[], key⟩ atom.value), rest) := by
  have htext : Printer.entry (key, atom) ++ rest =
      key.toList ++ ' ' :: '=' :: ' ' :: (Printer.atom atom ++ '\n' :: rest) := by
    simp [Printer.entry]
  have hname : Key.reader (key.toList ++ ' ' :: '=' :: ' ' :: (Printer.atom atom ++ '\n' :: rest)) =
      some (⟨[], key⟩, '=' :: ' ' :: (Printer.atom atom ++ '\n' :: rest)) :=
    hkey.reader_append rfl (by simp [skipBlanks, isBlank])
  have hvalue : skipBlanks (' ' :: (Printer.atom atom ++ '\n' :: rest)) =
      Printer.atom atom ++ '\n' :: rest := by
    rw [skipBlanks, List.dropWhile_cons_of_pos rfl]
    exact skipBlanks_atom atom ('\n' :: rest)
  have hassignment : assignment (Toml.element depthLimit)
      (key.toList ++ ' ' :: '=' :: ' ' :: (Printer.atom atom ++ '\n' :: rest)) =
      some ((⟨[], key⟩, atom.value), '\n' :: rest) := by
    unfold assignment
    rw [hname]
    simp only [Option.bind_eq_bind, Option.bind_some, Reader.skip?_cons_self]
    rw [hvalue, element_atom depthLimit hatom rest]
    rfl
  rw [htext]
  refine line_of_reader (hkey.endLine?_append _) ?_ (endLine?_newline rest)
  rw [hkey.skipBlanks_append, reader.eq_3 _ (fun _ ↦ hkey.append_ne_cons rfl _ _)
    (hkey.append_ne_cons rfl _), hassignment]
  rfl

theorem line_newline (rest : List Char) : line ('\n' :: rest) = some (none, rest) := rfl

/-- The lines of a section make its statements, whatever stands behind it. -/
theorem many_line_section {part : Section} (hname : IsBare part.name)
    (hkeys : ∀ entry ∈ part.entries, IsBare entry.1) (hfits : part.fits = true)
    (rest : List Char) :
    Reader.many line (part.print ++ rest) =
      ((ofSection part).map some ++ (Reader.many line rest).1, (Reader.many line rest).2) := by
  have hentries : Reader.many line (part.entries.flatMap Printer.entry ++ rest) =
      (part.entries.map (fun entry ↦ some (.entry ⟨[], entry.1⟩ entry.2.value)) ++
        (Reader.many line rest).1, (Reader.many line rest).2) :=
    Reader.many_flatMap (fun entry _ ↦ by simp [Printer.entry])
      (fun entry hentry rest ↦ line_entry (hkeys entry hentry)
        (List.all_eq_true.mp hfits entry hentry) rest) rest
  rw [Section.print, List.append_assoc, Reader.many_append (by simp) (line_header hname _),
    hentries]
  simp [ofSection]

theorem many_line_nil : Reader.many line [] = ([], []) :=
  Reader.many_of_length_le (show line [] = some (none, []) from rfl) (Nat.le_refl 0)

/-- The blank lines between the sections say nothing. -/
theorem many_line_sections {sections : List Section} (hproper : Section.Proper sections)
    (hfits : sections.all Section.fits = true) :
    ∃ lines, Reader.many line (List.intercalate ['\n'] (sections.map Section.print)) = (lines, []) ∧
      lines.filterMap id = sections.flatMap ofSection := by
  induction sections with
  | nil => exact ⟨[], many_line_nil, rfl⟩
  | cons part others ih =>
    rw [List.all_cons, Bool.and_eq_true] at hfits
    obtain ⟨lines, hlines, hstatements⟩ := ih hproper.of_cons hfits.2
    have hsection := many_line_section (hproper.bare part List.mem_cons_self)
      (hproper.bareKeys part List.mem_cons_self) hfits.1
    rcases others with _ | ⟨next, others⟩
    · refine ⟨(ofSection part).map some, ?_, by simp⟩
      have halone := hsection []
      rw [many_line_nil, List.append_nil, List.append_nil] at halone
      rw [List.map_cons, List.map_nil, List.intercalate_singleton, halone]
    -- The separator in front of the next section is a line of its own, without a statement.
    · refine ⟨(ofSection part).map some ++ none :: lines, ?_, ?_⟩
      · rw [List.map_cons, List.map_cons, List.intercalate_cons_cons, List.append_assoc, hsection,
          Reader.many_append (by simp) (line_newline _), ← List.map_cons, hlines]
      · rw [List.filterMap_append, List.filterMap_cons_none rfl, hstatements]
        simp

end Statement

/-! ### Tables -/

theorem lookup_eq_none {table : Table} {key : String} (h : key ∉ table.map Prod.fst) :
    table.lookup key = none := by
  rw [List.lookup_eq_none_iff]
  intro entry hentry
  rw [bne_iff_ne]
  rintro rfl
  exact h (List.mem_map_of_mem hentry)

theorem lookup_append_singleton {table : Table} {key : String} (h : key ∉ table.map Prod.fst)
    (value : Value) : (table ++ [(key, value)]).lookup key = some value := by
  rw [List.lookup_append, lookup_eq_none h]
  simp

theorem set_append_cons {front back : Table} {key : String} (h : key ∉ front.map Prod.fst)
    (old new : Value) :
    Table.set key new (front ++ (key, old) :: back) =
      front ++ (key, new) :: Table.set key new back := by
  have hkept : front.map (fun entry ↦ if entry.1 == key then (key, new) else entry) = front := by
    refine List.map_congr_left (fun entry hentry ↦ ?_) |>.trans (List.map_id front)
    have hne : entry.1 ≠ key := fun heq ↦ h (heq ▸ List.mem_map_of_mem hentry)
    rw [if_neg (by simpa using hne)]
    rfl
  rw [Table.set, List.map_append, hkept, List.map_cons, if_pos (beq_self_eq_true key)]
  rfl

theorem set_append_singleton {table : Table} {key : String} (h : key ∉ table.map Prod.fst)
    (old new : Value) :
    Table.set key new (table ++ [(key, old)]) = table ++ [(key, new)] :=
  set_append_cons h old new

namespace Draft

/-- A new section begins with its header. -/
theorem apply_header {root : Table} {name : String} (h : name ∉ root.map Prod.fst)
    (current : List String) :
    apply ⟨root, current⟩ (.header ⟨[], name⟩) =
      some ⟨root ++ [(name, .table .header [])], [name]⟩ := by
  have hclaim : Table.claim name root = some (root ++ [(name, .table .header [])]) := by
    rw [Table.claim, lookup_eq_none h]
  simp [apply, Table.alter, hclaim]

theorem apply_entry {root written : Table} {name key : String}
    (hname : name ∉ root.map Prod.fst) (hkey : key ∉ written.map Prod.fst) (value : Value) :
    apply ⟨root ++ [(name, .table .header written)], [name]⟩ (.entry ⟨[], key⟩ value) =
      some ⟨root ++ [(name, .table .header (written ++ [(key, value)]))], [name]⟩ := by
  have hadd : Table.add? key value written = some (written ++ [(key, value)]) := by
    rw [Table.add?, lookup_eq_none hkey]
  have halter : Table.alter .header (Table.assign [] key value) [name] .header
      (root ++ [(name, .table .header written)]) =
        some (root ++ [(name, .table .header (written ++ [(key, value)]))]) := by
    rw [Table.alter, lookup_append_singleton hname]
    simp [Way.passes, Table.alter, Table.assign, hadd, set_append_singleton hname]
  simp [apply, halter]

/-- The entries go into the table at the end of the root, behind those already written there. -/
theorem foldlM_entries {root written : Table} {name : String}
    (hname : name ∉ root.map Prod.fst) {entries : List (String × Atom)}
    (hkeys : (written.map Prod.fst ++ entries.map Prod.fst).Nodup) :
    (entries.map fun entry ↦ Statement.entry ⟨[], entry.1⟩ entry.2.value).foldlM apply
        ⟨root ++ [(name, .table .header written)], [name]⟩ =
      some ⟨root ++ [(name, .table .header
        (written ++ entries.map fun entry ↦ (entry.1, entry.2.value)))], [name]⟩ := by
  induction entries generalizing written with
  | nil => simp
  | cons entry entries ih =>
    have hkey : entry.1 ∉ written.map Prod.fst := by
      intro hmem
      exact (List.nodup_append.mp hkeys).2.2 _ hmem _ (by simp) rfl
    rw [List.map_cons, List.foldlM_cons, apply_entry hname hkey, Option.bind_eq_bind,
      Option.bind_some, ih (by simpa using hkeys), List.map_cons, List.append_assoc]
    rfl

theorem foldlM_section {root : Table} {part : Section} (hname : part.name ∉ root.map Prod.fst)
    (hkeys : (part.entries.map Prod.fst).Nodup) (current : List String) :
    (Statement.ofSection part).foldlM apply ⟨root, current⟩ =
      some ⟨root ++ [(part.name, .table .header part.table)], [part.name]⟩ := by
  rw [Statement.ofSection, List.foldlM_cons, apply_header hname, Option.bind_eq_bind,
    Option.bind_some, foldlM_entries hname (by simpa using hkeys)]
  rfl

/-- No header finds its name taken, because the names before it are other ones. -/
theorem foldlM_sections {root : Table} {sections : List Section}
    (hnames : (root.map Prod.fst ++ sections.map Section.name).Nodup)
    (hkeys : ∀ part ∈ sections, (part.entries.map Prod.fst).Nodup) (current : List String) :
    ∃ draft, (sections.flatMap Statement.ofSection).foldlM apply ⟨root, current⟩ = some draft ∧
      draft.root = root ++ Section.tables sections := by
  induction sections generalizing root current with
  | nil => exact ⟨⟨root, current⟩, rfl, by simp [Section.tables]⟩
  | cons part others ih =>
    have hname : part.name ∉ root.map Prod.fst := by
      intro hmem
      exact (List.nodup_append.mp hnames).2.2 _ hmem _ (by simp) rfl
    obtain ⟨draft, hfold, hroot⟩ := @ih (root ++ [(part.name, .table .header part.table)])
      (by simpa using hnames) (fun other hother ↦ hkeys other (List.mem_cons_of_mem _ hother))
      [part.name]
    refine ⟨draft, ?_, ?_⟩
    · rw [List.flatMap_cons, List.foldlM_append,
        foldlM_section hname (hkeys part List.mem_cons_self), Option.bind_eq_bind,
        Option.bind_some, hfold]
    · rw [hroot, Section.tables, Section.tables, List.map_cons, List.append_assoc]
      rfl

end Draft

/-! ### Documents -/

/-- A document begins with the bracket of a header, if there is anything in it at all. -/
theorem Section.head?_document (sections : List Section) :
    (List.intercalate ['\n'] (sections.map Section.print)).head? ≠ some '\ufeff' := by
  rcases sections with _ | ⟨part, _ | ⟨next, others⟩⟩
  · simp
  · simp [List.intercalate_singleton, Section.print]
  · simp [List.intercalate_cons_cons, Section.print]

theorem statements?_document {sections : List Section} (hproper : Section.Proper sections)
    (hfits : sections.all Section.fits = true) :
    statements? (List.intercalate ['\n'] (sections.map Section.print)) =
      some (sections.flatMap Statement.ofSection) := by
  obtain ⟨lines, hlines, hstatements⟩ := Statement.many_line_sections hproper hfits
  unfold statements?
  rw [Reader.skip?_eq_none (Section.head?_document sections), Option.getD_none]
  simp only [hlines, hstatements]

/-- The document of some sections is read as their table. -/
theorem parse?_document {sections : List Section} (hproper : Section.Proper sections)
    (hfits : sections.all Section.fits = true) :
    parse? (String.ofList (List.intercalate ['\n'] (sections.map Section.print))) =
      some (Section.tables sections) := by
  obtain ⟨draft, hfold, hroot⟩ :=
    @Draft.foldlM_sections [] sections hproper.distinct hproper.distinctKeys []
  rw [parse?, String.toList_ofList, statements?_document hproper hfits, Option.bind_eq_bind,
    Option.bind_some, hfold, Option.bind_eq_bind, Option.bind_some, hroot]
  rfl

/-- The format of configurations loses nothing. -/
theorem Format.standard_faithful : Format.standard.Faithful where
  read_write sections hproper hfits :=
    ⟨_, if_pos hfits, parse?_document hproper hfits⟩
  write_eq_none sections _ hfits := by
    show Section.document? sections = none
    rw [Section.document?, if_neg (by simp [hfits])]

end PeerLink.Toml
