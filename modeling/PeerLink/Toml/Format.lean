import PeerLink.Toml.Document
import PeerLink.Toml.Printer

/-!
A format as a pair: how sections are written down, and how a text is read as a table. A faithful
format loses nothing: sections whose names need no quotes and do not repeat are read back as they
were written, or, where a value does not fit, are not written at all.
-/

set_option autoImplicit false
set_option relaxedAutoImplicit false

namespace PeerLink.Toml

/-- A name that stands in a document without quotes. -/
def IsBare (name : String) : Prop :=
  (!name.toList.isEmpty && name.toList.all isBareChar) = true

instance (name : String) : Decidable (IsBare name) := inferInstanceAs (Decidable (_ = true))

theorem IsBare.ne_nil {name : String} (h : IsBare name) : name.toList ≠ [] := by
  rw [IsBare, Bool.and_eq_true] at h
  simpa using h.1

theorem IsBare.forall_mem {name : String} (h : IsBare name) :
    ∀ char ∈ name.toList, isBareChar char = true := by
  rw [IsBare, Bool.and_eq_true, List.all_eq_true] at h
  exact h.2

namespace Section

/-- The entries as they are read. -/
def table (part : Section) : Table := part.entries.map fun entry ↦ (entry.1, entry.2.value)

/-- The table of a document of some sections, each under a header of its own. -/
def tables (sections : List Section) : Table :=
  sections.map fun part ↦ (part.name, .table .header part.table)

/-- Sections that a document can hold side by side, apart from the size of their integers. -/
structure Proper (sections : List Section) : Prop where
  distinct : (sections.map name).Nodup
  bare : ∀ part ∈ sections, IsBare part.name
  distinctKeys : ∀ part ∈ sections, (part.entries.map Prod.fst).Nodup
  bareKeys : ∀ part ∈ sections, ∀ entry ∈ part.entries, IsBare entry.1

end Section

structure Format where
  /-- The document of some sections, if the format can hold all their values. -/
  write : List Section → Option String
  read : String → Option Table

/-- Reading undoes writing, and nothing is written of sections with a value too large. -/
structure Format.Faithful (format : Format) : Prop where
  read_write : ∀ sections, Section.Proper sections → sections.all Section.fits = true →
    ∃ text, format.write sections = some text ∧ format.read text = some (Section.tables sections)
  write_eq_none : ∀ sections, Section.Proper sections → sections.all Section.fits = false →
    format.write sections = none

/-- The format in which configurations are kept. -/
def Format.standard : Format := ⟨Section.document?, parse?⟩

end PeerLink.Toml
