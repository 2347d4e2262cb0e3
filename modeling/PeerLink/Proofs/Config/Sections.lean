import Mathlib.Algebra.Group.Nat.Defs
import PeerLink.Config.Store
import PeerLink.Proofs.Toml.Sections

/-!
How the sections of a document are read. A section is known by its name and a field by its key, so
neither the order in which they are written nor what else stands beside them matters. But what is
absent matters in two ways: a section that is left out keeps its defaults (`ofTable_of_shows`), and
a field that is left out of a section spoils the whole document (`ofTable_of_short`).
-/

set_option autoImplicit false
set_option relaxedAutoImplicit false

namespace PeerLink

/-! ### Tables in any order -/

namespace Toml.Table

/-- The written entries stand in the table, in any order and among any others. -/
structure Holds (table written : Table) : Prop where
  distinct : (table.map Prod.fst).Nodup
  mem : ∀ entry ∈ written, entry ∈ table

variable {table written : Table} {key name : String} {value other : Value}

theorem lookup_of_mem (hdistinct : (table.map Prod.fst).Nodup) (hmem : (key, value) ∈ table) :
    table.lookup key = some value := by
  induction table with
  | nil => contradiction
  | cons entry table ih =>
    rw [List.map_cons, List.nodup_cons] at hdistinct
    rcases List.mem_cons.mp hmem with rfl | hmem
    · exact List.lookup_cons_self
    · have hne : key ≠ entry.1 := by
        rintro rfl
        exact hdistinct.1 (List.mem_map.mpr ⟨_, hmem, rfl⟩)
      rw [List.lookup_cons, beq_false_of_ne hne]
      exact ih hdistinct.2 hmem

theorem eq_of_mem (hdistinct : (table.map Prod.fst).Nodup) (hvalue : (key, value) ∈ table)
    (hother : (key, other) ∈ table) : value = other := by
  have hlookup := lookup_of_mem hdistinct hvalue
  rw [lookup_of_mem hdistinct hother] at hlookup
  exact (Option.some.inj hlookup).symm

theorem lookup_erase (key name : String) (table : Table) :
    (Table.erase key table).lookup name = if name = key then none else table.lookup name := by
  unfold Table.erase
  induction table with
  | nil => simp
  | cons entry table ih =>
    by_cases hentry : entry.1 = key
    · rw [List.filter_cons_of_neg (by simp [hentry]), ih, List.lookup_cons, hentry]
      by_cases hname : name = key
      · rw [if_pos hname, if_pos hname]
      · rw [if_neg hname, if_neg hname, beq_false_of_ne hname]
    · rw [List.filter_cons_of_pos (by simp [hentry]), List.lookup_cons, List.lookup_cons, ih]
      by_cases hname : name = entry.1
      · simp [hname, hentry]
      · rw [beq_false_of_ne hname]

theorem mem_of_mem_erase {entry : String × Value} (h : entry ∈ Table.erase key table) :
    entry ∈ table :=
  (List.mem_filter.mp h).1

end Toml.Table

namespace Config

/-! ### Fields -/

namespace Fields

variable {fields : Fields} {table written : Toml.Table}

theorem check_nil (fields : Fields) : fields.check [] = .ok () := rfl

theorem check_cons_of_lookup {name : String} {reader : FieldReader Unit}
    (h : fields.lookup name = some reader) (value : Toml.Value) :
    fields.check ((name, value) :: table) = (reader value).bind fun _ ↦ fields.check table := by
  unfold check
  rw [List.forM_eq_forM, List.forM_cons]
  simp only [h]
  rfl

theorem check_cons_of_unknown {name : String} (h : fields.lookup name = none)
    (value : Toml.Value) : fields.check ((name, value) :: table) = fields.check table := by
  unfold check
  rw [List.forM_eq_forM, List.forM_cons]
  simp only [h]
  rfl

theorem check_eq_ok_iff :
    fields.check table = .ok () ↔ ∀ entry ∈ table, ∀ reader,
      fields.lookup entry.1 = some reader → reader entry.2 = .ok () := by
  induction table with
  | nil => simp [check_nil]
  | cons entry table ih =>
    rw [List.forall_mem_cons, ← ih]
    cases hlookup : fields.lookup entry.1 with
    | none => simp [check_cons_of_unknown hlookup]
    | some reader =>
      rw [check_cons_of_lookup hlookup]
      cases hread : reader entry.2 with
      | error mismatch => simp [Except.bind, hread]
      | ok => simp [Except.bind, hread]

/-- The first entry that does not fit is reported. -/
theorem check_eq_error {front back : Toml.Table} {name : String} {value : Toml.Value}
    {reader : FieldReader Unit} {mismatch : Mismatch} (hfront : fields.check front = .ok ())
    (hlookup : fields.lookup name = some reader) (hvalue : reader value = .error mismatch) :
    fields.check (front ++ (name, value) :: back) = .error mismatch := by
  induction front with
  | nil =>
    rw [List.nil_append, check_cons_of_lookup hlookup, hvalue]
    rfl
  | cons entry front ih =>
    cases hentry : fields.lookup entry.1 with
    | none =>
      rw [check_cons_of_unknown hentry] at hfront
      rw [List.cons_append, check_cons_of_unknown hentry]
      exact ih hfront
    | some other =>
      have hother := check_eq_ok_iff.mp hfront entry List.mem_cons_self other hentry
      rw [check_cons_of_lookup hentry, hother] at hfront
      rw [List.cons_append, check_cons_of_lookup hentry, hother]
      exact ih hfront

theorem check_of_subset (h : ∀ entry ∈ table, entry ∈ written)
    (hwritten : fields.check written = .ok ()) : fields.check table = .ok () :=
  check_eq_ok_iff.mpr fun entry hentry ↦ check_eq_ok_iff.mp hwritten entry (h entry hentry)

/-- What stands beside the written entries has none of their keys, and so it has no meaning. -/
theorem check_of_holds (h : table.Holds written)
    (hkeys : fields.map Prod.fst = written.map Prod.fst)
    (hwritten : fields.check written = .ok ()) : fields.check table = .ok () := by
  rw [check_eq_ok_iff]
  intro entry hentry reader hlookup
  have hfield : entry.1 ∈ fields.map Prod.fst := by
    obtain ⟨front, back, heq, -⟩ := List.lookup_eq_some_iff.mp hlookup
    simp [heq]
  rw [hkeys] at hfield
  obtain ⟨old, hold, hkey⟩ := List.mem_map.mp hfield
  have hvalue : old.2 = entry.2 :=
    Toml.Table.eq_of_mem h.distinct (hkey ▸ h.mem old hold) hentry
  rw [← hvalue]
  exact check_eq_ok_iff.mp hwritten old hold reader (hkey ▸ hlookup)

end Fields

/-! ### Sections -/

namespace Record

variable {α : Type} {record : Record} {table : Toml.Table} {name : String}

theorem field_missing (h : table.lookup name = none) (index : Nat) (reader : FieldReader α) :
    record.field (.named table) index name reader = .error (.missingField name) := by
  rw [field, h]

end Record

/-- A section of written entries is read as `value`, however its table came about and whatever else
stands in it; without one of its fields it is not read at all. -/
structure Reads {α : Type} (reader : FieldReader α) (written : Toml.Table) (value : α) :
    Prop where
  whole : ∀ origin table, Toml.Table.Holds table written → reader (.table origin table) = .ok value
  short : ∀ origin table field, Toml.Table.Holds table written → field ∈ written.map Prod.fst →
    reader (.table origin (Toml.Table.erase field table)) = .error (.missingField field)

/-- It is enough to know how the fields are put together. -/
theorem Record.reads {α : Type} {record : Record} {collect : Source → Except Mismatch α}
    {written : Toml.Table} {value : α}
    (hkeys : record.fields.map Prod.fst = written.map Prod.fst)
    (hcheck : record.fields.check written = .ok ())
    (hwhole : ∀ table : Toml.Table,
      (∀ entry ∈ written, table.lookup entry.1 = some entry.2) → collect (.named table) = .ok value)
    (hshort : ∀ (table : Toml.Table), ∀ field ∈ written.map Prod.fst, table.lookup field = none →
      (∀ entry ∈ written, entry.1 ≠ field → table.lookup entry.1 = some entry.2) →
        collect (.named table) = .error (.missingField field)) :
    Reads (record.read collect) written value where
  whole origin table h := by
    rw [Record.read_table (Fields.check_of_holds h hkeys hcheck)]
    exact hwhole table fun entry hentry ↦
      Toml.Table.lookup_of_mem h.distinct (h.mem entry hentry)
  short origin table field h hfield := by
    have herased : record.fields.check (Toml.Table.erase field table) = .ok () :=
      Fields.check_of_subset (fun _ ↦ Toml.Table.mem_of_mem_erase)
        (Fields.check_of_holds h hkeys hcheck)
    rw [Record.read_table herased]
    refine hshort _ field hfield ?_ fun entry hentry hne ↦ ?_
    · rw [Toml.Table.lookup_erase, if_pos rfl]
    · rw [Toml.Table.lookup_erase, if_neg hne]
      exact Toml.Table.lookup_of_mem h.distinct (h.mem entry hentry)

/-! ### The sections of a configuration -/

/-- The limit that a document gives back. -/
def storedLimit (limit : Duration) : Duration :=
  .ofMilliseconds (limit.wholeMilliseconds % 2 ^ 64)

def Transport.stored (transport : Transport) : Transport :=
  { transport with
    readTimeout := storedLimit transport.readTimeout
    writeTimeout := storedLimit transport.writeTimeout }

def Client.stored (client : Client) : Client :=
  { client with connectionTimeout := storedLimit client.connectionTimeout }

/-- The configuration that a document gives back: its limits in milliseconds modulo 2^64. -/
def stored (config : Config) : Config :=
  { config with transport := config.transport.stored, client := config.client.stored }

theorem milliseconds_savedMilliseconds (limit : Duration) :
    FieldReader.milliseconds (.integer (savedMilliseconds limit)) = .ok (storedLimit limit) := by
  rw [FieldReader.milliseconds, FieldReader.natural_ofNat]
  rfl

theorem Codec.reads (codec : Codec) : Reads reader codec.asSection.table codec := by
  have htable : codec.asSection.table =
      [("strict_framing", .boolean codec.strictFraming),
        ("enforce_version", .boolean codec.enforceVersion)] := rfl
  rw [htable]
  refine Record.reads rfl rfl (fun table h ↦ ?_) (fun table field hfield habsent h ↦ ?_)
  · simp only [List.forall_mem_cons] at h
    rw [Record.field_named h.1, Record.field_named h.2.1]
    rfl
  · simp only [List.map_cons, List.map_nil, List.mem_cons, List.not_mem_nil, or_false] at hfield
    simp only [List.forall_mem_cons] at h
    rcases hfield with rfl | rfl
    · rw [Record.field_missing habsent]
      rfl
    · rw [Record.field_named (h.1 (by decide)), Record.field_missing habsent]
      rfl

theorem Transport.reads (transport : Transport) :
    Reads reader transport.asSection.table transport.stored := by
  have hsize := FieldReader.natural_ofNat .size transport.readBufferSize
  have hread := milliseconds_savedMilliseconds transport.readTimeout
  have hwrite := milliseconds_savedMilliseconds transport.writeTimeout
  have htable : transport.asSection.table =
      [("read_buffer_size", .integer transport.readBufferSize),
        ("read_timeout", .integer (savedMilliseconds transport.readTimeout)),
        ("write_timeout", .integer (savedMilliseconds transport.writeTimeout))] := rfl
  rw [htable]
  refine Record.reads rfl ?_ (fun table h ↦ ?_) (fun table field hfield habsent h ↦ ?_)
  · rw [Fields.check_cons rfl (FieldReader.check_eq_ok hsize),
      Fields.check_cons rfl (FieldReader.check_eq_ok hread),
      Fields.check_cons rfl (FieldReader.check_eq_ok hwrite), Fields.check_nil]
  · simp only [List.forall_mem_cons] at h
    rw [Record.field_named h.1, Record.field_named h.2.1, Record.field_named h.2.2.1, hsize, hread,
      hwrite]
    rfl
  · simp only [List.map_cons, List.map_nil, List.mem_cons, List.not_mem_nil, or_false] at hfield
    simp only [List.forall_mem_cons] at h
    rcases hfield with rfl | rfl | rfl
    · rw [Record.field_missing habsent]
      rfl
    · rw [Record.field_named (h.1 (by decide)), hsize, Record.field_missing habsent]
      rfl
    · rw [Record.field_named (h.1 (by decide)), Record.field_named (h.2.1 (by decide)), hsize, hread,
        Record.field_missing habsent]
      rfl

theorem Client.reads (client : Client) : Reads reader client.asSection.table client.stored := by
  have hlimit := milliseconds_savedMilliseconds client.connectionTimeout
  have htable : client.asSection.table =
      [("address", .string client.address),
        ("connection_timeout", .integer (savedMilliseconds client.connectionTimeout))] := rfl
  rw [htable]
  refine Record.reads rfl ?_ (fun table h ↦ ?_) (fun table field hfield habsent h ↦ ?_)
  · rw [Fields.check_cons rfl rfl, Fields.check_cons rfl (FieldReader.check_eq_ok hlimit),
      Fields.check_nil]
  · simp only [List.forall_mem_cons] at h
    rw [Record.field_named h.1, Record.field_named h.2.1, hlimit]
    rfl
  · simp only [List.map_cons, List.map_nil, List.mem_cons, List.not_mem_nil, or_false] at hfield
    simp only [List.forall_mem_cons] at h
    rcases hfield with rfl | rfl
    · rw [Record.field_missing habsent]
      rfl
    · rw [Record.field_named (h.1 (by decide)), Record.field_missing habsent]
      rfl

/-- The section with its level in that spelling. -/
def Logging.spelled (logging : Logging) (spelling : String) : Toml.Section where
  name := "logging"
  entries :=
    [("app_name", .string logging.appName), ("log_level", .string spelling),
     ("json_format", .boolean logging.json)]

theorem Logging.spelled_word (logging : Logging) :
    logging.spelled logging.level.word = logging.asSection := rfl

theorem Logging.reads {logging : Logging} {spelling : String}
    (hspelling : Log.Level.ofText? spelling = some logging.level) :
    Reads reader (logging.spelled spelling).table logging := by
  have hlevel := FieldReader.level_of_ofText? hspelling
  have htable : (logging.spelled spelling).table =
      [("app_name", .string logging.appName), ("log_level", .string spelling),
        ("json_format", .boolean logging.json)] := rfl
  rw [htable]
  refine Record.reads rfl ?_ (fun table h ↦ ?_) (fun table field hfield habsent h ↦ ?_)
  · rw [Fields.check_cons rfl rfl, Fields.check_cons rfl (FieldReader.check_eq_ok hlevel),
      Fields.check_cons rfl rfl, Fields.check_nil]
  · simp only [List.forall_mem_cons] at h
    rw [Record.field_named h.1, Record.field_named h.2.1, Record.field_named h.2.2.1, hlevel]
    rfl
  · simp only [List.map_cons, List.map_nil, List.mem_cons, List.not_mem_nil, or_false] at hfield
    simp only [List.forall_mem_cons] at h
    rcases hfield with rfl | rfl | rfl
    · rw [Record.field_missing habsent]
      rfl
    · rw [Record.field_named (h.1 (by decide)), Record.field_missing habsent]
      rfl
    · rw [Record.field_named (h.1 (by decide)), Record.field_named (h.2.1 (by decide)), hlevel,
        Record.field_missing habsent]
      rfl

/-! ### Documents -/

inductive Part where
  | codec
  | transport
  | client
  | logging

namespace Part

def name : Part → String
  | codec => "codec"
  | transport => "transport"
  | client => "client"
  | logging => "logging"

/-- The check of its section. -/
def reader : Part → FieldReader Unit
  | codec => FieldReader.check Codec.reader
  | transport => FieldReader.check Transport.reader
  | client => FieldReader.check Client.reader
  | logging => FieldReader.check Logging.reader

theorem lookup_name (part : Part) : sectionFields.lookup part.name = some part.reader := by
  cases part <;> rfl

theorem of_lookup {name : String} {reader : FieldReader Unit}
    (h : sectionFields.lookup name = some reader) :
    ∃ part : Part, part.name = name ∧ part.reader = reader := by
  obtain ⟨front, back, heq, -⟩ := List.lookup_eq_some_iff.mp h
  have hmem : (name, reader) ∈ sectionFields := by simp [heq]
  simp only [sectionFields, List.mem_cons, Prod.mk.injEq, List.not_mem_nil, or_false] at hmem
  rcases hmem with ⟨rfl, rfl⟩ | ⟨rfl, rfl⟩ | ⟨rfl, rfl⟩ | ⟨rfl, rfl⟩
  · exact ⟨codec, rfl, rfl⟩
  · exact ⟨transport, rfl, rfl⟩
  · exact ⟨client, rfl, rfl⟩
  · exact ⟨logging, rfl, rfl⟩

end Part

/-- The section in which a part of the configuration is kept, a level being spelled like that. -/
def part (config : Config) (spelling : String) : Part → Toml.Section
  | .codec => config.codec.asSection
  | .transport => config.transport.asSection
  | .client => config.client.asSection
  | .logging => config.logging.spelled spelling

/-- The chosen parts of the configuration, and the defaults of the others. -/
def keeping (chosen : Part → Bool) (config : Config) : Config where
  codec := if chosen .codec then config.codec else {}
  transport := if chosen .transport then config.transport else {}
  client := if chosen .client then config.client else {}
  logging := if chosen .logging then config.logging else {}

/-- The table of a document that has exactly the chosen parts of the configuration, each with all of
its fields, and spells the level like that. Sections and fields are in any order, and may stand among
others that are no part of any configuration. -/
structure Shows (chosen : Part → Bool) (config : Config) (spelling : String)
    (table : Toml.Table) : Prop where
  spelled : Log.Level.ofText? spelling = some config.logging.level
  distinct : (table.map Prod.fst).Nodup
  present : ∀ part, chosen part = true → ∃ origin entries,
    (part.name, .table origin entries) ∈ table ∧
      Toml.Table.Holds entries (config.part spelling part).table
  absent : ∀ part, chosen part = false → part.name ∉ table.map Prod.fst

theorem FieldReader.check_eq_error {α : Type} {reader : FieldReader α} {value : Toml.Value}
    {mismatch : Mismatch} (h : reader value = .error mismatch) :
    check reader value = .error mismatch := by
  rw [check, h]
  rfl

theorem Reads.check {α : Type} {reader : FieldReader α} {written : Toml.Table} {value : α}
    (h : Reads reader written value) : Reads (FieldReader.check reader) written () where
  whole origin table hholds := FieldReader.check_eq_ok (h.whole origin table hholds)
  short origin table field hholds hfield :=
    FieldReader.check_eq_error (h.short origin table field hholds hfield)

theorem Part.reads (part : Part) {config : Config} {spelling : String}
    (hspelling : Log.Level.ofText? spelling = some config.logging.level) :
    Reads part.reader (config.part spelling part).table () := by
  cases part with
  | codec => exact (Codec.reads config.codec).check
  | transport => exact (Transport.reads config.transport).check
  | client => exact (Client.reads config.client).check
  | logging => exact (Logging.reads hspelling).check

namespace Shows

variable {chosen : Part → Bool} {config : Config} {spelling : String} {table : Toml.Table}

/-- What stands under the name of a part is its section, which has been chosen. -/
theorem entries_of_mem (h : Shows chosen config spelling table) {part : Part} {value : Toml.Value}
    (hmem : (part.name, value) ∈ table) :
    chosen part = true ∧ ∃ origin entries, value = .table origin entries ∧
      Toml.Table.Holds entries (config.part spelling part).table := by
  cases hchosen : chosen part with
  | false => exact absurd (List.mem_map.mpr ⟨_, hmem, rfl⟩) (h.absent part hchosen)
  | true =>
    obtain ⟨origin, entries, hentries, hholds⟩ := h.present part hchosen
    exact ⟨rfl, origin, entries, Toml.Table.eq_of_mem h.distinct hmem hentries, hholds⟩

theorem reader_of_mem (h : Shows chosen config spelling table) {entry : String × Toml.Value}
    (hmem : entry ∈ table) {reader : FieldReader Unit}
    (hlookup : sectionFields.lookup entry.1 = some reader) : reader entry.2 = .ok () := by
  obtain ⟨part, hname, rfl⟩ := Part.of_lookup hlookup
  obtain ⟨-, origin, entries, hvalue, hholds⟩ :=
    h.entries_of_mem (show (part.name, entry.2) ∈ table from hname ▸ hmem)
  rw [hvalue]
  exact (part.reads h.spelled).whole origin entries hholds

theorem optional (h : Shows chosen config spelling table) {α : Type} {reader : FieldReader α} {value : α}
    (part : Part) (hreads : Reads reader (config.part spelling part).table value) (default : α) :
    Config.optional table part.name reader default =
      .ok (if chosen part then value else default) := by
  cases hchosen : chosen part with
  | false =>
    rw [Config.optional, Toml.lookup_eq_none (h.absent part hchosen)]
    rfl
  | true =>
    obtain ⟨origin, entries, hentries, hholds⟩ := h.present part hchosen
    rw [optional_of_lookup (Toml.Table.lookup_of_mem h.distinct hentries)]
    exact hreads.whole origin entries hholds

end Shows

/-- A document with some parts of a configuration gives these, and the defaults of the others. -/
theorem ofTable_of_shows {chosen : Part → Bool} {config : Config} {spelling : String}
    {table : Toml.Table} (h : Shows chosen config spelling table) :
    ofTable table = .ok (config.stored.keeping chosen) := by
  have hcheck : sectionFields.check table = .ok () :=
    Fields.check_eq_ok_iff.mpr fun entry hentry reader hlookup ↦ h.reader_of_mem hentry hlookup
  have hcodec : Config.optional table "codec" Codec.reader {} = _ :=
    h.optional .codec (Codec.reads config.codec) {}
  have htransport : Config.optional table "transport" Transport.reader {} = _ :=
    h.optional .transport (Transport.reads config.transport) {}
  have hclient : Config.optional table "client" Client.reader {} = _ :=
    h.optional .client (Client.reads config.client) {}
  have hlogging : Config.optional table "logging" Logging.reader {} = _ :=
    h.optional .logging (Logging.reads h.spelled) {}
  rw [ofTable, hcheck, hcodec, htransport, hclient, hlogging]
  rfl

/-- A document without one field of a part that it has gives no configuration. -/
theorem ofTable_of_short {chosen : Part → Bool} {config : Config} {spelling : String}
    {table : Toml.Table} (h : Shows chosen config spelling table) {part : Part}
    {origin : Toml.Origin} {entries : Toml.Table}
    (hentries : (part.name, .table origin entries) ∈ table) {field : String}
    (hfield : field ∈ (config.part spelling part).table.map Prod.fst) :
    ofTable (Toml.Table.set part.name (.table origin (Toml.Table.erase field entries)) table) =
      .error (.missingField field) := by
  obtain ⟨-, _, _, hvalue, hholds⟩ := h.entries_of_mem hentries
  obtain ⟨rfl, rfl⟩ := Toml.Value.table.inj hvalue
  have hshort := (part.reads h.spelled).short origin entries field hholds hfield
  obtain ⟨front, back, rfl⟩ := List.append_of_mem hentries
  have hfront : part.name ∉ front.map Prod.fst := by
    have hdistinct := h.distinct
    rw [List.map_append, List.nodup_append] at hdistinct
    exact fun hmem ↦ hdistinct.2.2 _ hmem _ List.mem_cons_self rfl
  have hcheck : sectionFields.check front = .ok () :=
    Fields.check_eq_ok_iff.mpr fun entry hentry reader hlookup ↦
      h.reader_of_mem (List.mem_append_left _ hentry) hlookup
  rw [Toml.set_append_cons hfront, ofTable,
    Fields.check_eq_error hcheck part.lookup_name hshort]
  rfl

end Config
end PeerLink
