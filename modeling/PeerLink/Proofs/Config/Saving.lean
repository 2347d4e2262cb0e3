import Mathlib.Algebra.Group.Nat.Defs
import PeerLink.Proofs.Config.Sections
import PeerLink.Proofs.Config.Validation

/-!
What becomes of a configuration that is saved and loaded again. A limit is saved in whole
milliseconds, of which 64 bits are kept, and no number of more than 63 bits can be saved; all else
comes back as it was. So a limit is rounded down or, beyond 64 bits, silently replaced by another
one. Validation bounds every number but the connection limit, which alone can be too long.
-/

set_option autoImplicit false
set_option relaxedAutoImplicit false

namespace PeerLink

namespace Config

/-! ### What a document keeps -/

def limits (config : Config) : List Duration :=
  [config.transport.readTimeout, config.transport.writeTimeout, config.client.connectionTimeout]

/-- Some number is too large for a document. -/
def Overflows (config : Config) : Prop :=
  2 ^ 63 - 1 < config.transport.readBufferSize ∨
    ∃ limit ∈ config.limits, 2 ^ 63 - 1 < limit.wholeMilliseconds % 2 ^ 64

instance (config : Config) : Decidable config.Overflows := inferInstanceAs (Decidable (_ ∨ _))

theorem savedMilliseconds_eq (limit : Duration) :
    savedMilliseconds limit = limit.wholeMilliseconds % 2 ^ 64 := rfl

theorem savedMilliseconds_storedLimit (limit : Duration) :
    savedMilliseconds (storedLimit limit) = savedMilliseconds limit := by
  rw [storedLimit, savedMilliseconds_eq, Duration.wholeMilliseconds_ofMilliseconds,
    savedMilliseconds_eq, Nat.mod_mod]

/-- What comes back is saved as the same document. -/
theorem sections_stored (config : Config) : config.stored.sections = config.sections := by
  simp [sections, stored, Transport.stored, Client.stored, Transport.asSection, Client.asSection,
    savedMilliseconds_storedLimit]

theorem fits_natural (value : Nat) :
    (Toml.Atom.integer value).fits = true ↔ ¬2 ^ 63 - 1 < value := by
  rw [Toml.Atom.fits, Bool.and_eq_true, decide_eq_true_eq, decide_eq_true_eq, Toml.leastInteger,
    Toml.greatestInteger]
  omega

/-- Booleans and texts fit any document. -/
theorem all_fits_iff (config : Config) :
    config.sections.all Toml.Section.fits = true ↔ ¬config.Overflows := by
  have hatoms : config.sections.all Toml.Section.fits = true ↔
      (Toml.Atom.integer config.transport.readBufferSize).fits = true ∧
        ∀ limit ∈ config.limits, (Toml.Atom.integer (savedMilliseconds limit)).fits = true := by
    simp [sections, Toml.Section.fits, Codec.asSection, Transport.asSection, Client.asSection,
      Logging.asSection, Toml.Atom.fits, limits, and_assoc]
  rw [hatoms, Overflows, not_or, fits_natural]
  simp only [fits_natural, savedMilliseconds_eq, not_exists, not_and]

/-! ### The table of a document -/

/-- The names of the sections, each with the names of its fields. -/
def layout : List (String × List String) :=
  [("codec", ["strict_framing", "enforce_version"]),
    ("transport", ["read_buffer_size", "read_timeout", "write_timeout"]),
    ("client", ["address", "connection_timeout"]),
    ("logging", ["app_name", "log_level", "json_format"])]

theorem mem_layout {config : Config} {part : Toml.Section} (h : part ∈ config.sections) :
    (part.name, part.entries.map Prod.fst) ∈ layout :=
  List.mem_map_of_mem (f := fun part : Toml.Section ↦ (part.name, part.entries.map Prod.fst)) h

/-- The names of the sections and of their fields are distinct and need no quotes. -/
theorem sections_proper (config : Config) : Toml.Section.Proper config.sections := by
  have hlayout : ∀ part ∈ layout,
      Toml.IsBare part.1 ∧ part.2.Nodup ∧ ∀ key ∈ part.2, Toml.IsBare key := by decide
  refine ⟨?_, fun part hpart ↦ (hlayout _ (mem_layout hpart)).1,
    fun part hpart ↦ (hlayout _ (mem_layout hpart)).2.1, fun part hpart entry hentry ↦ ?_⟩
  · show (layout.map Prod.fst).Nodup
    decide
  · exact (hlayout _ (mem_layout hpart)).2.2 entry.1 (List.mem_map_of_mem hentry)

theorem part_mem_sections (config : Config) (part : Part) :
    config.part config.logging.level.word part ∈ config.sections := by
  cases part with
  | codec | transport | client | logging => simp [Config.part, sections, Logging.spelled_word]

theorem name_part (config : Config) (spelling : String) (part : Part) :
    (config.part spelling part).name = part.name := by
  cases part <;> rfl

theorem shows_sections (config : Config) :
    Shows (fun _ ↦ true) config config.logging.level.word
      (Toml.Section.tables config.sections) where
  spelled := config.logging.level.ofText?_word
  distinct := by
    rw [Toml.Section.tables, List.map_map]
    exact (sections_proper config).distinct
  present part _ := by
    have hpart := part_mem_sections config part
    refine ⟨.header, (config.part config.logging.level.word part).table, ?_, ?_, fun _ ↦ id⟩
    · rw [← name_part config config.logging.level.word part]
      exact List.mem_map_of_mem hpart
    · rw [Toml.Section.table, List.map_map]
      exact (sections_proper config).distinctKeys _ hpart
  absent _ := nofun

/-- The table of a saved configuration describes what is stored of it. -/
theorem ofTable_sections (config : Config) :
    ofTable (Toml.Section.tables config.sections) = .ok config.stored :=
  ofTable_of_shows (shows_sections config)

/-! ### Files -/

section

variable {format : Toml.Format} (hformat : format.Faithful) (config : Config)

include hformat

theorem printIn_of_overflows {config : Config} (h : config.Overflows) :
    config.printIn format = .error .unwritable := by
  have hfits : config.sections.all Toml.Section.fits = false := by
    rw [← Bool.not_eq_true, all_fits_iff, not_not]
    exact h
  rw [printIn, hformat.write_eq_none _ (sections_proper config) hfits]

theorem parseIn_printIn {config : Config} (h : ¬config.Overflows) :
    ∃ text, config.printIn format = .ok text ∧ parseIn format text = .ok config.stored := by
  obtain ⟨text, hwrite, hread⟩ :=
    hformat.read_write _ (sections_proper config) ((all_fits_iff config).mpr h)
  refine ⟨text, by rw [printIn, hwrite], ?_⟩
  rw [parseIn, hread]
  simp only [ofTable_sections]
  rfl

theorem saveIn_of_overflows {config : Config} (h : config.Overflows) (content : Bytes) :
    config.saveIn format (.file content) = .error .unwritable := by
  rw [saveIn, printIn_of_overflows hformat h]
  rfl

/-- The file depends on the sections alone, not on what was in it before. -/
theorem loadIn_saveIn {config : Config} (h : ¬config.Overflows) :
    ∃ saved, loadIn format saved = .ok config.stored ∧
      ∀ (other : Config) (content : Bytes), other.sections = config.sections →
        other.saveIn format (.file content) = .ok saved := by
  obtain ⟨text, hprint, hparse⟩ := parseIn_printIn hformat h
  refine ⟨.file (.ofText text), ?_, ?_⟩
  · rw [loadIn, Bytes.text?_ofText]
    exact hparse
  · intro other content hsections
    rw [saveIn, printIn, hsections, ← printIn, hprint]
    rfl

/-- Saving fails exactly for a configuration with a number that no document holds. Otherwise the
file holds the limits in milliseconds modulo 2^64 and everything else as it was, and what is loaded
from it is saved as the same file again. -/
theorem saveIn_then_loadIn :
    (∀ content, (∃ reason, (config.saveIn format (.file content)).mapError Fault.toError =
        .error (.configuration reason)) ↔ config.Overflows) ∧
      (¬config.Overflows →
        ∃ saved, (∀ content, config.saveIn format (.file content) = .ok saved) ∧
          loadIn format saved = .ok config.stored ∧
          ∀ content, config.stored.saveIn format (.file content) = .ok saved) := by
  constructor
  · intro content
    constructor
    · rintro ⟨reason, hreason⟩
      by_contra hfits
      obtain ⟨saved, -, hsave⟩ := loadIn_saveIn hformat hfits
      rw [hsave config content rfl] at hreason
      contradiction
    · intro hoverflow
      rw [saveIn_of_overflows hformat hoverflow content]
      exact ⟨_, rfl⟩
  · intro hfits
    obtain ⟨saved, hload, hsave⟩ := loadIn_saveIn hformat hfits
    exact ⟨saved, fun content ↦ hsave config content rfl, hload,
      fun content ↦ hsave config.stored content (sections_stored config)⟩

end

/-- Its connection limit is the least in whole seconds that takes more than 64 bits. -/
def overlong : Config := { client := { connectionTimeout := .ofSeconds 18446744073709552 } }

/-- A limit of a nanosecond less than two milliseconds is rounded down beside it. -/
theorem saveIn_then_loadIn_overlong :
    Toml.Format.standard.Faithful ∧
      ∃ saved,
        (∀ content, ({ overlong with transport := { readTimeout := ⟨1999999⟩ } } : Config).saveIn
          .standard (.file content) = .ok saved) ∧
        loadIn .standard saved =
          .ok { transport := { readTimeout := .ofMilliseconds 1 },
                client := { connectionTimeout := .ofMilliseconds 384 } } ∧
        ∀ content,
          ({ transport := { readTimeout := .ofMilliseconds 1 },
             client := { connectionTimeout := .ofMilliseconds 384 } } : Config).saveIn
            .standard (.file content) = .ok saved :=
  ⟨Toml.Format.standard_faithful,
    (saveIn_then_loadIn Toml.Format.standard_faithful
      { overlong with transport := { readTimeout := ⟨1999999⟩ } }).2 (by decide)⟩

/-! ### Valid configurations -/

theorem wholeMilliseconds_of_lt_ofSeconds {limit : Duration} {seconds : Nat}
    (h : limit < .ofSeconds seconds) : limit.wholeMilliseconds < 1000 * seconds := by
  have hnanoseconds : limit.nanoseconds < seconds * 1000000000 := h
  rw [Duration.wholeMilliseconds, Duration.perMillisecond]
  omega

/-- Validation bounds every number but the connection limit. -/
theorem bounded_of_valid {config : Config} (h : config.problems = []) :
    config.transport.readBufferSize ≤ 65538 ∧
      config.transport.readTimeout.wholeMilliseconds < 301000 ∧
      config.transport.writeTimeout.wholeMilliseconds < 301000 := by
  have henforced := problems_eq_nil_iff.mp h
  exact ⟨henforced.readBufferSize.2, wholeMilliseconds_of_lt_ofSeconds henforced.readTimeout.2,
    wholeMilliseconds_of_lt_ofSeconds henforced.writeTimeout.2⟩

/-- So only the connection limit can keep a valid configuration from being saved. -/
theorem overflows_iff_of_valid {config : Config} (h : config.problems = []) :
    config.Overflows ↔ 2 ^ 63 - 1 < config.client.connectionTimeout.wholeMilliseconds % 2 ^ 64 := by
  obtain ⟨hbuffer, hread, hwrite⟩ := bounded_of_valid h
  constructor
  · rintro (hlarge | ⟨limit, hlimit, hlarge⟩)
    · omega
    · simp only [limits, List.mem_cons, List.not_mem_nil, or_false] at hlimit
      rcases hlimit with rfl | rfl | rfl
      · omega
      · omega
      · exact hlarge
  · intro hlarge
    exact .inr ⟨config.client.connectionTimeout, by simp [limits], hlarge⟩

theorem storedLimit_of_lt {limit : Duration}
    (hwhole : .ofMilliseconds limit.wholeMilliseconds = limit)
    (hshort : limit.wholeMilliseconds < 2 ^ 64) : storedLimit limit = limit := by
  rw [storedLimit, Nat.mod_eq_of_lt hshort, hwhole]

theorem stored_of_valid {config : Config} (hvalid : config.problems = [])
    (hwhole : ∀ limit ∈ config.limits, .ofMilliseconds limit.wholeMilliseconds = limit)
    (hshort : config.client.connectionTimeout.wholeMilliseconds < 2 ^ 64) :
    config.stored = config := by
  obtain ⟨-, hread, hwrite⟩ := bounded_of_valid hvalid
  have hreadLimit := storedLimit_of_lt (hwhole config.transport.readTimeout (by simp [limits]))
    (by omega)
  have hwriteLimit := storedLimit_of_lt (hwhole config.transport.writeTimeout (by simp [limits]))
    (by omega)
  have hconnectionLimit :=
    storedLimit_of_lt (hwhole config.client.connectionTimeout (by simp [limits])) hshort
  rw [stored, Transport.stored, Client.stored, hreadLimit, hwriteLimit, hconnectionLimit]

/-- A valid configuration in whole milliseconds survives being saved and loaded exactly if its
connection limit is one that a document holds. -/
theorem survives_iff {format : Toml.Format} (hformat : format.Faithful) {config : Config}
    (hvalid : config.problems = [])
    (hwhole : ∀ limit ∈ config.limits, .ofMilliseconds limit.wholeMilliseconds = limit) :
    (∀ content, ∃ saved, config.saveIn format (.file content) = .ok saved ∧
        ∃ loaded, loadIn format saved = .ok loaded ∧ loaded = config ∧ loaded.problems = []) ↔
      config.client.connectionTimeout.wholeMilliseconds ≤ 2 ^ 63 - 1 := by
  constructor
  · intro hsurvives
    obtain ⟨saved, hsaved, loaded, hloaded, rfl, -⟩ := hsurvives []
    by_cases hoverflow : loaded.Overflows
    · rw [saveIn_of_overflows hformat hoverflow] at hsaved
      contradiction
    -- What is stored has a connection limit below 2^64 ms, so it is the same limit only if that
    -- one is too; and then one of 2^63 ms or more had overflowed.
    · obtain ⟨again, hload, hsave⟩ := loadIn_saveIn hformat hoverflow
      rw [hsave loaded [] rfl] at hsaved
      rw [← Except.ok.inj hsaved, hload] at hloaded
      have hlimit : storedLimit loaded.client.connectionTimeout = loaded.client.connectionTimeout :=
        congrArg (fun config : Config ↦ config.client.connectionTimeout) (Except.ok.inj hloaded)
      have hwrapped := congrArg Duration.wholeMilliseconds hlimit
      rw [storedLimit, Duration.wholeMilliseconds_ofMilliseconds] at hwrapped
      rw [overflows_iff_of_valid hvalid] at hoverflow
      omega
  · intro hshort content
    have hfits : ¬config.Overflows := by
      rw [overflows_iff_of_valid hvalid]
      omega
    obtain ⟨saved, hload, hsave⟩ := loadIn_saveIn hformat hfits
    rw [stored_of_valid hvalid hwhole (by omega)] at hload
    exact ⟨saved, hsave config content rfl, config, hload, rfl, hvalid⟩

theorem survives_longest :
    Toml.Format.standard.Faithful ∧
      ∀ content, ∃ saved,
        ({ client := { connectionTimeout := .ofMilliseconds (2 ^ 63 - 1) } } : Config).saveIn
          .standard (.file content) = .ok saved ∧
        ∃ loaded, loadIn .standard saved = .ok loaded ∧
          loaded = { client := { connectionTimeout := .ofMilliseconds (2 ^ 63 - 1) } } ∧
          loaded.problems = [] :=
  ⟨Toml.Format.standard_faithful,
    (survives_iff Toml.Format.standard_faithful rfl (by decide)).mpr (by decide)⟩

/-- Nothing reports that a valid configuration is saved as another one. -/
theorem exists_lost_limit :
    Toml.Format.standard.Faithful ∧ overlong.problems = [] ∧
      (∀ limit ∈ overlong.limits, .ofMilliseconds limit.wholeMilliseconds = limit) ∧
      ∃ saved loaded, overlong.save (.file []) = .ok saved ∧ load saved = .ok loaded ∧
        loaded ≠ overlong ∧
        loaded.client.connectionTimeout.wholeMilliseconds = 384 ∧
        overlong.client.connectionTimeout.wholeMilliseconds = 18446744073709552000 := by
  have hfits : ¬overlong.Overflows := by decide
  obtain ⟨saved, hload, hsave⟩ := loadIn_saveIn Toml.Format.standard_faithful hfits
  exact ⟨Toml.Format.standard_faithful, rfl, by decide, saved, overlong.stored,
    hsave overlong [] rfl, hload, by decide, by decide, by decide⟩

end Config

end PeerLink
