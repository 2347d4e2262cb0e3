import Mathlib
import PeerLink.Proofs.Config.Saving

/-!
Documents with some of the sections. What a document says counts, and the defaults stand for the
sections that it leaves out, in whatever order it is written and whatever else it holds. There are no
defaults for single fields: a section without one of them makes the document unusable
(`parseIn_of_shows`).
-/

set_option autoImplicit false
set_option relaxedAutoImplicit false

namespace PeerLink.Config

section

variable {format : Toml.Format} {text : String} {table : Toml.Table}
  (hread : format.read text = some table)

include hread

theorem parseIn_of_ofTable {config : Config} (h : ofTable table = .ok config) :
    parseIn format text = .ok config := by
  rw [parseIn, hread]
  simp only [h]
  rfl

theorem parseIn_of_mismatch {cause : Mismatch} (h : ofTable table = .error cause) :
    parseIn format text = .error (.mismatch cause) := by
  rw [parseIn, hread]
  simp only [h]
  rfl

end

/-- Limits in whole milliseconds that a document can hold come back as they were. -/
theorem stored_eq_self {config : Config}
    (h : ∀ limit ∈ config.limits, ∃ milliseconds ≤ 2 ^ 63 - 1,
      limit = .ofMilliseconds milliseconds) : config.stored = config := by
  have hlimit : ∀ limit ∈ config.limits, storedLimit limit = limit := by
    intro limit hmem
    obtain ⟨milliseconds, hle, rfl⟩ := h limit hmem
    refine storedLimit_of_lt ?_ ?_
    · rw [Duration.wholeMilliseconds_ofMilliseconds]
    · rw [Duration.wholeMilliseconds_ofMilliseconds]
      omega
  rw [stored, Transport.stored, Client.stored,
    hlimit config.transport.readTimeout (by simp [limits]),
    hlimit config.transport.writeTimeout (by simp [limits]),
    hlimit config.client.connectionTimeout (by simp [limits])]

/-- A document that has the chosen parts of a configuration, in any order, with the level in any
spelling and among anything else that has no meaning, is read as these parts of it and the defaults
of the others. The same document without a single field of one of them is not read, for the lack of
that field. -/
theorem parseIn_of_shows {format : Toml.Format} {text : String} {table : Toml.Table}
    {chosen : Part → Bool} {config : Config} {spelling : String}
    (hread : format.read text = some table) (hshows : Shows chosen config spelling table)
    (hlimits : ∀ limit ∈ config.limits, ∃ milliseconds ≤ 2 ^ 63 - 1,
      limit = .ofMilliseconds milliseconds) :
    parseIn format text = .ok (config.keeping chosen) ∧
      ∀ part origin entries, (Part.name part, .table origin entries) ∈ table →
        ∀ field ∈ (config.part spelling part).entries.map Prod.fst, ∀ shortened,
          format.read shortened = some
              (Toml.Table.set part.name (.table origin (Toml.Table.erase field entries)) table) →
            parseIn format shortened = .error (.mismatch (.missingField field)) ∧
              ∃ reason, (parseIn format shortened).mapError Fault.toError =
                .error (.configuration reason) := by
  constructor
  · have hwhole := ofTable_of_shows hshows
    rw [stored_eq_self hlimits] at hwhole
    exact parseIn_of_ofTable hread hwhole
  · intro part origin entries hentries field hfield shortened hshortened
    have hkey : field ∈ (config.part spelling part).table.map Prod.fst := by
      rw [Toml.Section.table, List.map_map]
      exact hfield
    have hmissing := parseIn_of_mismatch hshortened (ofTable_of_short hshows hentries hkey)
    exact ⟨hmissing, _, congrArg (Except.mapError Fault.toError) hmissing⟩

/-- Two sections in another order than that of the settings, their fields too, among a key and a
section without a meaning, and with a level in another spelling. -/
def reordered : String :=
  "[logging]\njson_format = true\ncolour = 1\nlog_level = \"Debug\"\napp_name = \"node\"\n[other]\n" ++
    "[codec]\nenforce_version = false\nstrict_framing = true\n"

/-- The same without the level. -/
def shortened : String :=
  "[logging]\njson_format = true\ncolour = 1\napp_name = \"node\"\n[other]\n" ++
    "[codec]\nenforce_version = false\nstrict_framing = true\n"

def reorderedConfig : Config where
  codec := { enforceVersion := false }
  logging := ⟨"node", .debug, true⟩

def reorderedParts : Part → Bool
  | .codec | .logging => true
  | .transport | .client => false

def reorderedCodec : Toml.Table :=
  [("enforce_version", .boolean false), ("strict_framing", .boolean true)]

def reorderedLogging : Toml.Table :=
  [("json_format", .boolean true), ("colour", .integer 1), ("log_level", .string "Debug"),
    ("app_name", .string "node")]

def reorderedTable (logging : Toml.Table) : Toml.Table :=
  [("logging", .table .header logging), ("other", .table .header []),
    ("codec", .table .header reorderedCodec)]

theorem shows_reordered :
    Shows reorderedParts reorderedConfig "Debug" (reorderedTable reorderedLogging) where
  spelled := rfl
  distinct := by decide
  present part hpart := by
    cases part with
    | codec =>
      refine ⟨.header, reorderedCodec, by simp [reorderedTable, Part.name], by decide, ?_⟩
      simp [Config.part, Codec.asSection, Toml.Section.table, Toml.Atom.value, reorderedConfig,
        reorderedCodec]
    | logging =>
      refine ⟨.header, reorderedLogging, by simp [reorderedTable, Part.name], by decide, ?_⟩
      simp [Config.part, Logging.spelled, Toml.Section.table, Toml.Atom.value, reorderedConfig,
        reorderedLogging]
    | transport | client => contradiction
  absent part hpart := by
    cases part with
    | codec | logging => contradiction
    | transport | client => decide

theorem parse?_reordered : Toml.parse? reordered = some (reorderedTable reorderedLogging) := by
  cbv

theorem parse?_shortened :
    Toml.parse? shortened =
      some (reorderedTable (Toml.Table.erase "log_level" reorderedLogging)) := by
  cbv

theorem parseIn_of_shows_reordered :
    parse reordered = .ok reorderedConfig ∧
      parse shortened = .error (.mismatch (.missingField "log_level")) := by
  have hlimits : ∀ limit ∈ reorderedConfig.limits, ∃ milliseconds ≤ 2 ^ 63 - 1,
      limit = .ofMilliseconds milliseconds := by
    intro limit hlimit
    have hstandard : limit = .standard := by simpa [reorderedConfig, limits] using hlimit
    exact ⟨5000, by decide, hstandard⟩
  obtain ⟨hwhole, hmissing⟩ :=
    @parseIn_of_shows .standard _ _ _ _ _ parse?_reordered shows_reordered hlimits
  refine ⟨hwhole, (hmissing .logging .header reorderedLogging ?_ "log_level" ?_ _ parse?_shortened).1⟩
  · simp [reorderedTable, Part.name]
  · decide

end PeerLink.Config
