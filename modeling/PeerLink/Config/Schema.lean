import PeerLink.Config.Mismatch
import PeerLink.Config.Settings
import PeerLink.Text.Number

/-!
A configuration out of the table of a document. Entries are checked in the order in which they
were written, and the first that does not fit is reported; then a section must have all its
fields. A section that is left out keeps its defaults, an array gives the fields of a section by
position, and what has no meaning is passed over.
-/

set_option autoImplicit false
set_option relaxedAutoImplicit false

namespace PeerLink

/-- A level by its name, or by its verbosity from one to five. -/
def Log.Level.ofText? (text : String) : Option Log.Level :=
  ((Text.unsigned? UInt64.size text.toList).bind ofVerbosity?).or (ofWord? text)

theorem Log.Level.ofText?_word (level : Log.Level) : ofText? level.word = some level := by
  cases level <;> rfl

namespace Config

/-- The reading of a value as a field of that type. -/
abbrev FieldReader (α : Type) := Toml.Value → Except Mismatch α

namespace FieldReader

def boolean : FieldReader Bool
  | .boolean value => .ok value
  | value => .error (.wrongType (.ofValue value) .boolean)

def string : FieldReader String
  | .string value => .ok value
  | value => .error (.wrongType (.ofValue value) .string)

def natural (expected : Expected) : FieldReader Nat
  | .integer value => if value < 0 then .error (.negative value expected) else .ok value.toNat
  | value => .error (.wrongType (.ofValue value) expected)

def milliseconds : FieldReader Duration := fun value ↦
  (natural .milliseconds value).map Duration.ofMilliseconds

def level : FieldReader Log.Level := fun value ↦ do
  let text ← string value
  match Log.Level.ofText? text with
  | some level => return level
  | none => .error (.unknownLevel text)

/-- Whether a value fits, all else forgotten. -/
def check {α : Type} (reader : FieldReader α) : FieldReader Unit := fun value ↦
  (reader value).map fun _ ↦ ()

theorem natural_ofNat (expected : Expected) (value : Nat) :
    natural expected (.integer value) = .ok value := by
  rw [natural, if_neg (by omega), Int.toNat_natCast]

theorem level_of_ofText? {text : String} {level : Log.Level}
    (h : Log.Level.ofText? text = some level) : FieldReader.level (.string text) = .ok level := by
  show (match Log.Level.ofText? text with
    | some level => Except.ok level
    | none => .error (Mismatch.unknownLevel text)) = .ok level
  rw [h]

theorem check_eq_ok {α : Type} {reader : FieldReader α} {value : Toml.Value} {result : α}
    (h : reader value = .ok result) : check reader value = .ok () := by
  rw [check, h]
  rfl

end FieldReader

/-- Named fields in order, each with the check of its value. -/
abbrev Fields := List (String × FieldReader Unit)

/-- The first entry, as written, that does not fit its field is reported. -/
def Fields.check (fields : Fields) (table : Toml.Table) : Except Mismatch Unit :=
  table.forM fun (name, value) ↦
    match fields.lookup name with
    | some reader => reader value
    | none => .ok ()

theorem Fields.check_cons {fields : Fields} {name : String} {value : Toml.Value}
    {table : Toml.Table} {reader : FieldReader Unit} (hfield : fields.lookup name = some reader)
    (hvalue : reader value = .ok ()) :
    fields.check ((name, value) :: table) = fields.check table := by
  unfold Fields.check
  rw [List.forM_eq_forM, List.forM_cons]
  simp only [hfield, hvalue]
  rfl

/-- What a section is called in messages, and its fields. -/
structure Record where
  name : String
  fields : Fields

/-- Where the fields of a section come from. -/
inductive Source where
  | named (table : Toml.Table)
  | positional (items : List Toml.Value)

namespace Record

/-- A field that must be there. -/
def field {α : Type} (record : Record) (source : Source) (index : Nat) (name : String)
    (reader : FieldReader α) : Except Mismatch α :=
  match source with
  | .named table =>
    match table.lookup name with
    | some value => reader value
    | none => .error (.missingField name)
  | .positional items =>
    match items[index]? with
    | some value => reader value
    | none => .error (.missingElement index record.name record.fields.length)

/-- A section of any form, whose fields `collect` puts together. -/
def read {α : Type} (record : Record) (collect : Source → Except Mismatch α) : FieldReader α :=
  fun value ↦ do
    match value with
    | .table _ table =>
      record.fields.check table
      collect (.named table)
    | .moment => collect (.named [])
    | .array items => collect (.positional items)
    | .tables elements => collect (.positional (elements.map (.table .header)))
    | value => .error (.wrongType (.ofValue value) (.record record.name))

theorem read_table {α : Type} {record : Record} {collect : Source → Except Mismatch α}
    {origin : Toml.Origin} {table : Toml.Table} (h : record.fields.check table = .ok ()) :
    record.read collect (.table origin table) = collect (.named table) := by
  show Except.bind (record.fields.check table) (fun _ ↦ collect (.named table)) = _
  rw [h]
  rfl

theorem field_named {α : Type} {record : Record} {table : Toml.Table} {name : String}
    {value : Toml.Value} (h : table.lookup name = some value) (index : Nat)
    (reader : FieldReader α) :
    record.field (.named table) index name reader = reader value := by
  rw [Record.field, h]

end Record

namespace Codec

def record : Record where
  name := "CodecConfig"
  fields :=
    [("strict_framing", FieldReader.check .boolean), ("enforce_version", FieldReader.check .boolean)]

def reader : FieldReader Codec := record.read fun source ↦ do
  return ⟨← record.field source 0 "strict_framing" .boolean,
    ← record.field source 1 "enforce_version" .boolean⟩

end Codec

namespace Transport

def record : Record where
  name := "TransportConfig"
  fields :=
    [("read_buffer_size", FieldReader.check (.natural .size)),
     ("read_timeout", FieldReader.check .milliseconds),
     ("write_timeout", FieldReader.check .milliseconds)]

def reader : FieldReader Transport := record.read fun source ↦ do
  return ⟨← record.field source 0 "read_buffer_size" (.natural .size),
    ← record.field source 1 "read_timeout" .milliseconds,
    ← record.field source 2 "write_timeout" .milliseconds⟩

end Transport

namespace Client

def record : Record where
  name := "ClientConfig"
  fields :=
    [("address", FieldReader.check .string),
     ("connection_timeout", FieldReader.check .milliseconds)]

def reader : FieldReader Client := record.read fun source ↦ do
  return ⟨← record.field source 0 "address" .string,
    ← record.field source 1 "connection_timeout" .milliseconds⟩

end Client

namespace Logging

def record : Record where
  name := "LoggingConfig"
  fields :=
    [("app_name", FieldReader.check .string), ("log_level", FieldReader.check .level),
     ("json_format", FieldReader.check .boolean)]

def reader : FieldReader Logging := record.read fun source ↦ do
  return ⟨← record.field source 0 "app_name" .string,
    ← record.field source 1 "log_level" .level,
    ← record.field source 2 "json_format" .boolean⟩

end Logging

def sectionFields : Fields :=
  [("codec", FieldReader.check Codec.reader), ("transport", FieldReader.check Transport.reader),
   ("client", FieldReader.check Client.reader), ("logging", FieldReader.check Logging.reader)]

/-- A section, or its defaults if it was left out. -/
def optional {α : Type} (table : Toml.Table) (name : String) (reader : FieldReader α)
    (default : α) : Except Mismatch α :=
  match table.lookup name with
  | some value => reader value
  | none => .ok default

theorem optional_of_lookup {α : Type} {table : Toml.Table} {name : String} {value : Toml.Value}
    (h : table.lookup name = some value) (reader : FieldReader α) (default : α) :
    optional table name reader default = reader value := by
  rw [optional, h]

def ofTable (table : Toml.Table) : Except Mismatch Config := do
  sectionFields.check table
  return {
    codec := ← optional table "codec" Codec.reader {}
    transport := ← optional table "transport" Transport.reader {}
    client := ← optional table "client" Client.reader {}
    logging := ← optional table "logging" Logging.reader {} }

end Config

end PeerLink
