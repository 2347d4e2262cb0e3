import Mathlib.Algebra.Group.Nat.Defs
import Mathlib.Tactic.SplitIfs
import PeerLink.Config.Environment

/-!
Settings from the environment. Each override has a variable of its own and takes the values that
texts can write for it: a number is an optional plus sign and decimal digits, with any zeros in
front, below 2^64. A variable with such a text sets its field, any other keeps the field at its
default, and no variable has a say in any other field (`ofEnvironment_settled`).
-/

set_option autoImplicit false
set_option relaxedAutoImplicit false

namespace PeerLink

/-! ### Numbers in decimal -/

/-- The text is an optional plus sign and decimal digits, at least one, of that value. -/
def Text.IsDecimal (text : List Char) (value : Nat) : Prop :=
  ∃ sign digits, text = sign ++ digits ∧ (sign = [] ∨ sign = ['+']) ∧ digits ≠ [] ∧
    (∀ char ∈ digits, char.isDigit = true) ∧ Nat.ofDigitChars 10 digits 0 = value

namespace Text

/-- In decimal a letter is no digit: its value is ten or more. -/
theorem isDigit_ten (char : Char) : isDigit 10 char = char.isDigit := by
  by_cases h : char.isDigit = true
  · rw [isDigit, digit?_of_isDigit h, h]
    rfl
  · have hnone : digit? 10 char = none := by
      unfold digit?
      simp only [h]
      split_ifs
      all_goals first | rfl | omega
    rw [isDigit, hnone, eq_false_of_ne_true h]
    rfl

theorem number?_eq_some_iff {digits : List Char} {value : Nat} :
    number? 10 digits = some value ↔
      digits ≠ [] ∧ (∀ char ∈ digits, char.isDigit = true) ∧
        Nat.ofDigitChars 10 digits 0 = value := by
  have hall : digits.all (isDigit 10) = true ↔ ∀ char ∈ digits, char.isDigit = true := by
    simp only [List.all_eq_true, isDigit_ten]
  unfold number?
  split_ifs with h
  · have hdigits := hall.mp h.2
    rw [Option.some_inj, ofDigits_eq_ofDigitChars hdigits]
    exact ⟨fun hvalue ↦ ⟨h.1, hdigits, hvalue⟩, fun hwritten ↦ hwritten.2.2⟩
  · refine ⟨nofun, fun hwritten ↦ ?_⟩
    exact absurd ⟨hwritten.1, hall.mpr hwritten.2.1⟩ h

theorem unsigned?_eq_some_iff {limit value : Nat} {text : List Char} :
    unsigned? limit text = some value ↔ IsDecimal text value ∧ value < limit := by
  unfold unsigned?
  rw [Option.filter_eq_some_iff, decide_eq_true_eq]
  refine and_congr_left fun _ ↦ ?_
  constructor
  · intro h
    split at h
    · exact ⟨['+'], _, rfl, .inr rfl, number?_eq_some_iff.mp h⟩
    · exact ⟨[], _, rfl, .inl rfl, number?_eq_some_iff.mp h⟩
  · rintro ⟨sign, digits, rfl, hsign, hdigits⟩
    rcases hsign with rfl | rfl
    · split
      -- No digit is a plus sign.
      · rename_i others heq
        have hplus : digits = '+' :: others := heq
        exact absurd (hdigits.2.1 '+' (hplus ▸ List.mem_cons_self)) (by decide)
      · exact number?_eq_some_iff.mpr hdigits
    · exact number?_eq_some_iff.mpr hdigits

end Text

namespace Config

/-! ### Variables -/

/-- A setting that has a variable of its own. -/
inductive Setting where
  | strictFraming
  | readBufferSize
  | readTimeout
  | writeTimeout
  | address

namespace Setting

def variableName : Setting → String
  | strictFraming => "PEER_PROTOCOL_STRICT_FRAMING"
  | readBufferSize => "PEER_PROTOCOL_READ_BUFFER_SIZE"
  | readTimeout => "PEER_PROTOCOL_READ_TIMEOUT_MS"
  | writeTimeout => "PEER_PROTOCOL_WRITE_TIMEOUT_MS"
  | address => "PEER_PROTOCOL_ADDRESS"

abbrev Value : Setting → Type
  | strictFraming => Bool
  | readBufferSize => Nat
  | readTimeout => Duration
  | writeTimeout => Duration
  | address => String

def field : (setting : Setting) → Config → setting.Value
  | strictFraming, config => config.codec.strictFraming
  | readBufferSize, config => config.transport.readBufferSize
  | readTimeout, config => config.transport.readTimeout
  | writeTimeout, config => config.transport.writeTimeout
  | address, config => config.client.address

/-- The text is in decimal that number of milliseconds. -/
def WritesLimit (text : String) (limit : Duration) : Prop :=
  ∃ milliseconds < 2 ^ 64, Text.IsDecimal text.toList milliseconds ∧
    limit = .ofMilliseconds milliseconds

/-- The text writes the value; an address is any text. -/
def Writes : (setting : Setting) → String → setting.Value → Prop
  | strictFraming, text, value => text = "true" ∧ value = true ∨ text = "false" ∧ value = false
  | readBufferSize, text, value => Text.IsDecimal text.toList value ∧ value < 2 ^ 64
  | readTimeout, text, value => WritesLimit text value
  | writeTimeout, text, value => WritesLimit text value
  | address, text, value => value = text

/-- What the environment has for the setting. -/
def value? (environment : Environment) : (setting : Setting) → Option setting.Value
  | strictFraming => environment.boolean? strictFraming.variableName
  | readBufferSize => environment.number? readBufferSize.variableName
  | readTimeout => environment.limit? readTimeout.variableName
  | writeTimeout => environment.limit? writeTimeout.variableName
  | address => environment.text? address.variableName

end Setting

namespace Environment

/-- The variable of the setting holds the octets of a text that writes the value. -/
def Sets (environment : Environment) (setting : Setting) (value : setting.Value) : Prop :=
  ∃ text, environment setting.variableName = some (.ofText text) ∧ setting.Writes text value

variable {environment : Environment} {name : String}

theorem text?_eq_some_iff {text : String} :
    environment.text? name = some text ↔ environment name = some (.ofText text) := by
  rw [text?, Option.bind_eq_some_iff]
  simp only [Bytes.text?_eq_some_iff]
  simp

theorem boolean?_eq_some_iff {value : Bool} :
    environment.boolean? name = some value ↔ ∃ text,
      environment name = some (.ofText text) ∧
        (text = "true" ∧ value = true ∨ text = "false" ∧ value = false) := by
  rw [boolean?, Option.bind_eq_some_iff]
  simp only [text?_eq_some_iff]
  refine exists_congr fun text ↦ and_congr_right fun _ ↦ ?_
  split_ifs with htrue hfalse
  · simp [htrue, eq_comm]
  · simp [hfalse, eq_comm]
  · simp [htrue, hfalse]

theorem number?_eq_some_iff {value : Nat} :
    environment.number? name = some value ↔ ∃ text,
      environment name = some (.ofText text) ∧ Text.IsDecimal text.toList value ∧
        value < 2 ^ 64 := by
  have hsize : UInt64.size = 2 ^ 64 := rfl
  rw [number?, Option.bind_eq_some_iff, hsize]
  simp only [text?_eq_some_iff, Text.unsigned?_eq_some_iff]

theorem limit?_eq_some_iff {limit : Duration} :
    environment.limit? name = some limit ↔ ∃ text,
      environment name = some (.ofText text) ∧ Setting.WritesLimit text limit := by
  rw [limit?, Option.map_eq_some_iff]
  simp only [number?_eq_some_iff]
  constructor
  · rintro ⟨milliseconds, ⟨text, htext, hdecimal, hlt⟩, rfl⟩
    exact ⟨text, htext, milliseconds, hlt, hdecimal, rfl⟩
  · rintro ⟨text, htext, milliseconds, hlt, hdecimal, rfl⟩
    exact ⟨milliseconds, ⟨text, htext, hdecimal, hlt⟩, rfl⟩

end Environment

/-! ### Fields -/

namespace Setting

variable {environment other : Environment} {setting : Setting}

theorem value?_eq_some_iff {value : setting.Value} :
    setting.value? environment = some value ↔ environment.Sets setting value := by
  cases setting with
  | strictFraming => exact Environment.boolean?_eq_some_iff
  | readBufferSize => exact Environment.number?_eq_some_iff
  | readTimeout => exact Environment.limit?_eq_some_iff
  | writeTimeout => exact Environment.limit?_eq_some_iff
  | address =>
    exact Environment.text?_eq_some_iff.trans ⟨fun h ↦ ⟨_, h, rfl⟩, fun ⟨_, h, heq⟩ ↦ heq ▸ h⟩

theorem value?_eq_none_iff :
    setting.value? environment = none ↔ ∀ value, ¬environment.Sets setting value := by
  simp only [Option.eq_none_iff_forall_ne_some, ne_eq, value?_eq_some_iff]

theorem value?_congr
    (h : ∀ value, environment.Sets setting value ↔ other.Sets setting value) :
    setting.value? environment = setting.value? other := by
  refine Option.ext fun value ↦ ?_
  rw [value?_eq_some_iff, value?_eq_some_iff]
  exact h value

theorem field_ofEnvironment (setting : Setting) (environment : Environment) :
    setting.field (ofEnvironment environment) =
      (setting.value? environment).getD (setting.field {}) := by
  cases setting <;> rfl

end Setting

theorem ofEnvironment_congr {environment other : Environment}
    (h : ∀ setting : Setting, setting.value? environment = setting.value? other) :
    ofEnvironment environment = ofEnvironment other := by
  have hframing : environment.boolean? "PEER_PROTOCOL_STRICT_FRAMING" = _ := h .strictFraming
  have hsize : environment.number? "PEER_PROTOCOL_READ_BUFFER_SIZE" = _ := h .readBufferSize
  have hread : environment.limit? "PEER_PROTOCOL_READ_TIMEOUT_MS" = _ := h .readTimeout
  have hwrite : environment.limit? "PEER_PROTOCOL_WRITE_TIMEOUT_MS" = _ := h .writeTimeout
  have haddress : environment.text? "PEER_PROTOCOL_ADDRESS" = _ := h .address
  rw [ofEnvironment, hframing, hsize, hread, hwrite, haddress]
  rfl

/-- In every environment a setting is what its own variable writes, and its default if that is no
value of it; what has no variable is always its default. So a setting depends on the usable value of
its own variable alone, and environments with the same usable values give the same configuration. -/
theorem ofEnvironment_settled (environment : Environment) :
    (∀ (setting : Setting) (value : setting.Value), environment.Sets setting value →
        setting.field (ofEnvironment environment) = value) ∧
      (∀ setting : Setting, (∀ value, ¬environment.Sets setting value) →
        setting.field (ofEnvironment environment) = setting.field {}) ∧
      ((ofEnvironment environment).codec.enforceVersion = ({} : Config).codec.enforceVersion ∧
        (ofEnvironment environment).client.connectionTimeout =
          ({} : Config).client.connectionTimeout ∧
        (ofEnvironment environment).logging = ({} : Config).logging) ∧
      (∀ (other : Environment) (setting : Setting),
        (∀ value, environment.Sets setting value ↔ other.Sets setting value) →
          setting.field (ofEnvironment environment) = setting.field (ofEnvironment other)) ∧
      ∀ other : Environment,
        (∀ (setting : Setting) (value : setting.Value),
          environment.Sets setting value ↔ other.Sets setting value) →
          ofEnvironment environment = ofEnvironment other := by
  refine ⟨?_, ?_, ⟨rfl, rfl, rfl⟩, ?_, ?_⟩
  · intro setting value hsets
    rw [setting.field_ofEnvironment, Setting.value?_eq_some_iff.mpr hsets, Option.getD_some]
  · intro setting hnone
    rw [setting.field_ofEnvironment, Setting.value?_eq_none_iff.mpr hnone, Option.getD_none]
  · intro other setting hsame
    rw [setting.field_ofEnvironment, setting.field_ofEnvironment, Setting.value?_congr hsame]
  · intro other hsame
    exact ofEnvironment_congr fun setting ↦ Setting.value?_congr (hsame setting)

def Environment.ofVariables (entries : List (String × Bytes)) : Environment :=
  fun name ↦ entries.lookup name

/-- One usable number among texts that miss theirs by little, and octets that are no text. -/
def nearMisses : Environment := .ofVariables
  [("PEER_PROTOCOL_READ_TIMEOUT_MS", .ofText "+000000000000000000000250"),
    ("PEER_PROTOCOL_WRITE_TIMEOUT_MS", .ofText "+"),
    ("PEER_PROTOCOL_READ_BUFFER_SIZE", .ofText "18446744073709551616"),
    ("PEER_PROTOCOL_STRICT_FRAMING", .ofText "False"), ("PEER_PROTOCOL_ADDRESS", [255])]

/-- The same number alone, without the sign and the zeros. -/
def bareNumber : Environment := .ofVariables [("PEER_PROTOCOL_READ_TIMEOUT_MS", .ofText "250")]

theorem ofEnvironment_settled_near_misses :
    (ofEnvironment nearMisses).transport.readTimeout = .ofMilliseconds 250 ∧
      (ofEnvironment nearMisses).transport.readBufferSize = 4096 ∧
      (ofEnvironment nearMisses).client.address = "127.0.0.1:7946" ∧
      ofEnvironment nearMisses = ofEnvironment bareNumber := by
  have hvalues : ∀ setting : Setting,
      setting.value? nearMisses = setting.value? bareNumber := by
    intro setting
    cases setting <;> rfl
  obtain ⟨hset, hunset, -, -, hsame⟩ := ofEnvironment_settled nearMisses
  refine ⟨hset .readTimeout _ (Setting.value?_eq_some_iff.mp rfl),
    hunset .readBufferSize (Setting.value?_eq_none_iff.mp rfl),
    hunset .address (Setting.value?_eq_none_iff.mp rfl), hsame bareNumber fun setting value ↦ ?_⟩
  rw [← Setting.value?_eq_some_iff, ← Setting.value?_eq_some_iff, hvalues]

end Config

end PeerLink
