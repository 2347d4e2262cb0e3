import PeerLink.Decimal.Shortest
import PeerLink.Text.Inspect
import PeerLink.Toml.Value

/-!
How a well-formed document can fail to be a configuration, and the words for it.
-/

set_option autoImplicit false
set_option relaxedAutoImplicit false

namespace PeerLink.Config

/-- A value as a message shows it. -/
inductive Found where
  | boolean (value : Bool)
  | integer (value : Int)
  | float (value : Binary64)
  | string (value : String)
  | sequence
  | map
  deriving DecidableEq

namespace Found

/-- Dates and times show as the maps that they are made of. -/
def ofValue : Toml.Value → Found
  | .boolean value => boolean value
  | .integer value => integer value
  | .float value => float value
  | .string value => string value
  | .moment => map
  | .array _ => sequence
  | .table _ _ => map
  | .tables _ => sequence

def describe : Found → String
  | boolean value => "boolean \x60" ++ (if value then "true" else "false") ++ "\x60"
  | integer value => "integer \x60" ++ toString value ++ "\x60"
  | float value => "floating point \x60" ++ value.text ++ "\x60"
  | string value => "string " ++ Text.inspect value
  | sequence => "sequence"
  | map => "map"

end Found

/-- What a field or a section has to be. -/
inductive Expected where
  | boolean
  | string
  | size
  | milliseconds
  | record (name : String)
  deriving DecidableEq

def Expected.describe : Expected → String
  | boolean => "a boolean"
  | string => "a string"
  | size => "usize"
  | milliseconds => "u64"
  | record name => "struct " ++ name

inductive Mismatch where
  | wrongType (found : Found) (expected : Expected)
  | negative (value : Int) (expected : Expected)
  | missingField (name : String)
  | missingElement (index : Nat) (record : String) (size : Nat)
  | unknownLevel (text : String)
  deriving DecidableEq

def Mismatch.message : Mismatch → String
  | wrongType found expected =>
    "invalid type: " ++ found.describe ++ ", expected " ++ expected.describe
  | negative value expected =>
    "invalid value: " ++ (Found.integer value).describe ++ ", expected " ++ expected.describe
  | missingField name => "missing field \x60" ++ name ++ "\x60"
  | missingElement index record size =>
    s!"invalid length {index}, expected struct {record} with {size} elements"
  | unknownLevel text => "Invalid log level: " ++ text

end PeerLink.Config
