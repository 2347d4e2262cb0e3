import PeerLink.Config.Fault
import PeerLink.Config.Schema
import PeerLink.Toml.Format

/-!
Configurations as documents. A document holds limits in whole milliseconds below 2^64, of which a
longer limit keeps the remainder, and no integer of 2^63 or more.
-/

set_option autoImplicit false
set_option relaxedAutoImplicit false

namespace PeerLink.Config

/-- The milliseconds that are saved for a limit. -/
def savedMilliseconds (limit : Duration) : Nat := limit.wholeMilliseconds % UInt64.size

def Codec.asSection (codec : Codec) : Toml.Section where
  name := "codec"
  entries :=
    [("strict_framing", .boolean codec.strictFraming),
     ("enforce_version", .boolean codec.enforceVersion)]

def Transport.asSection (transport : Transport) : Toml.Section where
  name := "transport"
  entries :=
    [("read_buffer_size", .integer transport.readBufferSize),
     ("read_timeout", .integer (savedMilliseconds transport.readTimeout)),
     ("write_timeout", .integer (savedMilliseconds transport.writeTimeout))]

def Client.asSection (client : Client) : Toml.Section where
  name := "client"
  entries :=
    [("address", .string client.address),
     ("connection_timeout", .integer (savedMilliseconds client.connectionTimeout))]

def Logging.asSection (logging : Logging) : Toml.Section where
  name := "logging"
  entries :=
    [("app_name", .string logging.appName), ("log_level", .string logging.level.word),
     ("json_format", .boolean logging.json)]

def sections (config : Config) : List Toml.Section :=
  [config.codec.asSection, config.transport.asSection, config.client.asSection,
    config.logging.asSection]

/-- The document that `config` is saved as in some format. -/
def printIn (format : Toml.Format) (config : Config) : Except Fault String :=
  match format.write config.sections with
  | some text => .ok text
  | none => .error .unwritable

/-- The configuration that a document in some format describes. -/
def parseIn (format : Toml.Format) (text : String) : Except Fault Config :=
  match format.read text with
  | none => .error .malformed
  | some table => (ofTable table).mapError Fault.mismatch

/-- The document that `config` is saved as. -/
def print (config : Config) : Except Fault String := config.printIn .standard

/-- The configuration that a document describes. -/
def parse (text : String) : Except Fault Config := parseIn .standard text

/-- A document to start from. -/
def exampleText : Except Fault String := print {}

end PeerLink.Config
