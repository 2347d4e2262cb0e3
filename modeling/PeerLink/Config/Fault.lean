import PeerLink.Config.Mismatch
import PeerLink.Config.Problem

/-!
Why settings could not be loaded, saved or used, and the error this is for a caller.
-/

set_option autoImplicit false
set_option relaxedAutoImplicit false

namespace PeerLink.Config

/-- Why a file could not be used. -/
inductive FileTrouble where
  | absent
  | isDirectory
  | notText
  deriving DecidableEq

def FileTrouble.message : FileTrouble → String
  | absent => "No such file or directory (os error 2)"
  | isDirectory => "Is a directory (os error 21)"
  | notText => "stream did not contain valid UTF-8"

inductive Fault where
  | cannotOpen (trouble : FileTrouble)
  | cannotRead (trouble : FileTrouble)
  | cannotWrite (trouble : FileTrouble)
  | malformed
  | mismatch (cause : Mismatch)
  | unwritable
  | invalid (problems : List Problem)
  | loggerInstalled
  deriving DecidableEq

namespace Fault

def message : Fault → String
  | cannotOpen trouble => "Failed to open config file: " ++ trouble.message
  | cannotRead trouble => "Failed to read config file: " ++ trouble.message
  | cannotWrite trouble => "Failed to write config file: " ++ trouble.message
  | malformed => "Failed to parse TOML"
  | mismatch _ => "Failed to parse TOML"
  | unwritable => "Failed to serialize config: out-of-range value for u64 type"
  | invalid problems =>
    "Configuration validation failed:\n  - " ++
      String.intercalate "\n  - " (problems.map Problem.message)
  | loggerInstalled =>
    "Failed to install logger: a global default trace dispatcher has already been set"

/-- What is wrong with the content of a document, where its form is right. -/
def detail? : Fault → Option String
  | mismatch cause => some cause.message
  | _ => none

/-- Whether the fault lies in the document itself. -/
def concernsDocument : Fault → Bool
  | malformed | mismatch _ => true
  | _ => false

def toError (fault : Fault) : ProtocolError := .configuration fault.message

end Fault

/-- A configuration without problems. -/
def check (config : Config) : Except Fault Unit :=
  if config.problems.isEmpty then .ok () else .error (.invalid config.problems)

end PeerLink.Config
