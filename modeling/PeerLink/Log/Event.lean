/-!
Log events as data: a level, the component that reports, a message and named fields. `line` is the
plain rendering of an event.
-/

set_option autoImplicit false
set_option relaxedAutoImplicit false

namespace PeerLink.Log

inductive Level where
  | trace
  | debug
  | info
  | warn
  | error
  deriving DecidableEq

namespace Level

def all : List Level := [.trace, .debug, .info, .warn, .error]

def name : Level → String
  | trace => "TRACE"
  | debug => "DEBUG"
  | info => "INFO"
  | warn => "WARN"
  | error => "ERROR"

/-- The name as configuration files write it. -/
def word : Level → String
  | trace => "trace"
  | debug => "debug"
  | info => "info"
  | warn => "warn"
  | error => "error"

/-- How much a filter at this level lets through, `error` being the least. -/
def verbosity : Level → Nat
  | error => 1
  | warn => 2
  | info => 3
  | debug => 4
  | trace => 5

def ofVerbosity? (verbosity : Nat) : Option Level :=
  all.find? fun level ↦ level.verbosity == verbosity

/-- ASCII letters count the same in both cases. -/
def ofWord? (word : String) : Option Level :=
  all.find? fun level ↦ level.word.toList == word.toList.map Char.toLower

end Level

/-- The component that reports an event. -/
inductive Origin where
  | logging
  | counters
  | dispatcher
  | codec
  | transport
  | connection
  deriving DecidableEq

namespace Origin

/-- The path under which filters select the component. -/
def path : Origin → String
  | logging => "peer_protocol::utils::logging"
  | counters => "peer_protocol::utils::metrics"
  | dispatcher => "peer_protocol::protocol::dispatcher"
  | codec => "peer_protocol::core::codec"
  | transport => "peer_protocol::transport"
  | connection => "peer_protocol::transport::connection"

end Origin

inductive FieldValue where
  | number (value : Nat)
  | text (value : String)
  deriving DecidableEq

namespace FieldValue

def render : FieldValue → String
  | number value => toString value
  | text value => value

end FieldValue

structure Event where
  level : Level
  origin : Origin
  message : String
  fields : List (String × FieldValue) := []
  deriving DecidableEq

namespace Event

/-- The level right-aligned in five columns, the path, the message, then the fields. -/
def line (event : Event) : String :=
  let level := String.ofList (List.replicate (5 - event.level.name.length) ' ') ++ event.level.name
  let fields := event.fields.map fun (name, value) ↦ " " ++ name ++ "=" ++ value.render
  level ++ " " ++ event.origin.path ++ ": " ++ event.message ++ String.join fields

end Event

end PeerLink.Log
