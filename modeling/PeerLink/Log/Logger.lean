import PeerLink.Config.Fault
import PeerLink.Log.Filter

/-!
The logger of a process. It is installed once; the filter that the environment asks for goes before
the configured level if it can be read.
-/

set_option autoImplicit false
set_option relaxedAutoImplicit false

namespace PeerLink.Log

/-- The form of a written event. -/
inductive Format where
  | plain
  | json
  deriving DecidableEq

structure Logger where
  filter : Filter
  format : Format

namespace Logger

def initialized (settings : Config.Logging) : Event where
  level := .info
  origin := .logging
  message := "Logging initialized"
  fields := [("app", .text settings.appName), ("level", .text settings.level.name)]

def ofSettings (requested : Option String) (settings : Config.Logging) : Logger where
  filter := (requested.bind Filter.ofText?).getD (.ofLevel settings.level)
  format := if settings.json then .json else .plain

/-- The logger installed from then on, with the event that reports it; a second one is refused. -/
def install (installed : Option Logger) (requested : Option String) (settings : Config.Logging) :
    Except Config.Fault (Logger × Event) :=
  match installed with
  | some _ => .error .loggerInstalled
  | none => .ok (.ofSettings requested settings, initialized settings)

/-- The events that are written, in order. -/
def written (logger : Logger) (events : List Event) : List Event :=
  events.filter logger.filter.admits

end Logger

end PeerLink.Log
