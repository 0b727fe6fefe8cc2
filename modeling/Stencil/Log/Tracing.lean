import Stencil.Log.Filter
import Stencil.Log.Logged
import Stencil.Settings.Basic
import Stencil.Surroundings

/-!
# Setting up the log

The log of a process is set up once: a filter, and the format of its lines. From then on each event
that passes the filter is a line.
-/

namespace Stencil

/-- Why the log was not set up. -/
inductive TracingError where
  | invalidFilter (text : String) (fault : FilterFault)
  /-- The process has a log already. -/
  | alreadySet
  deriving DecidableEq, Repr

namespace TracingError

def message : TracingError → String
  | .invalidFilter text fault => "Invalid log filter `" ++ text ++ "`: " ++ fault.message
  | .alreadySet =>
    "Failed to install tracing subscriber: a global default trace dispatcher has already been set"

/-- The wording of an error among errors of other areas. -/
def reportedMessage (e : TracingError) : String := "Telemetry error: " ++ e.message

def code (_ : TracingError) : String := "TELEMETRY_ERROR"

end TracingError

/-- A log: what passes, and how it is written. -/
structure Tracing where
  filter : Filter
  json : Bool
  deriving DecidableEq, Repr

namespace Tracing

/-- The variable whose filter comes before the one of the settings. -/
def filterVariable : String := "RUST_LOG"

/-- The filter of a process: the one of the variable, if it is set and well formed, or else the one
    of the settings. -/
def filterOf (settings : LogSettings) (env : Variables) : Except TracingError Filter :=
  match (env.lookup filterVariable).map Filter.ofText with
  | some (.ok filter) => .ok filter
  | _ => (Filter.ofText settings.level).mapError (.invalidFilter settings.level)

/-- Sets up the log of a process that has the log `present`. -/
def init (settings : LogSettings) (env : Variables) (present : Option Tracing) :
    Logged (Except TracingError Unit × Option Tracing) :=
  match filterOf settings env with
  | .error e => return (.error e, present)
  | .ok filter =>
    match present with
    | some log => return (.error .alreadySet, some log)
    | none => do
      Logged.tell (.tracingInitialized settings.level settings.json)
      return (.ok (), some ⟨filter, settings.json⟩)

/-- The line of an event; in the text format it is a string. -/
def line (log : Tracing) (event : Event) : Json :=
  if log.json then event.toJson else .str event.text

/-- The lines of all events that pass. -/
def lines (log : Tracing) (events : List Event) : List Json :=
  (events.filter log.filter.admits).map log.line

end Tracing

end Stencil
