import Stencil.Rendered
import Stencil.Template.Error

/-!
# Log events

What the library tells the log. An event says what happened; its level, target, message and fields
follow from that.
-/

namespace Stencil

/-- How much an event matters, the most important first. -/
inductive Level where
  | error
  | warn
  | info
  | debug
  | trace
  deriving DecidableEq, Repr

namespace Level

/-- The place of a level among all levels, from `1`. -/
def rank : Level → Nat
  | .error => 1
  | .warn => 2
  | .info => 3
  | .debug => 4
  | .trace => 5

/-- The word for a level in a directive. -/
def name : Level → String
  | .error => "error"
  | .warn => "warn"
  | .info => "info"
  | .debug => "debug"
  | .trace => "trace"

/-- The word for a level in a log line. -/
def label : Level → String
  | .error => "ERROR"
  | .warn => "WARN"
  | .info => "INFO"
  | .debug => "DEBUG"
  | .trace => "TRACE"

end Level

/-- Something that happened. -/
inductive Event where
  /-- A template was made from a document. -/
  | templateCompiled (leaves : Nat)
  /-- A record of a batch was not rendered. -/
  | recordFailed (index : Nat) (error : TemplateError)
  | batchFinished (rendered failed : Nat)
  | templateCreated (id : String)
  | templateUpdated (id : String)
  | templateDeleted (id : String)
  | engineConfigured (undefined : Undefined) (fallback : FallbackScope)
  | tracingInitialized (filter : String) (json : Bool)
  deriving DecidableEq, Repr

namespace Event

def level : Event → Level
  | .templateCompiled _ | .batchFinished .. | .engineConfigured .. => .debug
  | .recordFailed .. => .warn
  | .templateCreated _ | .templateUpdated _ | .templateDeleted _ | .tracingInitialized .. => .info

/-- The area that an event belongs to. -/
def target : Event → String
  | .templateCompiled _ => "mailroom::template::compiler"
  | .recordFailed .. | .batchFinished .. => "mailroom::template::batch"
  | .templateCreated _ | .templateUpdated _ | .templateDeleted _ => "mailroom::template::store"
  | .engineConfigured .. => "mailroom::template::engine"
  | .tracingInitialized .. => "mailroom::telemetry"

def message : Event → String
  | .templateCompiled _ => "Template compiled"
  | .recordFailed .. => "Failed to render record"
  | .batchFinished .. => "Batch render finished"
  | .templateCreated _ => "Template created"
  | .templateUpdated _ => "Template updated"
  | .templateDeleted _ => "Template deleted"
  | .engineConfigured .. => "Template engine configured"
  | .tracingInitialized .. => "Tracing initialized"

/-- The name under which the log shows a policy. -/
def undefinedLabel : Undefined → String
  | .lenient => "Lenient"
  | .strict => "Strict"

/-- The name under which the log shows a scope. -/
def scopeLabel : FallbackScope → String
  | .topLevel => "TopLevel"
  | .allDepths => "AllDepths"
  | .disabled => "Disabled"

/-- The fields of an event, in the order in which a log line shows them. -/
def fields : Event → List (String × Json)
  | .templateCompiled leaves => [("leaves", .num (.int leaves))]
  | .recordFailed index error => [("index", .num (.int index)), ("error", .str error.message)]
  | .batchFinished rendered failed =>
    [("rendered", .num (.int rendered)), ("failed", .num (.int failed))]
  | .templateCreated id | .templateUpdated id | .templateDeleted id => [("template_id", .str id)]
  | .engineConfigured undefined fallback =>
    [("undefined", .str (undefinedLabel undefined)),
      ("missing_key_fallback", .str (scopeLabel fallback))]
  | .tracingInitialized filter json => [("level", .str filter), ("json", .bool json)]

/-- What the log shows of an event, beside the area that it belongs to. -/
def shown (event : Event) : Level × String × List (String × Json) :=
  (event.level, event.message, event.fields)

/-- An event as a JSON object: level, target, and the message among the fields. -/
def toJson (event : Event) : Json :=
  .ofPairs [
    ("level", .str event.level.label),
    ("target", .str event.target),
    ("fields", .ofPairs (("message", .str event.message) :: event.fields))]

/-- An event as a line of text: the level in five columns, the target, the message, and the fields
    with strings as they are. -/
def text (event : Event) : String :=
  let label := event.level.label
  let shown (field : String × Json) := " " ++ field.1 ++ "=" ++ field.2.inlineText
  "".pushn ' ' (5 - label.length) ++ label ++ " " ++ event.target ++ ": " ++ event.message
    ++ String.join (event.fields.map shown)

end Event

end Stencil
