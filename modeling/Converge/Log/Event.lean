import Converge.Json.Value
import Converge.Text.Basic

set_option autoImplicit false

namespace Converge

namespace Log

inductive Level where
  | trace
  | debug
  | info
  | warn
  | error
  deriving DecidableEq, Repr

def Level.rank : Level → Nat
  | .trace => 1
  | .debug => 2
  | .info => 3
  | .warn => 4
  | .error => 5

def Level.name : Level → String
  | .trace => "TRACE"
  | .debug => "DEBUG"
  | .info => "INFO"
  | .warn => "WARN"
  | .error => "ERROR"

/-- The parts of the program that say something. -/
inductive Source where
  | program
  | platform
  | registry
  | recipe
  | plan
  | pass
  | control
  | process
  | journal
  deriving DecidableEq, Repr

def Source.path : Source → String
  | .program => "scalaris_svc"
  | .platform => "scalaris_svc::config::platform"
  | .registry => "scalaris_svc::services::registry"
  | .recipe => "scalaris_svc::services::recipe"
  | .plan => "scalaris_svc::applier::plan"
  | .pass => "scalaris_svc::applier::apply"
  | .control => "scalaris_svc::provider::init"
  | .process => "scalaris_svc::executor::subprocess"
  | .journal => "scalaris_svc::report::writer"

def exitCode : Option Int → Json
  | some code => .text ("Some(" ++ String.ofList (Text.Decimal.ofInt code) ++ ")")
  | none => .text "None"

end Log

structure LogEvent where
  level : Log.Level
  source : Log.Source
  message : String
  fields : List (String × Json) := []

namespace LogEvent

-- The names of an event's values; its message is one of them.
def fieldNames (event : LogEvent) : List String := "message" :: event.fields.map (·.1)

def toJson (event : LogEvent) : Json :=
  .object [
    ("level", .text event.level.name),
    ("fields", .object (("message", .text event.message) :: event.fields))]

def pretty (event : LogEvent) : String :=
  event.level.name ++ " " ++ event.message ++
    String.join (event.fields.map fun field => ", " ++ field.1 ++ ": " ++ field.2.compact)

end LogEvent

end Converge
