import Converge.Cli.Options
import Converge.Convergence
import Converge.Execution.Wait
import Converge.Log.Filter

set_option autoImplicit false

namespace Converge.Cli

variable {ρ : Type}

-- What is told in place of the way to a breakdown.
def backtraceNote : String :=
  "note: run with `RUST_BACKTRACE=1` environment variable to display a backtrace\n"

/-- What the program is given besides its words. -/
structure Context where
  -- Which events to write, in place of what the settings say.
  logFilter : Option String := none
  runId : RunId
  -- The number of the thread at work, and what is told of the way to a breakdown.
  thread : Nat := 1
  trace : String := backtraceNote

inductive LogFormat where
  | pretty
  | json
  deriving DecidableEq, Repr

structure Conclusion (ρ : Type) where
  success : Bool
  stdout : String := ""
  stderr : String := ""
  -- The events that pass the filter, and how they are written.
  events : List LogEvent := []
  format : LogFormat := .pretty
  host : Host ρ

/-- Settings that are named have to be there; without a name a missing file means the defaults. -/
def loadSettings (files : FileSystem) : Option String → Except ConfigError Settings
  | some path => Settings.load files path
  | none => if files.pathExists defaultConfig then Settings.load files defaultConfig else .ok {}

def formatOf (settings : Settings) : LogFormat :=
  if Settings.folded settings.logging.format = "json" then .json else .pretty

def crashStatus : Nat := 101

def Conclusion.status (c : Conclusion ρ) : Nat :=
  if c.host.crash.isSome then crashStatus else if c.success then 0 else 1

def eventLine (format : LogFormat) (event : LogEvent) : String :=
  match format with
  | .json => event.toJson.compact
  | .pretty => event.pretty

def Conclusion.output (c : Conclusion ρ) : String :=
  String.join (c.events.map fun event => eventLine c.format event ++ "\n") ++ c.stdout

def startEvent : LogEvent := ⟨.info, .program, "Starting " ++ programName ++ " v" ++ version, []⟩

def endEvents : Except Failure Unit → List LogEvent
  | .ok () => []
  | .error e => [⟨.error, .program, "Service convergence failed", [("error", .text e.message)]⟩]

def crashText (context : Context) (c : Crash) : String :=
  "\nthread 'main' (" ++ toString context.thread ++ ") panicked at " ++ c.place ++ ":\n" ++
    c.words ++ "\n" ++ context.trace

def planText : Option Plan → String
  | some plan => plan.toJson.pretty ++ "\n"
  | none => ""

def converge (context : Context) (settings : Settings) (options : Options)
    (runner : Nat → Runner ρ) (host : Host ρ) : Conclusion ρ :=
  let ending := Convergence.run settings ⟨options.platform, options.dryRun⟩
    (runner (settings.limits.timeoutSeconds * Execution.second)) context.runId host
  let crash := ending.host.crash
  let events := startEvent :: ending.events ++
    if crash.isSome then [] else endEvents ending.result
  let filter := Log.Filter.choose context.logFilter settings.logging.level
  { success := match ending.result with
      | .ok () => true
      | .error _ => false
    stdout := planText ending.plan
    stderr := (crash.map (crashText context)).getD ""
    events := events.filter filter.passes
    format := formatOf settings
    host := ending.host }

/-- The program. `runner` makes a runner for a timeout in nanoseconds; `words` starts with the name
under which the program was called. -/
def run (context : Context) (runner : Nat → Runner ρ) (words : List String) (host : Host ρ) :
    Conclusion ρ :=
  if asksForHelp words then { success := true, stdout := helpText, host := host }
  else if asksForVersion words then { success := true, stdout := versionText, host := host }
  else
    let options := Options.parse words
    match loadSettings host.files options.config with
    | .error e =>
      { success := false
        stderr := "Error loading configuration: " ++ (Failure.config e).message ++ "\n"
        host := host }
    | .ok settings => converge context settings options runner host

end Converge.Cli
