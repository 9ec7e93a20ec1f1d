import Converge.Node
import Converge.Pass
import Converge.Report.Journal
import Converge.Service.Recipe
import Converge.Settings.Load

set_option autoImplicit false

namespace Converge.Convergence

variable {ρ : Type}

/-- What a run is asked for besides its settings. -/
structure Request where
  platform : Option String := none
  -- Show the plan and run nothing.
  dryRun : Bool := false
  deriving DecidableEq, Repr

structure Ending (ρ : Type) where
  result : Except Failure Unit
  -- The plan that a dry run shows.
  plan : Option Plan := none
  -- The pass, if the run got as far.
  pass : Option (Pass.Ending ρ) := none
  events : List LogEvent
  host : Host ρ

/-- What a run works on, once everything about the node is known. -/
structure Task where
  platform : String
  declarations : List Declaration

def platformEvents (settings : Settings) (files : FileSystem) (asked : Option String) :
    List LogEvent :=
  let path := settings.paths.osRelease
  if (settings.namedPlatform? asked).isNone && (Platform.detect? files path).isNone then
    [⟨.debug, .platform, "No platform ID found in os-release", [("path", .text path.text)]⟩]
  else []

def registryEvent : LogEvent :=
  ⟨.debug, .registry, "Service registry initialized", [
    ("count", .nat Registry.builtIn.entries.length)]⟩

-- What finding out the task says, up to the error if there is one.
def taskEvents (settings : Settings) (files : FileSystem) (asked : Option String) :
    List LogEvent :=
  match settings.attributes files with
  | .error _ => []
  | .ok node =>
    platformEvents settings files asked ++ registryEvent ::
      Recipe.events .builtIn node settings.paths

def task (settings : Settings) (files : FileSystem) (asked : Option String) :
    Except Failure Task := do
  let node ← settings.attributes files
  match Recipe.declarations .builtIn node settings.paths with
  | .ok declarations => .ok ⟨settings.platform files asked, declarations⟩
  | .error e => .error (.apply e)

/-- The files after a pass, with its report in the journal if the settings ask for it. A journal
that cannot be written does not change the result of the run. -/
def file (settings : ReportSettings) (report : Report) (files : FileSystem) :
    FileSystem × List LogEvent :=
  if !settings.enabled then (files, [])
  else
    let opening := Journal.openingEvents files settings.path
    match Journal.write files settings.path report with
    | (.ok journal, written) => (written, opening ++ journal.writtenEvents written report)
    | (.error e, left) => (left, opening ++ [⟨.error, .program, "Failed to write convergence report", [
        ("error", .text (Failure.io e).message), ("path", .text settings.path.text)]⟩])

def run (settings : Settings) (request : Request) (runner : Runner ρ) (runId : RunId)
    (host : Host ρ) : Ending ρ :=
  let before := taskEvents settings host.files request.platform
  match task settings host.files request.platform with
  | .error e => { result := .error e, events := before, host := host }
  | .ok ⟨platform, declarations⟩ =>
    if request.dryRun then
      let events := before ++ Plan.events settings.paths host.files platform declarations
      match Plan.make settings.paths host.files platform declarations with
      | .error e => { result := .error (.apply e), events := events, host := host }
      | .ok plan => { result := .ok (), plan := some plan, events := events, host := host }
    else
      let pass := Pass.apply settings.paths runner runId platform declarations host
      -- A program that broke down comes to no report.
      let (files, filing) :=
        if pass.host.crash.isSome then (pass.host.files, [])
        else file settings.report pass.report pass.host.files
      { result := pass.result.mapError Failure.apply
        pass := some pass
        events := before ++ pass.events ++ filing
        host := { pass.host with files := files } }

end Converge.Convergence
