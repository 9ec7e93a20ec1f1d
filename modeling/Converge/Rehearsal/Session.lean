import Converge.Rehearsal.Script
import Converge.Rehearsal.World

set_option autoImplicit false

namespace Converge.Rehearsal

open Converge.Process (Machine)

structure Session where
  stage : Stage
  host : Host Script
  paths : Paths
  registry : Registry := .builtIn
  report : Option Report := none
  runs : Nat := 0

/-- Declarations, written out or taken from the recipe. -/
inductive Declared where
  | written (ds : List Declaration)
  -- With `only`, these are the desired actions of each.
  | recipe (startFirst : Bool) (only : Option (List Action))

inductive Step where
  | cue (c : Cue)
  | effect (line : String) (cues : List Cue)
  | list
  | read (path : OsString)
  | processes (timeout : Nat)
  | run (c : Command)
  | executed
  | clear
  | hasService (service : String)
  | queryStatus (kind : ProviderKind) (service : String)
  | isEnabled (kind : ProviderKind) (service : String)
  | start (kind : ProviderKind) (service : String)
  | restart (kind : ProviderKind) (service : String)
  | enable (kind : ProviderKind) (service : String)
  | stop (kind : ProviderKind) (d : Declaration)
  | plan (ds : Declared) (platform : String)
  | apply (ds : Declared) (platform : String) (strict : Bool)
  | configure (settings : FileSystem → Except ConfigError Settings) (platform : Option String)
  | register (d : Definition)
  | get (service : String)
  | recipe (startFirst : Bool)
  | beginReport (platform : String)
  | recordOutcome (o : Outcome)
  | finishReport
  | failReport (e : ApplyError)
  | writeReport (path : OsString) (times : Nat)
  | readReport (path : OsString)
  | loadNode (path : OsString)
  | detectPlatform (path : OsString)
  | program (words : List String) (logFilter : Option String) (logs : Bool)

/-- What the settings of a configured run lead to. -/
structure Configured where
  settings : Settings
  platform : String
  node : Except Failure NodeAttributes
  recipe : Option (Except ApplyError (List Declaration))

inductive Answer where
  | done
  | truth (b : Bool)
  | text (t : Option String)
  | texts (ts : List String)
  | refused (e : ApplyError)
  | failed (e : Failure)
  | result (r : CommandResult)
  | plan (p : Plan)
  | pass (result : Except ApplyError Unit) (report : Option Report) (lines : List String)
  | configured (c : Configured)
  | definition (d : Option Definition)
  | declarations (ds : List Declaration)
  | report (r : Report)
  | journal (content : Option String)
  | node (n : NodeAttributes)
  | program (c : Cli.Conclusion Script) (logs : Bool)

namespace Session

def start (stage : Stage) (paths : Paths) (files : FileSystem) : Session where
  stage := stage
  host := {
    files := files, clock := stage.uptime, wall := stage.time
    rest := { environment := stage.environment } }
  paths := paths

def setScript (s : Session) (change : Script → Script) : Session :=
  { s with host := { s.host with rest := change s.host.rest } }

-- Does work on the host and answers with its result.
def doing {α : Type} (s : Session) (kind : ProviderKind) (work : Provider Script → Work Script α)
    (answer : α → Answer) : Session × Answer :=
  let (result, p) := (work ⟨kind, s.paths, runner s.stage.programs⟩).run { host := s.host }
  let s := { s with host := p.host }
  match result with
  | .ok a => (s, answer a)
  | .error e => (s, .refused e)

def declared (s : Session) : Declared → Except ApplyError (List Declaration)
  | .written ds => .ok ds
  | .recipe startFirst only => do
    let ds ← Recipe.declarations .builtIn ⟨startFirst⟩ s.paths
    .ok (ds.map fun d => { d with desired := only.getD d.desired })

def nextRun (s : Session) : RunId × Session := (.ofNat s.runs, { s with runs := s.runs + 1 })

def plan (s : Session) (ds : Declared) (platform : String) : Answer :=
  match (s.declared ds).bind (Plan.make s.paths s.host.files platform) with
  | .ok p => .plan p
  | .error e => .refused e

def apply (s : Session) (ds : Declared) (platform : String) (strict : Bool) : Session × Answer :=
  match s.declared ds with
  | .error e => (s, .refused e)
  | .ok declarations =>
    let (runId, s) := s.nextRun
    let s := s.setScript fun script => { script with executed := [] }
    let ending := Pass.apply s.paths (runner s.stage.programs) runId platform declarations s.host
    let shown := match ending.result with
      | .error _ => if strict then none else some ending.report
      | .ok () => some ending.report
    let s := { s with host := ending.host, report := shown.orElse fun _ => s.report }
    (s, .pass ending.result shown s.host.rest.executed)

def configure (s : Session) (load : FileSystem → Except ConfigError Settings)
    (asked : Option String) : Session × Answer :=
  match load s.host.files with
  | .error e => (s, .failed (.config e))
  | .ok settings =>
    let node := settings.attributes s.host.files
    ({ s with paths := settings.paths },
      .configured {
        settings := settings
        platform := settings.platform s.host.files asked
        node := node
        recipe := match node with
          | .ok n => some (Recipe.declarations s.registry n settings.paths)
          | .error _ => none })

-- Changes the current report, if there is one, and answers with it.
def amend (s : Session) (change : Report → Report) : Session × Answer :=
  match s.report with
  | some r => ({ s with report := some (change r) }, .report (change r))
  | none => (s, .done)

-- Adds a report to a journal so many times, up to the first refusal.
def appendTimes (journal : Journal) (r : Report) : Nat → FileSystem → Option OsError × FileSystem
  | 0, files => (none, files)
  | times + 1, files =>
    match journal.append files r with
    | .ok written => appendTimes journal r times written
    | .error e => (some e, files)

-- Writes the current report to a journal, a number of times.
def writeReport (s : Session) (path : OsString) (times : Nat) : Session × Answer :=
  match Journal.openAt s.host.files path with
  | (.error e, files) => ({ s with host := { s.host with files := files } }, .failed (.io e))
  | (.ok journal, files) =>
    let (refusal, written) := match s.report with
      | some r => appendTimes journal r times files
      | none => (none, files)
    ({ s with host := { s.host with files := written } },
      match refusal with
      | some e => .failed (.io e)
      | none => .text (some path.text))

def runProgram (s : Session) (words : List String) (logFilter : Option String) (logs : Bool) :
    Session × Answer :=
  let (runId, s) := s.nextRun
  let conclusion := Cli.run { logFilter := logFilter, runId := runId }
    (Execution.run (Machine.processes s.stage.programs s.stage.environment))
    (Cli.programName :: words) s.host
  ({ s with host := { conclusion.host with crash := none } }, .program conclusion logs)

def step (s : Session) : Step → Session × Answer
  | .cue c => ({ s with host := follow s.host c }, .done)
  | .effect line cues =>
    (s.setScript fun script => { script with effects := (line, cues) :: script.effects }, .done)
  | .list => (s, .texts (s.host.files.listing s.stage.root))
  | .read path => (s, .text (s.host.files.readText path).toOption)
  | .processes timeout =>
    (s.setScript fun script => { script with processes := some timeout }, .done)
  | .run c => s.doing .genericInit (fun p => Work.issue p.runner c) .result
  | .executed => (s, .texts s.host.rest.executed)
  | .clear => (s.setScript fun script => { script with executed := [] }, .done)
  | .hasService service => (s, .truth (Provider.hasService s.paths s.host.files service))
  | .queryStatus kind service => s.doing kind (·.queryStatus service) .truth
  | .isEnabled kind service => s.doing kind (·.isEnabled service) .truth
  | .start kind service => s.doing kind (·.start service) fun line => .text (some line)
  | .restart kind service => s.doing kind (·.restart service) fun line => .text (some line)
  | .enable kind service => s.doing kind (·.enable service) .texts
  | .stop kind d => s.doing kind (·.stop d) fun line => .text (some line)
  | .plan ds platform => (s, s.plan ds platform)
  | .apply ds platform strict => s.apply ds platform strict
  | .configure load platform => s.configure load platform
  | .register d => ({ s with registry := s.registry.register d }, .done)
  | .get service => (s, .definition (s.registry.get? service))
  | .recipe startFirst =>
    match Recipe.declarations s.registry ⟨startFirst⟩ s.paths with
    | .ok ds => (s, .declarations ds)
    | .error e => (s, .refused e)
  | .beginReport platform =>
    let (runId, s) := s.nextRun
    let r := Report.start runId ⟨s.host.wall⟩ platform
    ({ s with report := some r }, .report r)
  | .recordOutcome o => s.amend (·.record o)
  | .finishReport => s.amend (·.succeed ⟨s.host.wall⟩)
  | .failReport e => s.amend (·.fail ⟨s.host.wall⟩ e)
  | .writeReport path times => s.writeReport path times
  | .readReport path => (s, .journal (s.host.files.readText path).toOption)
  | .loadNode path =>
    match NodeAttributes.load s.host.files path with
    | .ok n => (s, .node n)
    | .error e => (s, .failed e)
  | .detectPlatform path => (s, .text (some (Platform.detect s.host.files path)))
  | .program words logFilter logs => s.runProgram words logFilter logs

end Session

end Converge.Rehearsal
