import Converge.Plan.Basic

set_option autoImplicit false

namespace Converge.Pass

variable {ρ : Type}

def running (p : Provider ρ) (d : Declaration) : Work ρ (Option Bool) := do
  if d.supports .status then return some (← p.queryStatus d.name)
  else return none

-- Carries out one action and gives the lines of the commands that changed something.
def perform (p : Provider ρ) (d : Declaration) : Action → Work ρ (List String)
  | .enable => do
    if ← p.isEnabled d.name then return []
    else p.enable d.name
  | .start => do
    if (← running p d) = some true then return []
    else return [← p.start d.name]
  | .stop => do
    if (← running p d) = some false then return []
    else return [← p.stop d]
  | .restart => do return [← p.restart d.name]

def milliseconds (before after : Nat) : Nat := (after - before) / 1000000

-- Carries out one action and records what became of it.
def reach (p : Provider ρ) (d : Declaration) (a : Action) : Work ρ Unit := do
  let before := (← Work.host).clock
  let commands ← perform p d a
  if commands.isEmpty then
    Work.say .debug .pass "Already in desired state" [
      ("service", .text d.name), ("action", .text a.name)]
  Work.record {
    service := d.name
    action := a
    provider := p.kind
    changed := !commands.isEmpty
    commands := commands
    milliseconds := milliseconds before (← Work.host).clock }

def converge (paths : Paths) (runner : Runner ρ) (s : PlannedService) : Work ρ Unit := do
  Work.say .info .pass "Converging service" [
    ("service", .text s.declaration.name), ("provider", .text s.provider.name)]
  s.declaration.desired.forM (reach ⟨s.provider, paths, runner⟩ s.declaration)

def execute (paths : Paths) (runner : Runner ρ) (plan : Plan) : Work ρ Unit :=
  plan.services.forM (converge paths runner)

def work (paths : Paths) (runner : Runner ρ) (platform : String) (ds : List Declaration) :
    Work ρ Unit := do
  let files := (← Work.host).files
  modify fun p => { p with events := p.events ++ Plan.events paths files platform ds }
  match Plan.make paths files platform ds with
  | .ok plan => execute paths runner plan
  | .error e => throw e

/-- How a pass ended: its result, the report, every command it issued, what it said, and the host
that it leaves. -/
structure Ending (ρ : Type) where
  result : Except ApplyError Unit
  report : Report
  issued : List Command
  events : List LogEvent
  host : Host ρ

def openingEvent (runId : RunId) (platform : String) (ds : List Declaration) : LogEvent :=
  ⟨.info, .pass, "Applying service declarations", [
    ("run_id", .text runId.toString),
    ("platform", .text platform),
    ("services", .nat ds.length)]⟩

def closingEvent (runId : RunId) (report : Report) : Except ApplyError Unit → LogEvent
  | .ok () => ⟨.info, .pass, "Services converged", [
      ("run_id", .text runId.toString), ("changed", .nat report.changedCount)]⟩
  | .error e => ⟨.error, .pass, "Apply failed", [
      ("run_id", .text runId.toString), ("error", .text e.message)]⟩

def apply (paths : Paths) (runner : Runner ρ) (runId : RunId) (platform : String)
    (ds : List Declaration) (host : Host ρ) : Ending ρ :=
  let begun := Report.start runId ⟨host.wall⟩ platform
  let (result, p) := (work paths runner platform ds).run { host := host }
  let report := { begun with outcomes := p.outcomes }.close ⟨p.host.wall⟩ result
  { result := result
    report := report
    issued := p.issued
    events := openingEvent runId platform ds :: p.events ++
      if p.host.crash.isSome then [] else [closingEvent runId report result]
    host := p.host }

end Converge.Pass
