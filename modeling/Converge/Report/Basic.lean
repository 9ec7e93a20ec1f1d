import Converge.Error
import Converge.Report.Stamp
import Converge.Service.Basic

set_option autoImplicit false

namespace Converge

structure Outcome where
  service : String
  action : Action
  provider : ProviderKind
  changed : Bool
  -- The commands that made the change, as lines.
  commands : List String
  milliseconds : Nat
  deriving DecidableEq, Repr

inductive Verdict where
  | success
  | failure (code message : String)
  deriving DecidableEq, Repr

structure Report where
  runId : RunId
  started : Timestamp
  finished : Option Timestamp := none
  platform : String
  outcomes : List Outcome := []
  verdict : Verdict := .success
  deriving DecidableEq, Repr

namespace Report

def start (runId : RunId) (now : Timestamp) (platform : String) : Report where
  runId := runId
  started := now
  platform := platform

def record (r : Report) (o : Outcome) : Report := { r with outcomes := r.outcomes ++ [o] }

def succeed (r : Report) (now : Timestamp) : Report :=
  { r with finished := some now, verdict := .success }

def fail (r : Report) (now : Timestamp) (e : ApplyError) : Report :=
  { r with finished := some now, verdict := .failure e.code e.message }

def close (r : Report) (now : Timestamp) : Except ApplyError Unit → Report
  | .ok () => r.succeed now
  | .error e => r.fail now e

def isSuccess (r : Report) : Bool := r.verdict == .success

def changedCount (r : Report) : Nat := (r.outcomes.filter (·.changed)).length

end Report

def Outcome.toJson (o : Outcome) : Json :=
  .object (
    [("service", .text o.service),
      ("action", .text o.action.name),
      ("provider", .text o.provider.name),
      ("changed", .bool o.changed)] ++
    (if o.commands.isEmpty then [] else [("commands", .texts o.commands)]) ++
    [("duration_ms", .nat o.milliseconds)])

def Verdict.toJson : Verdict → Json
  | .success => .object [("status", .text "success")]
  | .failure code message =>
    .object [("status", .text "failure"), ("error_code", .text code),
      ("error_message", .text message)]

def Report.toJson (r : Report) : Json :=
  .object (
    [("run_id", .text r.runId.toString), ("started_at", .text r.started.toString)] ++
    (match r.finished with
      | some t => [("finished_at", .text t.toString)]
      | none => []) ++
    [("platform", .text r.platform),
      ("outcomes", .array (r.outcomes.map Outcome.toJson)),
      ("result", r.verdict.toJson)])

def Report.line (r : Report) : String := r.toJson.compact

end Converge
