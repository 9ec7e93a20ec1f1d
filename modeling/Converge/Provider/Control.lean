import Converge.FileSystem.Access
import Converge.Host
import Converge.Report.Basic
import Converge.Service.Declaration
import Converge.Settings.Basic
import Converge.Text.Basic
import Converge.Text.Excerpt

set_option autoImplicit false

namespace Converge.BootLink

def runlevels : List Nat := [2, 3, 4, 5]

def directory (rcRoot : OsString) (level : Nat) : OsString :=
  Path.join rcRoot ("rc" ++ toString level ++ ".d")

-- An S, two digits for the order, and exactly the name of the service.
def starts (entry service : String) : Bool :=
  match entry.toList with
  | 'S' :: a :: b :: name =>
    Text.Decimal.isDigit a && Text.Decimal.isDigit b && name == service.toList
  | _ => false

-- Whether some runlevel starts a service. A directory that cannot be read starts none.
def present (files : FileSystem) (rcRoot : OsString) (service : String) : Bool :=
  runlevels.any fun level =>
    match files.list (directory rcRoot level) with
    | .ok entries => entries.any fun entry => starts entry.text service
    | .error _ => false

end Converge.BootLink

namespace Converge

structure Progress (ρ : Type) where
  host : Host ρ
  -- Every command that was handed to the runner, in order.
  issued : List Command := []
  outcomes : List Outcome := []
  events : List LogEvent := []

abbrev Work (ρ : Type) := ExceptT ApplyError (StateM (Progress ρ))

namespace Work

variable {ρ : Type}

def say (level : Log.Level) (source : Log.Source) (message : String)
    (fields : List (String × Json)) : Work ρ Unit :=
  modify fun p => { p with events := p.events ++ [⟨level, source, message, fields⟩] }

def host : Work ρ (Host ρ) := do return (← get).host

def record (o : Outcome) : Work ρ Unit :=
  modify fun p => { p with outcomes := p.outcomes ++ [o] }

def issue (runner : Runner ρ) (c : Command) : Work ρ CommandResult := do
  let p ← get
  let r := runner p.host c
  set { p with
    host := r.host
    issued := p.issued ++ [c]
    events := p.events ++ r.events }
  match r.result with
  | .ok result => pure result
  | .error e => throw e

end Work

structure Provider (ρ : Type) where
  kind : ProviderKind
  paths : Paths
  runner : Runner ρ

-- How many lines of a failed command's output an error quotes.
def quotedLines : Nat := 10

def failureText (stderr : String) : String :=
  String.ofList (Text.excerpt quotedLines (Text.trim stderr.toList))

def Command.ofOverride (line : String) : Except ApplyError Command :=
  match Command.ofLine? line with
  | some c => .ok c
  | none => .error (.command (.invalidLine "stop override is empty"))

namespace Provider

variable {ρ : Type}

def hasService (paths : Paths) (files : FileSystem) (service : String) : Bool :=
  files.isFile (paths.initScript service)

def script (p : Provider ρ) (service verb : String) : Command :=
  ⟨(p.paths.initScript service).text, [verb]⟩

def queryStatus (p : Provider ρ) (service : String) : Work ρ Bool := do
  let result ← Work.issue p.runner (p.script service "status")
  Work.say .debug .control "Queried service status" [
    ("service", .text service),
    ("exit_code", Log.exitCode result.exitCode),
    ("running", .bool result.success)]
  return result.success

-- Runs a command that has to succeed, and gives its line.
def runChecked (p : Provider ρ) (service : String) (action : Action) (c : Command) :
    Work ρ String := do
  Work.say .debug .control "Running service action" [
    ("service", .text service),
    ("action", .text action.name),
    ("provider", .text p.kind.name),
    ("command", .text c.line)]
  let result ← Work.issue p.runner c
  if result.success then
    Work.say .info .control "Service action completed" [
      ("service", .text service),
      ("action", .text action.name),
      ("command", .text c.line)]
    return c.line
  else
    let stderr := failureText result.stderr
    Work.say .warn .control "Service action failed" [
      ("service", .text service),
      ("action", .text action.name),
      ("exit_code", Log.exitCode result.exitCode),
      ("stderr", .text stderr)]
    throw (.actionFailed service action result.exitCode stderr)

def start (p : Provider ρ) (service : String) : Work ρ String :=
  p.runChecked service .start (p.script service "start")

def stopCommand (p : Provider ρ) (d : Declaration) : Except ApplyError Command :=
  match d.stopOverride with
  | some line => Command.ofOverride line
  | none => .ok (p.script d.name "stop")

def stop (p : Provider ρ) (d : Declaration) : Work ρ String := do
  match p.stopCommand d with
  | .ok c => p.runChecked d.name .stop c
  | .error e => throw e

def restart (p : Provider ρ) (service : String) : Work ρ String :=
  p.runChecked service .restart (p.script service "restart")

def isEnabled (p : Provider ρ) (service : String) : Work ρ Bool := do
  match p.kind with
  | .debianInit => return BootLink.present (← Work.host).files p.paths.rcRoot service
  | .genericInit => throw (.unsupportedAction service .enable)

-- The command that sets the boot links of a service.
def enableCommand (service : String) : Command := ⟨"update-rc.d", [service, "defaults"]⟩

def enable (p : Provider ρ) (service : String) : Work ρ (List String) := do
  match p.kind with
  | .debianInit => return [← p.runChecked service .enable (enableCommand service)]
  | .genericInit => throw (.unsupportedAction service .enable)

end Provider

end Converge
