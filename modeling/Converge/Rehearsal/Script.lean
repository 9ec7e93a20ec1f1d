import Converge.FileSystem.Access
import Converge.Process.Hosting

set_option autoImplicit false

namespace Converge.Rehearsal

open Converge.Process (Carrier Machine Program)

/-- What is set up, before a rehearsal or as the effect of a command. -/
inductive Cue where
  | respond (line : String) (result : CommandResult)
  | fail (line : String) (error : ApplyError)
  | put (path : OsString) (node : Node)
  | remove (path : OsString)

-- Scripted answers to commands, of which the first for a line counts.
structure Script where
  machine : Machine := .idle
  -- What processes see of their surroundings.
  environment : List (String × String) := []
  results : List (String × CommandResult) := []
  failures : List (String × ApplyError) := []
  effects : List (String × List Cue) := []
  -- Commands without a failure run as processes with this timeout, in nanoseconds.
  processes : Option Nat := none
  executed : List String := []

instance : Carrier Script := ⟨Script.machine, fun m script => { script with machine := m }⟩

def follow (host : Host Script) : Cue → Host Script
  | .respond line result =>
    { host with rest := { host.rest with results := (line, result) :: host.rest.results } }
  | .fail line error =>
    { host with rest := { host.rest with failures := (line, error) :: host.rest.failures } }
  | .put path node =>
    match host.files.place path node with
    | .ok files => { host with files := files }
    | .error _ => host
  | .remove path => { host with files := host.files.remove path }

def answer (programs : Program) (host : Host Script) (c : Command) : Response Script :=
  match host.rest.failures.lookup c.line with
  | some e => ⟨.error e, host, []⟩
  | none =>
    match host.rest.processes with
    | some timeout => Execution.run (Machine.processes programs host.rest.environment) timeout host c
    | none => ⟨.ok ((host.rest.results.lookup c.line).getD (.ofExitCode 0)), host, []⟩

/-- Records every command line, answers it, and carries out the effects that were set for it. -/
def runner (programs : Program) : Runner Script := fun host c =>
  let line := c.line
  let recorded := { host with rest := { host.rest with executed := host.rest.executed ++ [line] } }
  let response := answer programs recorded c
  let effects := (response.host.rest.effects.lookup line).getD []
  { response with host := effects.foldl follow response.host }

end Converge.Rehearsal
