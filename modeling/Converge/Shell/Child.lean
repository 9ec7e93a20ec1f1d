import Converge.Shell.Builtin.Children

set_option autoImplicit false

namespace Converge.Shell.Child

open Eval
open Converge.Process

variable (e : Engine)

-- Files that cannot be found have this status, and files that cannot be run the other one.
def statusOf (err : OsError) : Nat :=
  if [OsError.notFound, .notDirectory, .tooManyLinks, .nameTooLong].contains err then 127 else 126

def refusal (extended : Bool) (name : String) (err : OsError) : String :=
  let isMissing := err = .notFound || err = .notDirectory
  if !extended then name ++ ": " ++ if isMissing then "not found" else err.reason
  else if isMissing && !name.toList.contains '/' then name ++ ": command not found"
  else name ++ ": " ++ err.reason

def scene : Eval (State × Location) := do
  let sh ← get
  let state ← act Act.get
  return (state.settle, ((state.entry? sh.self).map (·.directory)).getD [])

/-- Becomes another program; only if that fails is there anything more to do. In the extended language
a program finds its own place in its environment, unless it takes the shell's. -/
def becomeOr (name searchPath : String) (words : List String) : Eval OsError := do
  let sh ← get
  let (state, directory) ← scene
  let environment :=
    if sh.isExtended && sh.builtin ≠ some "exec" then
      (sh.environment.filter (·.1 ≠ "_")) ++
        [("_", (Image.locate state.files directory searchPath name).getD name)]
    else sh.environment
  let load (image : Image) : Eval OsError :=
    act (Act.load ⟨image.name, image.tool, image.words, environment⟩)
  match Image.find state.files directory searchPath name words with
  | .ok image => load image
  | .error .badFormat => do
    -- A file without a mark of its own is taken for a program of the shell.
    let path := (Image.locate state.files directory searchPath name).getD name
    match Image.load state.files directory (if sh.isExtended then "/bin/bash" else "/bin/sh")
        (path :: words) with
    | .ok image => load image
    | .error err => return err
  | .error err => return err

def become {α : Type} (name searchPath : String) (words : List String) : Eval α := do
  let err ← becomeOr name searchPath words
  let sh ← get
  let (state, directory) ← scene
  let isDirectory := match state.files.lookUp (State.absolute directory name) with
    | .ok (_, .directory _) => name.toList.contains '/'
    | _ => false
  report (if sh.isExtended && sh.builtin = some "exec" && err = .notFound then name ++ ": not found"
    else if sh.isExtended && isDirectory then name ++ ": Is a directory"
    else refusal sh.isExtended name err)
  setStatus (statusOf err)
  throw Leave.exit

def missing? (name searchPath : String) : Eval (Option OsError) := do
  if name.toList.contains '/' then return none
  let (state, directory) ← scene
  match Image.find state.files directory searchPath name [] with
  | .ok _ | .error .badFormat => return none
  | .error err => return some err

def gather : Eval Unit := do
  let sh ← get
  let waiting := sh.jobs.flatMap Job.remaining
  if !waiting.isEmpty then
    let ended ← act (Act.doing fun _ s =>
      let ended := waiting.filterMap fun child => (s.ending? child).map fun ending => (child, ending)
      (ended, ended.foldl (fun s c => s.reap c.1) s))
    for (child, ending) in ended do
      Builtin.noteEnding child ending

def awaitAll : List Nat → List Nat → Eval (List Nat)
  | [], statuses => do
    gather
    return statuses.reverse
  | child :: rest, statuses => do
    let ending ← act (Act.waitFor child)
    Builtin.mourn ending
    awaitAll rest (Builtin.statusOf ending :: statuses)

def await (child : Nat) : Eval Nat := do
  let statuses ← awaitAll [child] []
  return statuses.headD 0

def hasTraps : Eval Bool := do return (← get).traps.any fun t => t.2 ≠ ""

def leaveLevel : Eval Unit := modify fun sh =>
  match sh.isExtended, sh.find? "SHLVL" with
  | true, some v =>
    let level := (v.first.bind fun s => Arithmetic.count? s.toList).getD 0
    sh.put "SHLVL" { v with value := some (toString (level - 1)) }
  | _, _ => sh

def program (name searchPath : String) (words : List String) (m : Mode) : Eval Nat := do
  match ← missing? name searchPath with
  | some err => do
    let extended := (← get).isExtended
    report (refusal extended name err)
    return if extended then statusOf err else 127
  | none => do
    if m.isLast && !(← hasTraps) then
      if !m.isPart then leaveLevel
      become name searchPath words
    else await (← fork (Expansion.asChild e (become name searchPath words)))

def recede (isFirst : Bool) : Eval Unit := do
  act (Act.changeEntry fun entry => { entry with
    ignored := [Signal.interrupt, Signal.quit] ++ entry.ignored.filter fun n =>
      n ≠ Signal.interrupt && n ≠ Signal.quit })
  if isFirst then
    let _ ← act (Act.openOnto 0 "/dev/null" .reading)

def enlist (processes : List Nat) : Eval Unit := modify fun sh => { sh with
  background := processes.getLast?.getD 0
  jobs := sh.jobs ++ [{ number := Job.freeNumber sh.jobs, processes := processes }] }

def background (work : Eval Nat) : Eval Nat := do
  let child ← fork (Expansion.asChild e do
    recede true
    work)
  enlist [child]
  return 0

-- Starts the parts of a pipeline, each of which reads what the one before it writes. `input` is the
-- end of the pipe between them.
def startParts (isBackground : Bool) (m : Mode) : List Command → Option Nat → List Nat → Eval (List Nat)
  | [], _, started => return started.reverse
  | part :: rest, input, started => do
    let isFirst := started.isEmpty
    let ends ← if rest.isEmpty then pure none else do pure (some (← act Act.pipe))
    let child ← fork (Expansion.asChild e do
      if isBackground then recede isFirst
      act do
        match ends with
        | some (next, _) => Act.close next
        | none => pure ()
        match input with
        | some number => do
          if number ≠ 0 then
            let _ ← Act.duplicate number 0
            Act.close number
        | none => pure ()
        match ends with
        | some (_, out) => do
          if out ≠ 1 then
            let _ ← Act.duplicate out 1
            Act.close out
        | none => pure ()
      e.run part { isLast := true, isTested := m.isTested, isPart := true })
    act do
      match input with
      | some number => Act.close number
      | none => pure ()
      match ends with
      | some (_, out) => Act.close out
      | none => pure ()
    startParts isBackground m rest (ends.map (·.1)) (child :: started)

def pipeline (isBackground : Bool) (parts : List Command) (m : Mode) : Eval Nat := do
  let children ← startParts e isBackground m parts none []
  if isBackground then
    enlist children
    return 0
  else
    let statuses ← awaitAll children []
    modify fun sh => { sh with pipeStatuses := statuses }
    let sh ← get
    if sh.extras.contains "pipefail" then
      return (statuses.reverse.find? (· ≠ 0)).getD 0
    return statuses.getLast?.getD 0

end Converge.Shell.Child
