import Converge.Process.Permission
import Converge.Shell.Builtin.Basic

set_option autoImplicit false
set_option maxRecDepth 2000

namespace Converge.Shell.Builtin

open Eval
open Converge.Process

-- A signal's number from its name in any case or its number; 0 is the end of the shell.
def signalNumber? (extended : Bool) (s : String) : Option Nat :=
  let upper := s.toUpper
  let name := if extended && upper.startsWith "SIG" then String.ofList (upper.toList.drop 3) else upper
  if name = "EXIT" then some 0
  else
    match Signal.ofName? name with
    | some n => some n
    | none => (Arithmetic.count? s.toList).bind fun n => if n ≤ Signal.last then some n else none

def signalLabel (n : Nat) : String :=
  match Signal.name? n with
  | some "STKFLT" => "16"
  | some name => name
  | none =>
    if n = 0 then "EXIT"
    else if n = 34 then "RTMIN"
    else if n = 64 then "RTMAX"
    else if n < 34 then toString n
    else if n < 50 then "RTMIN+" ++ toString (n - 34)
    else "RTMAX-" ++ toString (64 - n)

def killUsage : String :=
  "Usage: kill [-s sigspec | -signum | -sigspec] [pid | job]... or\nkill -l [exitstatus]"

-- The job that a sign stands for: the current one, the one before it, or one by its number.
def jobOf (sign : String) : Eval Job := do
  let sh ← get
  let current := sh.jobs.reverse
  match sign.toList with
  | [] | ['%'] | ['%', '%'] | ['%', '+'] =>
    match current with
    | job :: _ => return job
    | [] => fail "No current job"
  | ['%', '-'] =>
    match current with
    | _ :: job :: _ => return job
    | _ => fail "No previous job"
  | '%' :: digits =>
    match (Arithmetic.count? digits).bind fun n => sh.jobs.find? (·.number == n) with
    | some job => return job
    | none => fail ("No such job: " ++ sign)
  | digits =>
    match (Arithmetic.count? digits).bind fun n =>
        sh.jobs.find? fun j => j.processes.getLast? = some n with
    | some job => return job
    | none => fail ("No such job: " ++ sign)

def processOf (w : String) : Eval (Option Nat) := do
  if w.startsWith "%" then return (← jobOf w).processes.getLast?
  else return Arithmetic.count? w.toList

-- Sends a signal to processes. No process leads a group, and in the plain language a job would be
-- one.
def sendAll (signal : Nat) (goals : List String) : Eval Nat := do
  let statuses ← goals.mapM fun goal => do
    let isNegative := goal.startsWith "-"
    match ← processOf (if isNegative then String.ofList (goal.toList.drop 1) else goal) with
    | some n => do
      let sh ← get
      let isGroup := isNegative || (goal.startsWith "%" && !sh.isExtended)
      let sent ← if isGroup then pure false else
        act (Act.kill (if n = 0 then sh.self else n) signal)
      if sent then return 0
      if (← get).isExtended then report ("(" ++ toString n ++ ") - No such process")
      else report "No such process\n"
      return 1
    | none => do
      if (← get).isExtended then
        report (goal ++ ": arguments must be process or job IDs")
        return 1
      fail ("Illegal number: " ++ goal)
  return statuses.foldl max 0

def listSignals (ws : List String) : Eval Nat := do
  match ws with
  | [] => putLines ("0" :: (List.range 64).map fun n => signalLabel (n + 1))
  | w :: _ =>
    let extended := (← get).isExtended
    match if extended then (signalNumber? true w) else none with
    | some n =>
      if (Arithmetic.count? w.toList).isSome then putLine (signalLabel n) else putLine (toString n)
    | none => do
      let n ← number w
      let signal := if 128 < n then n - 128 else n
      if signal = 0 || Signal.last < signal then
        fail ("invalid signal number or exit status: " ++ w)
      putLine (signalLabel signal)

def kill : Builtin := fun ws => do
  let extended := (← get).isExtended
  let usage : Eval Nat := do
    if extended then
      act (Act.complain "kill: usage: kill [-s sigspec | -n signum | -sigspec] pid | jobspec ... or kill -l [sigspec]")
      return 2
    fail killUsage
  match ws with
  | [] => usage
  | "-l" :: rest => listSignals rest
  | w :: rest =>
    let (name, goals) : Option String × List String := match w.toList with
      | ['-', 's'] => (rest.head?, rest.drop 1)
      | '-' :: '-' :: [] => (some "TERM", rest)
      | '-' :: name => (some (String.ofList name), rest)
      | _ => (some "TERM", ws)
    match name with
    | none => usage
    | some name =>
      match signalNumber? extended name with
      | none =>
        if extended then
          report (name ++ ": invalid signal specification")
          return 1
        if w = "-s" then fail ("invalid signal number or name: " ++ name)
        fail ("Illegal option -" ++ String.ofList (name.toList.take 1))
      | some signal =>
        let goals := if goals.head? == some "--" then goals.drop 1 else goals
        if goals.isEmpty then usage else sendAll signal goals

def statusOf : Ending → Nat
  | .exited n => n
  | .killed n => 128 + n

def mourn (ending : Ending) : Eval Unit := do
  match ending with
  | .killed n =>
    let isSaid := if (← get).isExtended then n = Signal.terminate
      else n ≠ Signal.interrupt && n ≠ Signal.brokenPipe
    if isSaid then
      act (Act.complain ((Signal.words.lookup n).getD ("Unknown signal " ++ toString n)))
  | .exited _ => pure ()

def awaitChild (child : Nat) : Eval (Option Ending) := do
  act (Act.await (fun self s => (s.ending? child).isSome || (s.entry? child).isNone ||
    (s.entry? self).any fun e => !e.delivered.isEmpty) none)
  act (Act.doing fun _ s =>
    match s.ending? child with
    | some ending => (some ending, s.reap child)
    | none => (if (s.entry? child).isNone then some (.exited 127) else none, s))

def noteEnding (child : Nat) (ending : Ending) : Eval Unit :=
  let note (j : Job) : Job :=
    if j.processes.contains child then { j with endings := j.endings ++ [(child, ending)] } else j
  modify fun sh => { sh with jobs := sh.jobs.map note }

/-- Waits for every process of a job that has not ended; a signal cuts that short. What ended it is
said if the job was asked for. -/
def settle (isAskedFor : Bool) : List Nat → Eval Bool
  | [] => return true
  | child :: rest => do
    match ← awaitChild child with
    | some ending => do
      noteEnding child ending
      if isAskedFor || (← get).isExtended then mourn ending
      settle isAskedFor rest
    | none => return false

def settleJobs : List Job → Eval Bool
  | [] => return true
  | j :: rest => do
    let isDone ← settle false j.remaining
    if isDone then settleJobs rest else return false

def interrupted : Eval Nat := do
  let entry ← act Act.entry
  return 128 + ((entry.bind fun e => e.delivered.head?).getD 0)

def waitEach : List String → Nat → Eval Nat
  | [], status => return status
  | w :: rest, _ => do
    match ← processOf w with
    | none =>
      if (← get).isExtended then
        report (String.singleton Read.backquote ++ w ++ "': not a pid or valid job spec")
        waitEach rest 1
      else fail ("Illegal number: " ++ w)
    | some n => do
      match (← get).jobs.find? fun j => j.processes.getLast? = some n with
      | none => do
        if (← get).isExtended then
          report ("pid " ++ toString n ++ " is not a child of this shell")
        waitEach rest 127
      | some j => do
        let isDone ← settle true j.remaining
        if isDone then
          let now := (← get).jobs.find? fun j => j.processes.getLast? = some n
          modify fun sh => { sh with jobs := sh.jobs.map fun other =>
            if other.number = j.number then { other with isWaited := true } else other }
          waitEach rest ((now.bind fun j => (j.endings.lookup n).map statusOf).getD 127)
        else interrupted

def wait : Builtin := fun ws => do
  let sh ← get
  let (taken, ws) ← options (if sh.isExtended then "nfp:" else "") ws
  if ws.isEmpty then
    let jobs := if taken.any (·.1 == 'n') then sh.jobs.take 1 else sh.jobs
    let isDone ← settleJobs jobs
    if isDone then
      modify fun sh => { sh with
        jobs := if sh.isExtended then [] else sh.jobs.map fun j => { j with isWaited := true } }
      if taken.any (·.1 == 'n') then
        return (jobs.head?.bind fun j => j.endings.getLast?.map fun e => statusOf e.2).getD 0
      return 0
    else interrupted
  else waitEach ws 0

def setDisposition (signal : Nat) (action : Option String) : Eval Unit := do
  let sh ← get
  if signal ≠ 0 && !sh.ignored.contains signal then
    act (Act.changeEntry fun e =>
      let others (l : List Nat) : List Nat := l.filter (· ≠ signal)
      match action with
      | none => { e with caught := others e.caught, ignored := others e.ignored }
      | some "" => { e with caught := others e.caught, ignored := signal :: others e.ignored }
      | some _ => { e with caught := signal :: others e.caught, ignored := others e.ignored })

def setTrap (signal : Nat) (action : Option String) : Eval Unit := do
  modify fun sh =>
    let others := sh.traps.filter (·.1 ≠ signal)
    { sh with traps := match action with
      | some text => (signal, text) :: others
      | none => others }
  setDisposition signal action

def listTraps : Eval Nat := do
  let sh ← get
  let label (n : Nat) : String :=
    if sh.isExtended && n ≠ 0 then "SIG" ++ signalLabel n else signalLabel n
  let shown := (sh.traps.mergeSort fun a b => decide (a.1 ≤ b.1)).map fun (n, text) =>
    "trap -- " ++ quoted text ++ " " ++ label n
  putLines shown

def trapEach (action : Option String) : List String → Eval Nat
  | [] => return 0
  | w :: rest => do
    let extended := (← get).isExtended
    match signalNumber? extended w with
    | some n => do
      setTrap n action
      trapEach action rest
    | none => do
      if extended then report (w ++ ": invalid signal specification")
      else act (Act.complain ("trap: " ++ w ++ ": bad trap"))
      return 1

def trap : Builtin := fun ws => do
  let sh ← get
  let (taken, ws) ← options (if sh.isExtended then "lp" else "") ws
  if taken.any (·.1 == 'l') then return ← listSignals []
  match ws with
  | [] => listTraps
  | first :: rest =>
    let isReset := rest.isEmpty || (Arithmetic.count? first.toList).isSome
    let action := if isReset || first = "-" then none else some first
    trapEach action (if isReset then ws else rest)

def jobWord (state : State) (j : Job) : String :=
  let ending? (p : Nat) : Option Ending := (j.endings.lookup p).orElse fun _ => state.ending? p
  if j.processes.any fun p => (ending? p).isNone then "Running"
  else
    match j.processes.getLast?.bind ending? with
    | some (.exited 0) | none => "Done"
    | some (.exited n) => "Done(" ++ toString n ++ ")"
    | some (.killed n) => (Signal.words.lookup n).getD ("Unknown signal " ++ toString n)

-- The line that shows a job, whose sign tells whether it is the current one or the one before it.
def jobLine (sign word process : String) (j : Job) : String :=
  let text := "[" ++ toString j.number ++ "] " ++ sign ++ " " ++ process ++ word
  text ++ String.ofList (List.replicate (33 - text.length) ' ') ++
    String.join ((j.processes.drop 1).map fun _ => " | ")

-- Lines for jobs among the current ones, and those that are left. One that has ended is shown once.
def jobLines (state : State) (withProcess : Bool) (current : List Job) : List Job → List String × List Job
  | [] => ([], current)
  | j :: rest =>
    let isAt (n : Nat) : Bool := (current.drop n).head?.any (·.number == j.number)
    let sign := if isAt 0 then "+" else if isAt 1 then "-" else " "
    let word := jobWord state j
    let process := if withProcess then toString (j.processes.headD 0) ++ " " else ""
    let left := if word = "Running" then current else current.filter (·.number ≠ j.number)
    let (lines, left) := jobLines state withProcess left rest
    (jobLine sign word process j :: lines, left)

def jobs : Builtin := fun ws => do
  let (taken, ws) ← options "lp" ws
  let state ← act Act.get
  let current := (← get).jobs.reverse
  let shown ← if ws.isEmpty then pure current else ws.mapM jobOf
  let (lines, left) := jobLines state (taken.any (·.1 == 'l')) current shown
  modify fun sh => { sh with jobs := left.reverse }
  putLines (if taken.any (·.1 == 'p') then shown.map fun j => toString (j.processes.headD 0) else lines)

def withoutJobs : Builtin := fun ws => do
  if (← get).isExtended then
    report ("no job control")
    return 1
  let _ ← jobOf (ws.headD "")
  fail ("job " ++ ws.headD "(null)" ++ " not created under job control")

def umask : Builtin := fun ws => do
  let (taken, ws) ← options "S" ws
  let mask := ((← act Act.entry).map (·.umask)).getD 0
  match ws with
  | [] =>
    if taken.isEmpty then putLine (Permission.digits mask)
    else
      let left := 0o777 ^^^ mask
      putLine ("u=" ++ Permission.letters (left / 64) ++ ",g=" ++ Permission.letters (left / 8 % 8) ++
        ",o=" ++ Permission.letters (left % 8))
  | w :: _ => do
    let extended := (← get).isExtended
    let digits := w.toList
    if digits.head?.any Text.Decimal.isDigit then
      if digits.all Permission.isOctal then
        act (Act.changeEntry fun e => { e with umask := Permission.octal digits % 0o1000 })
        return 0
      else if extended then
        report (w ++ ": octal number out of range")
        return 1
      else fail ("Illegal number: " ++ w)
    else
      match Permission.symbolic false 0 (0o777 ^^^ mask) w with
      | some left => do
        act (Act.changeEntry fun e => { e with umask := 0o777 ^^^ (left % 0o1000) })
        return 0
      | none =>
        if extended then
          report (String.singleton Read.backquote ++ w ++ "': invalid symbolic mode character")
          return 1
        fail ("Illegal mode: " ++ w)

def limits : List (Char × String × String) := [
  ('t', "time(seconds)", "unlimited"), ('f', "file(blocks)", "unlimited"),
  ('d', "data(kbytes)", "unlimited"), ('s', "stack(kbytes)", "8192"),
  ('c', "coredump(blocks)", "unlimited"), ('m', "memory(kbytes)", "unlimited"),
  ('l', "locked memory(kbytes)", "8192"), ('p', "process", "unlimited"),
  ('n', "nofiles", "1048576"), ('v', "vmemory(kbytes)", "unlimited"), ('w', "locks", "unlimited"),
  ('r', "rtprio", "0")]

def ulimit : Builtin := fun ws => do
  let sh ← get
  let (taken, ws) ← options "HSatfdsmcnpvwrl" ws
  let shown (entry : Char × String × String) : String :=
    (sh.limits.lookup entry.1).getD entry.2.2
  if taken.any (·.1 == 'a') then
    putLines (limits.map fun entry =>
      entry.2.1 ++ String.ofList (List.replicate (21 - entry.2.1.length) ' ') ++ shown entry)
  else
    let letter := ((taken.filter fun t => t.1 ≠ 'H' && t.1 ≠ 'S').getLast?.map (·.1)).getD 'f'
    match ws with
    | [] => putLine (((limits.find? (·.1 == letter)).map shown).getD "unlimited")
    | [w] =>
      if w = "unlimited" || w.toList.all Text.Decimal.isDigit then
        set { sh with limits := (letter, w) :: sh.limits.filter (·.1 ≠ letter) }
        return 0
      else if sh.isExtended then
        report (w ++ ": invalid number")
        return 1
      else fail "bad number"
    | _ => fail "too many arguments"

def times : Builtin := fun _ => do
  if (← get).isExtended then put "0m0.000s 0m0.000s\n0m0.000s 0m0.000s\n"
  else put "0m0.000000s 0m0.000000s\n0m0.000000s 0m0.000000s\n"

end Converge.Shell.Builtin
