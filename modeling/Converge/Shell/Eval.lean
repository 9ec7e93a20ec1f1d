import Converge.Shell.Judgement
import Converge.Shell.Simple

set_option autoImplicit false
set_option maxRecDepth 2000

namespace Converge.Shell.Eval

open Converge.Process

def lazily {α : Type} (f : Unit → Eval α) : Eval α := fun sh k => f () sh k

def forever {α : Type} : Eval α := do
  act (Act.await (fun _ _ => false) none)
  throw Leave.exit

variable (e : Engine)

def answer : List Nat → Eval Unit
  | [] => return ()
  | signal :: rest => do
    let sh ← get
    match sh.traps.lookup signal with
    | some program =>
      if program ≠ "" then
        let _ ← e.text program {}
        -- Only an explicit return makes the status that of the program.
        if (← get).skip ≠ .function then setStatus sh.status
    | none => pure ()
    answer rest

def attend : Eval Unit := do
  let sh ← get
  let takes := sh.skip = .none && sh.traps.any fun t => t.1 ≠ 0 && t.2 ≠ ""
  let delivered ← act (Act.doing fun self s =>
    if !takes then ([], s)
    else
      match s.entry? self with
      | some entry =>
        if entry.delivered.isEmpty then ([], s)
        else (entry.delivered, s.changeEntry self fun entry => { entry with delivered := [] })
      | none => ([], s))
  if !delivered.isEmpty then answer e delivered

def attendAgain : Eval Unit := do
  if (← get).traps.any fun t => t.1 ≠ 0 && t.2 ≠ "" then attend e

def isSkipping : Eval Bool := do return (← get).skip ≠ .none

def endsRound : Eval Bool := do
  match (← get).skip with
  | .none => return false
  | .function => return true
  | .loops count goesOn =>
    if count ≤ 1 then
      modify fun sh => { sh with skip := .none }
      return !goesOn
    else
      modify fun sh => { sh with skip := .loops (count - 1) goesOn }
      return true

def within {α : Type} (name : String) (work : Eval α) : Eval α := do
  let before := (← get).builtin
  modify fun sh => { sh with builtin := some name }
  finally_ work (modify fun sh => { sh with builtin := before })

-- The value of an expression that is a command or a part of one; without a value the command fails.
def calculated? (work : Eval Int) : Eval (Option Int) := do
  match ← within "((" (caught work) with
  | .ok n => return some n
  | .error .error => return none
  | .error .exit => throw Leave.exit

def inLoop (work : Eval Nat) : Eval Nat := do
  modify fun sh => { sh with loops := sh.loops + 1 }
  let status ← work
  modify fun sh => { sh with loops := sh.loops - 1 }
  return status

def sequence (m : Mode) : List Command → Nat → Eval Nat
  | [], status => return status
  | [c], _ => e.run c m
  | c :: rest, _ => do
    let status ← e.run c { isTested := m.isTested }
    if ← isSkipping then return status
    sequence m rest status

def loop (untilSuccess : Bool) (test body : Command) (m : Mode) (status : Nat) : Eval Nat := do
  let answer ← e.run test { isTested := true }
  match (← get).skip with
  | .none => do
    if (answer = 0) == untilSuccess then return status
    let status ← e.run body m
    if ← endsRound then return status
    e.loop untilSuccess test body m status
  | skip => do
    if ← endsRound then return if skip = .function then answer else status
    e.loop untilSuccess test body m status

def each (name : String) (body : Command) (m : Mode) : List String → Nat → Eval Nat
  | [], status => return status
  | w :: rest, _ => do
    assign name w
    let status ← e.run body m
    if ← endsRound then return status
    each name body m rest status

def arithmeticLoop (test step : String) (body : Command) (m : Mode) (status : Nat) : Eval Nat := do
  let isBlank (s : String) : Bool := s.toList.all Arithmetic.isSpace
  let answer ← if isBlank test then pure (some 1) else calculated? (Expansion.calculate test)
  if answer.isNone then return 1
  if answer = some 0 then return status
  let status ← e.run body m
  if ← endsRound then return status
  if !isBlank step then
    if (← calculated? (Expansion.calculate step)).isNone then return 1
  e.arithmeticLoop test step body m status

def anyFits (subject : List Char) : List Word → Eval Bool
  | [] => return false
  | w :: rest => do
    let items ← Expansion.pattern e w
    if Pattern.fits items subject then return true
    anyFits subject rest

-- Runs the arm that fits. An arm may hand on to the next one, or to the next one that fits.
def choose (subject : List Char) (m : Mode) : List Arm → Bool → Nat → Eval Nat
  | [], _, status => return status
  | .mk patterns body ending :: rest, isChosen, status => do
    let fits ← if isChosen then pure true else anyFits e subject patterns
    if !fits then choose subject m rest false status
    else
      let handsOn := ending ≠ ";;"
      let status ← match body with
        | some c => e.run c (if handsOn then { isTested := m.isTested } else m)
        | none => pure 0
      if !handsOn then return status
      if ← isSkipping then return status
      choose subject m rest (ending = ";&") status

def redirected (redirects : List Redirect) (work : Eval Nat) : Eval Nat := do
  let goals ← Redirection.allGoals e redirects
  let (saved, went) ← Redirection.begin goals
  if !went then
    Redirection.restore saved
    return (← get).status
  finally_ work (Redirection.restore saved)

def subshell (body : Command) (redirects : List Redirect) (m : Mode) : Eval Nat := do
  let goals ← Redirection.allGoals e redirects
  let work : Eval Nat := do
    Redirection.turnAll false goals
    e.run body { isLast := true, isTested := m.isTested }
  if m.isLast && !(← Child.hasTraps) then
    modify fun sh => { sh with isCopy := true, jobs := [] }
    work
  else Child.await (← fork (Expansion.asChild e work))

def background (body : Command) (redirects : List Redirect) : Eval Nat := do
  let goals ← Redirection.allGoals e redirects
  Child.background e do
    Redirection.turnAll false goals
    e.run body { isLast := true, isPart := true }

def atLine (line : Nat) : Eval Unit :=
  modify fun sh => { sh with line := line, shownLine := line }

def isCounted : Command → Bool
  | .simple _ _ _ _ | .subshell _ _ _ | .background _ _ _ | .pipeline _ _ | .arithmetic _ _
  | .condition _ _ => true
  | _ => false

def kind (c : Command) (m : Mode) : Eval Nat := do
  match c with
  | .simple line assigned words redirects => Simple.run e line assigned words redirects m
  | .pipeline isBackground parts => Child.pipeline e isBackground parts m
  | .negated body => do
    let status ← e.run body { isTested := true }
    if ← isSkipping then return status
    return if status = 0 then 1 else 0
  | .redirected line body redirects => do
    atLine line
    redirected e redirects (e.run body { isTested := m.isTested })
  | .background line body redirects => do
    atLine line
    background e body redirects
  | .subshell line body redirects => do
    atLine line
    subshell e body redirects m
  | .and first second => do
    let status ← e.run first { isTested := true }
    if status ≠ 0 || (← isSkipping) then return status
    e.run second m
  | .or first second => do
    let status ← e.run first { isTested := true }
    if status = 0 || (← isSkipping) then return status
    e.run second m
  | .sequence parts => sequence e m parts 0
  | .conditional test consequent otherwise => do
    let status ← e.run test { isTested := true }
    if ← isSkipping then return status
    let m := { m with isPart := true }
    if status = 0 then e.run consequent m
    else
      match otherwise with
      | some c => e.run c m
      | none => return 0
  | .loop untilSuccess test body =>
    inLoop (e.loop untilSuccess test body { isTested := m.isTested } 0)
  | .each line name words body => do
    atLine line
    if !Read.isName name.toList then
      report (Read.inMarks name ++ ": not a valid identifier")
      return 1
    let fields ← match words with
      | none => do pure (← get).positional
      | some ws => do pure (← ws.mapM (Simple.expanded e)).flatten
    inLoop (each e name body { isTested := m.isTested } fields 0)
  | .choice line subject arms => do
    atLine line
    let s ← Expansion.text e subject { tilde := true }
    choose e s.toList m arms false 0
  | .function line name body => do
    modify fun sh => { sh with
      functions := (name, ⟨line, body⟩) :: sh.functions.filter (·.1 ≠ name) }
    return 0
  | .arithmetic line expression => do
    atLine line
    match ← calculated? (Expansion.calculated e expression) with
    | some n => return if n = 0 then 1 else 0
    | none => return 1
  | .arithmeticLoop line start test step body => do
    atLine line
    let start ← Expansion.text e start { isQuoted := true }
    let isReady ← if start.toList.all Arithmetic.isSpace then pure true else
      do pure (← calculated? (Expansion.calculate start)).isSome
    if !isReady then return 1
    let test ← Expansion.text e test { isQuoted := true }
    let step ← Expansion.text e step { isQuoted := true }
    inLoop (e.arithmeticLoop test step body { isTested := m.isTested } 0)
  | .condition line c => do
    atLine line
    within "[[" (Judgement.status e c)

def run (c : Command) (m : Mode) : Eval Nat := do
  attend e
  if ← hasOption 'n' then return (← get).status
  let status ← kind e c m
  setStatus status
  attendAgain e
  if status ≠ 0 && isCounted c && !m.isTested then
    if ← hasOption 'e' then throw Leave.exit
  return (← get).status

def refuse (fault : Fault) : Eval Nat := do
  atLine fault.line
  let sh ← get
  if sh.isExtended then
    let place := match sh.builtin with
      | some "eval" => ": eval"
      | _ => if sh.isArgument then ": -c" else ""
    let front (line : Nat) : String := sh.name ++ place ++ ": line " ++ toString line ++ ": "
    for (line, note) in fault.notes do
      act (Act.complain (front line ++ note))
    let front := front fault.line
    act (Act.complain (front ++ fault.message))
    match fault.shown with
    | some line =>
      act (Act.complain (front ++ String.singleton Read.backquote ++ line ++ "'"))
    | none => pure ()
    setStatus 2
    if sh.builtin.isSome then return 2
    throw Leave.exit
  else fail fault.message

def nextLine (src : Source) : Eval (Except Fault (Line × Source)) := do
  let sh ← get
  match Read.line.run { src with
      aliases := sh.aliases, nextDocument := sh.nextDocument, documents := []
      hasGroups := sh.extras.contains "extglob", unended := [] } with
  | .ok (line, src) => do
    modify fun sh => { sh with
      documents := src.documents ++ sh.documents, nextDocument := src.nextDocument }
    if sh.isExtended then
      for (last, p) in src.unended do
        act (Act.complain (sh.name ++ ": line " ++ toString last ++ ": warning: here-document at line " ++
          toString p.line ++ " delimited by end-of-file (wanted " ++
          Read.inMarks (String.ofList p.ending) ++ ")"))
    return .ok (line, src)
  | .error fault => return .error fault

def passed (before after : List Char) : List Char := before.take (before.length - after.length)

def runLine (c : Command) (m : Mode) : Eval Nat := do
  let sh ← get
  if !sh.isExtended then e.run c m
  else
    match ← caught (e.run c m) with
    | .ok n => return n
    | .error .exit => throw Leave.exit
    | .error .error => do
      if sh.isCopy || 0 < sh.depth || sh.builtin.isSome then throw Leave.error
      Simple.unwind sh.locals.length (← get).locals.length
      return (← get).status

def lines (m : Mode) : Nat → Source → Nat → Eval Nat
  | 0, _, status => return status
  | room + 1, src, status => do
    match ← nextLine src with
    | .error fault => refuse fault
    | .ok (line, next) => do
      let sh ← get
      let isEchoed := sh.isExtended || (!sh.isArgument && sh.builtin ≠ some "eval")
      if isEchoed && sh.options.contains 'v' then
        act do
          let _ ← Act.say 2 (String.ofList (passed src.rest next.rest))
      match line with
      | .done => return status
      | .empty => lines m room next status
      | .command c => do
        let isLast := match next.again with
          | some .endOfFile => true
          | _ => sh.isExtended && next.rest.isEmpty
        let status ← runLine e c (if isLast then m else { m with isLast := false })
        if ← isSkipping then return status
        lines m room next status

def text (s : String) (m : Mode) : Eval Nat := do
  let sh ← get
  -- In the extended language the last line always has an end.
  let isOpen := sh.isExtended && s.toList.getLast?.any (· ≠ '\n')
  let src : Source := {
    rest := if isOpen then s.toList ++ ['\n'] else s.toList, dialect := sh.dialect
    lines := if sh.isExtended then s.splitOn "\n" else [] }
  lines e m (2 * s.length + 100000) src 0

end Eval

def engine : Nat → Engine
  | 0 => {
      run := fun _ _ => Eval.forever
      text := fun _ _ => Eval.forever
      expand := fun _ _ => Eval.forever
      loop := fun _ _ _ _ _ => Eval.forever
      arithmeticLoop := fun _ _ _ _ _ => Eval.forever }
  | fuel + 1 => {
      run := fun c m => Eval.lazily fun _ => Eval.run (engine fuel) c m
      text := fun s m => Eval.lazily fun _ => Eval.text (engine fuel) s m
      expand := fun w p => Eval.lazily fun _ => Expansion.expandWith (engine fuel) w p
      loop := fun u t b m n => Eval.lazily fun _ => Eval.loop (engine fuel) u t b m n
      arithmeticLoop := fun t s b m n =>
        Eval.lazily fun _ => Eval.arithmeticLoop (engine fuel) t s b m n }

def engineFuel : Nat := 1000000000

end Converge.Shell
