import Converge.Process.Image
import Converge.Process.Transfer

set_option autoImplicit false

namespace Converge.Process

structure Machine where
  state : State
  -- The tasks of the processes that have not ended, in the order of their turns.
  tasks : List (Nat × Task) := []
  budget : Nat

namespace Machine

def idle : Machine := { state := { files := .empty }, budget := 0 }

def turnLength : Nat := 64

def stepTime : Nat := 1000

def forkTime : Nat := 150000

def loadTime : Nat := 500000

inductive Course where
  | ended
  | waiting (task : Task)
  | ready (task : Task)

def deliver (s : State) (process : Nat) : State :=
  match s.entry? process with
  | none => s
  | some e =>
    if e.pending.isEmpty || e.ending.isSome then s
    else
      let cleared := s.changeEntry process fun e => { e with pending := [] }
      e.pending.foldl (fun s signal =>
        match s.entry? process with
        | none => s
        | some e =>
          if e.ending.isSome then s
          else if signal = Signal.continue_ then
            s.changeEntry process fun e => { e with
              isStopped := false
              delivered := if e.caught.contains signal then e.delivered ++ [signal] else e.delivered }
          else if !Signal.isForced signal && e.ignored.contains signal then s
          else if !Signal.isForced signal && e.caught.contains signal then
            s.changeEntry process fun e => { e with delivered := e.delivered ++ [signal] }
          else if Signal.harmless.contains signal then s
          else if Signal.holding.contains signal then
            s.changeEntry process fun e => { e with isStopped := true }
          else s.finish process (.killed signal)) cleared

-- A process becomes another program: private descriptors close, and signals that the old program
-- took are as at first.
def loaded (s : State) (process : Nat) : State :=
  (s.changeEntry process fun e => { e with
    descriptors := e.descriptors.filter fun d => !d.2.isPrivate
    caught := []
    asleep := s.clock + loadTime }).release

-- Up to so many steps of one process. New processes are left at the end of the row.
def advance (programs : Program) (process : Nat) :
    Nat → Nat → Task → State → List (Nat × Task) → Nat × Course × State × List (Nat × Task)
  | 0, used, task, s, others => (used, .ready task, s, others)
  | steps + 1, used, task, s, others =>
    match task with
    | .exit status => (used + 1, .ended, s.finish process (.exited (status % 256)), others)
    | .step run =>
      let (s, task) := run s
      -- A signal may have to be taken before the next step.
      if s.alert then (used + 1, .ready task, s, others)
      else advance programs process steps (used + 1) task s others
    | .await ready until? next =>
      if ready s || until?.any (· ≤ s.clock) then
        advance programs process steps (used + 1) next s others
      else (used, .waiting task, s, others)
    | .fork child next =>
      let number := s.nextProcess
      let copy (e : Entry) : Entry := { e with
        parent := process, pending := [], delivered := [], ending := none
        asleep := s.clock + forkTime }
      let s := { s with
        nextProcess := number + 1
        processes := s.processes ++ ((s.entry? process).map fun e => (number, copy e)).toList }
      advance programs process steps (used + 1) (next number) s
        (others ++ [(number, child number)])
    | .load launch =>
      (used + 1, .ready (programs launch process .exit), loaded s process, others)

def isAwake (s : State) (process : Nat) : Bool :=
  (s.entry? process).any fun e => !e.isStopped && e.asleep ≤ s.clock && e.ending.isNone

def round (programs : Program) :
    List (Nat × Task) → List (Nat × Task) → Nat → State → Nat × List (Nat × Task) × State
  | [], done, longest, s => (longest, done, s)
  | (process, task) :: rest, done, longest, s =>
    let s := if s.alert then deliver s process else s
    if (s.entry? process).all fun e => e.ending.isSome then
      round programs rest done longest s
    else if !isAwake s process then round programs rest (done ++ [(process, task)]) longest s
    else
      let (used, course, s, born) := advance programs process turnLength 0 task s []
      let longest := max longest used
      let row := match course with
        | .ended => done
        | .waiting task | .ready task => done ++ [(process, task)]
      round programs rest (row ++ born) longest s

def isAlert (s : State) : Bool :=
  s.processes.any fun p => p.2.ending.isNone && !p.2.pending.isEmpty

def due? (s : State) (process : Nat) (task : Task) : Option Nat :=
  match s.entry? process with
  | none => none
  | some e =>
    if e.isStopped then none
    else if s.clock < e.asleep then some e.asleep
    else
      match task with
      | .await _ until? _ => until?
      | _ => some s.clock

def earliest (times : List Nat) : Option Nat :=
  times.foldl (fun least time => some (match least with
    | some l => min l time
    | none => time)) none

def outputLimit : Nat := 4000000

/-- Runs until something holds or the clock comes to a limit. A machine without steps left, or
with more written than it can keep, is taken to go on like that up to the limit. `rounds` bounds how
often everybody gets a turn. -/
def runWithin (programs : Program) (done : State → Bool) (limit : Nat) : Nat → Machine → Machine
  | 0, m => { m with state := { m.state with clock := max m.state.clock limit } }
  | rounds + 1, m =>
    if done m.state || limit ≤ m.state.clock then m
    else
      let (used, tasks, s) := round programs m.tasks [] 0 m.state
      let s := if s.alert then { s with alert := isAlert s } else s
      let next := { m with tasks := tasks, budget := m.budget - used }
      if next.budget = 0 || outputLimit < s.written then
        { next with state := { s with clock := max s.clock limit } }
      else if used = 0 && !s.alert then
        match earliest (tasks.filterMap fun t => due? s t.1 t.2) with
        | some time =>
          runWithin programs done limit rounds
            { next with state := { s with clock := min limit (max time s.clock) } }
        | none => { next with state := { s with clock := max s.clock limit } }
      else
        runWithin programs done limit rounds
          { next with state := { s with clock := s.clock + used * stepTime } }

def run (programs : Program) (done : State → Bool) (limit : Nat) (m : Machine) : Machine :=
  runWithin programs done limit (2 * m.budget + 2) m

theorem runWithin_reaches (programs : Program) (done : State → Bool) (limit rounds : Nat)
    (m : Machine) :
    let after := runWithin programs done limit rounds m
    done after.state = true ∨ limit ≤ after.state.clock := by
  induction rounds generalizing m with
  | zero => exact .inr (Nat.le_max_right _ _)
  | succ rounds ih =>
    intro after
    simp only [after, runWithin]
    generalize round programs m.tasks [] 0 m.state = turn
    obtain ⟨used, tasks, s⟩ := turn
    dsimp only
    generalize (if s.alert then { s with alert := isAlert s } else s) = s
    split
    next ends => simpa using ends
    split
    next => exact .inr (Nat.le_max_right _ _)
    split
    next =>
      split
      · exact ih _
      · exact .inr (Nat.le_max_right _ _)
    next => exact ih _

theorem run_reaches (programs : Program) (done : State → Bool) (limit : Nat) (m : Machine) :
    let after := m.run programs done limit
    done after.state = true ∨ limit ≤ after.state.clock :=
  runWithin_reaches programs done limit _ m

end Machine

end Converge.Process
