import Converge.Execution.Run
import Converge.Process.Machine

set_option autoImplicit false

namespace Converge.Process

open Converge.Execution (Capture Drained Observation Order Processes Stream)
open Converge.Text

-- Worlds that keep a machine for their processes.
class Carrier (ρ : Type) where
  machine : ρ → Machine
  park : Machine → ρ → ρ

instance : Carrier Machine := ⟨id, fun m _ => m⟩

def allowance : Nat := 3000000

def image (environment : List (String × String)) (files : FileSystem) (c : Command) :
    Except OsError Image :=
  if (c.program :: c.args).any fun word => word.toList.contains (Char.ofNat 0) then
    .error .nulInCommand
  else
    Image.find files files.workingDirectory ((environment.lookup "PATH").getD "")
      (Raw.ofText c.program) (c.args.map Raw.ofText)

-- What is remembered of a file that has become another one in the meantime is of no use.
def isCurrent (files : FileSystem) (place : Location) (mode : Nat) : Bool :=
  match files.find? place with
  | some (.file _ executable) => (mode &&& 0o111 ≠ 0) == executable
  | some _ => true
  | none => false

namespace State

def opened (before : State) : Nat × State :=
  let process := before.nextProcess
  let run := before.run + 1
  let openings : List (Nat × Opening) := [
    (before.next, { target := .device .null }),
    (before.next + 1, { target := .captured run .stdout, readable := false, writable := true }),
    (before.next + 2, { target := .captured run .stderr, readable := false, writable := true })]
  let entry : Entry := {
    parent := outside, directory := before.files.workingDirectory
    asleep := before.clock + Machine.loadTime
    descriptors := (List.range 3).map fun n => (n, { opening := before.next + n : Descriptor }) }
  (process, { before with
    processes := before.processes ++ [(process, entry)]
    openings := openings ++ before.openings
    writes := [], written := 0, run := run
    next := before.next + 3
    nextProcess := process + 1
    modes := before.modes.filter fun m => isCurrent before.files m.1 m.2
    times := before.times.filter fun t => (before.files.find? t.1).isSome
    start := if before.run = 0 then before.clock else before.start })

def exitCode? (s : State) (process : Nat) : Option (Option Int) :=
  (s.ending? process).map fun ending =>
    match ending with
    | .exited status => some (Int.ofNat status)
    | .killed _ => none

def isHeld (s : State) (stream : Stream) : Bool :=
  s.openings.any fun o =>
    match o.2.target with
    | .captured run other => run = s.run && other = stream
    | _ => false

def writtenTo (s : State) (stream : Stream) : Utf8.Octets :=
  ((s.writes.filter fun entry => entry.2.1 = stream).reverse.map fun entry => entry.2.2).flatten

@[simp] theorem settle_clock (s : State) : s.settle.clock = s.clock := by
  unfold settle
  split <;> rfl

end State

namespace Machine

variable {ρ : Type} [Carrier ρ]

def awoken (w : World ρ) : Machine :=
  let m := Carrier.machine w.rest
  { m with state := { m.state with files := w.files, clock := w.wall } }

def parked (w : World ρ) (m : Machine) : World ρ :=
  let s := m.state.settle
  { files := s.files
    clock := w.clock + (s.clock - w.wall)
    wall := s.clock
    rest := Carrier.park { m with state := { s with files := .empty } } w.rest }

def reaped (m : Machine) (process : Nat) : Machine :=
  { m with
    state := (m.state.reap process).release
    tasks := m.tasks.filter (·.1 ≠ process) }

def spawn (programs : Program) (environment : List (String × String)) (c : Command)
    (w : World ρ) : Except OsError (Nat × World ρ) :=
  (image environment w.files c).map fun image =>
    let m := awoken w
    let (process, state) := m.state.opened
    let variables_ := environment.map fun (name, value) => (Raw.ofText name, Raw.ofText value)
    let task := programs ⟨image.name, image.tool, image.words, variables_⟩ process .exit
    (process, parked w { state := state, tasks := m.tasks ++ [(process, task)], budget := allowance })

def look (process : Nat) (w : World ρ) : Observation (Option Int) × World ρ :=
  let m := awoken w
  match m.state.exitCode? process with
  | some exitCode => (.exited exitCode, parked w (m.reaped process))
  | none => (.running, w)

def sleep (programs : Program) (duration : Nat) (w : World ρ) : World ρ :=
  parked w ((awoken w).run programs (fun _ => false) (w.wall + duration))

def order (process : Nat) (w : World ρ) : Order → Option OsError × World ρ
  | .kill =>
    let m := awoken w
    (none, parked w { m with state := m.state.finish process (.killed Signal.kill) })
  | .reap => (none, parked w ((awoken w).reaped process))

def drain (programs : Program) (exitCode : Option Int) (limit : Nat) (w : World ρ) :
    Drained ρ exitCode :=
  let after := (awoken w).run programs (fun s => !s.isHeld .stdout && !s.isHeld .stderr)
    (w.wall + (limit - w.clock))
  { steps := Capture.course exitCode after.state.writtenTo after.state.isHeld
    returns := (Capture.run_course _ _ _).1
    world := parked w { after with state := { after.state with writes := [] } } }

theorem clock_le_parked (w : World ρ) (m : Machine) : w.clock ≤ (parked w m).clock :=
  Nat.le_add_right _ _

theorem clock_le_look (process : Nat) (w : World ρ) : w.clock ≤ (look process w).2.clock := by
  unfold look
  dsimp only
  split
  · exact clock_le_parked _ _
  · exact Nat.le_refl _

theorem clock_le_sleep (programs : Program) (duration : Nat) (w : World ρ) :
    w.clock + duration ≤ (sleep programs duration w).clock := by
  have reached := run_reaches programs (fun _ => false) (w.wall + duration) (awoken w)
  simp only [sleep, parked, State.settle_clock]
  simp only [Bool.false_eq_true, false_or] at reached
  omega

def processes (programs : Program) (environment : List (String × String)) : Processes ρ where
  spawn := spawn programs environment
  look := look
  sleep := sleep programs
  order o process w := order process w o
  drain _ := drain programs
  clock_le_look := clock_le_look
  clock_le_sleep := clock_le_sleep programs

end Machine

end Converge.Process
