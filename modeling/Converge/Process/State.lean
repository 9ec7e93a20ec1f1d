import Converge.Execution.Capture
import Converge.FileSystem.Access
import Converge.Process.Signal

set_option autoImplicit false

namespace Converge.Process

open Converge.Execution (Stream)
open Converge.Text

inductive Target where
  -- An output of the run with this number, kept by whoever started it.
  | captured (run : Nat) (stream : Stream)
  | file (place : Location)
  -- A file to which no path leads any more.
  | loose (content : Utf8.Octets)
  | directory (place : Location)
  | device (device : Device)
  | reading (pipe : Nat)
  | writing (pipe : Nat)

/-- An open file. Descriptors that were copied share it with its position. -/
structure Opening where
  target : Target
  position : Nat := 0
  appends : Bool := false
  readable : Bool := true
  writable : Bool := false

structure Descriptor where
  opening : Nat
  -- It does not outlive the start of another program.
  isPrivate : Bool := false

/-- A pipe: what was written and not yet read, the front first, and the rest backwards. -/
structure Channel where
  front : Utf8.Octets := []
  back : List Utf8.Octets := []
  size : Nat := 0

namespace Channel

def capacity : Nat := 65536

def push (c : Channel) (octets : Utf8.Octets) : Channel :=
  { c with back := octets :: c.back, size := c.size + octets.length }

def pop (c : Channel) (n : Nat) : Utf8.Octets × Channel :=
  let front := if c.front.isEmpty then c.back.reverse.flatten else c.front
  let back := if c.front.isEmpty then [] else c.back
  let taken := front.take n
  (taken, { front := front.drop n, back := back, size := c.size - taken.length })

end Channel

inductive Ending where
  | exited (status : Nat)
  | killed (signal : Nat)
  deriving DecidableEq, Repr

structure Entry where
  parent : Nat
  directory : Location
  umask : Nat := 0o022
  descriptors : List (Nat × Descriptor) := []
  ignored : List Nat := []
  caught : List Nat := []
  -- Signals that were sent and have not come in.
  pending : List Nat := []
  delivered : List Nat := []
  isStopped : Bool := false
  ending : Option Ending := none
  asleep : Nat := 0

structure State where
  files : FileSystem
  clock : Nat := 0
  processes : List (Nat × Entry) := []
  openings : List (Nat × Opening) := []
  pipes : List (Nat × Channel) := []
  -- What was written to captured outputs and when, the latest first.
  writes : List (Nat × Stream × Utf8.Octets) := []
  written : Nat := 0
  run : Nat := 0
  -- The number of the next open file or pipe.
  next : Nat := 1
  nextProcess : Nat := 1001
  alert : Bool := false
  modes : List (Location × Nat) := []
  times : List (Location × Int) := []
  start : Int := 0
  twins : List (List Location) := []
  -- The end of a file that is being written: its place, its whole length, and what is still to be
  -- added, the latest first.
  tail : Option (Location × Nat × List Utf8.Octets) := none

namespace State

def outside : Nat := 1000

def entry? (s : State) (process : Nat) : Option Entry := s.processes.lookup process

def changeEntry (s : State) (process : Nat) (f : Entry → Entry) : State :=
  { s with processes := s.processes.map fun p => if p.1 = process then (p.1, f p.2) else p }

def opening? (s : State) (number : Nat) : Option Opening := s.openings.lookup number

def changeOpening (s : State) (number : Nat) (f : Opening → Opening) : State :=
  { s with openings := s.openings.map fun o => if o.1 = number then (o.1, f o.2) else o }

def changePipe (s : State) (number : Nat) (f : Channel → Channel) : State :=
  { s with pipes := s.pipes.map fun p => if p.1 = number then (p.1, f p.2) else p }

def descriptor? (s : State) (process number : Nat) : Option (Nat × Opening) := do
  let e ← s.entry? process
  let d ← e.descriptors.lookup number
  let o ← s.opening? d.opening
  some (d.opening, o)

def held (s : State) : List Nat :=
  s.processes.flatMap fun p => p.2.descriptors.map fun d => d.2.opening

def isWritten (s : State) (pipe : Nat) : Bool :=
  s.openings.any fun o => match o.2.target with
    | .writing p => p = pipe
    | _ => false

def isRead (s : State) (pipe : Nat) : Bool :=
  s.openings.any fun o => match o.2.target with
    | .reading p => p = pipe
    | _ => false

def release (s : State) : State :=
  let held := s.held
  let openings := s.openings.filter fun o => held.contains o.1
  let isOpen (pipe : Nat) : Bool := openings.any fun o => match o.2.target with
    | .reading p | .writing p => p = pipe
    | _ => false
  { s with openings := openings, pipes := s.pipes.filter fun p => isOpen p.1 }

def settle (s : State) : State :=
  match s.tail with
  | none => s
  | some (place, _, chunks) =>
    let octets := chunks.reverse.flatten
    let places := place :: ((s.twins.find? (·.contains place)).getD []).filter (· ≠ place)
    { s with
      files := places.foldl (fun files place => files.appendAt place octets) s.files
      tail := none }

def places (s : State) (place : Location) : List Location :=
  place :: ((s.twins.find? (·.contains place)).getD []).filter (· ≠ place)

def touch (s : State) (place : Location) (time : Int) : State :=
  { s with times := (place, time) :: s.times.filter (·.1 ≠ place) }

def setContent (s : State) (place : Location) (content : Utf8.Octets) : State :=
  let s := s.settle
  let files := (s.places place).foldl (fun files place =>
    match files.find? place with
    | some (.file _ executable) => files.set place (.file content executable)
    | _ => files) s.files
  { s.touch place s.clock with files := files }

def content (s : State) (place : Location) : Utf8.Octets :=
  match s.settle.files.find? place with
  | some (.file content _) => content
  | _ => []

def append (s : State) (place : Location) (octets : Utf8.Octets) : State :=
  match s.tail with
  | some (current, length, chunks) =>
    if current = place then
      { s with tail := some (place, length + octets.length, octets :: chunks) }
    else
      let s := s.settle
      { s.touch place s.clock with
        tail := some (place, (s.content place).length + octets.length, [octets]) }
  | none =>
    { s.touch place s.clock with
      tail := some (place, (s.content place).length + octets.length, [octets]) }

def length (s : State) (place : Location) : Nat :=
  match s.tail with
  | some (current, length, _) => if current = place then length else (s.content place).length
  | none => (s.content place).length

def open_ (s : State) (o : Opening) : Nat × State :=
  (s.next, { s with openings := (s.next, o) :: s.openings, next := s.next + 1 })

def freeDescriptor (e : Entry) (first : Nat) : Nat :=
  ((List.range (e.descriptors.length + 1)).map (first + ·)).find?
    (fun n => (e.descriptors.lookup n).isNone) |>.getD first

def setDescriptor (s : State) (process number : Nat) (d : Option Descriptor) : State :=
  (s.changeEntry process fun e =>
    let others := e.descriptors.filter (·.1 ≠ number)
    { e with descriptors := match d with
      | some d => (number, d) :: others
      | none => others }).release

def send (s : State) (process signal : Nat) : State :=
  let sent := s.changeEntry process fun e =>
    if e.ending.isSome || signal = 0 then e else { e with pending := e.pending ++ [signal] }
  { sent with alert := true }

-- Ends a process. What it has open is let go, its children lose their parent, and its own parent
-- hears of it.
def finish (s : State) (process : Nat) (ending : Ending) : State :=
  match s.entry? process with
  | none => s
  | some e =>
    let isAlone := (s.entry? e.parent).all fun p => p.ending.isSome
    let orphans := s.processes.filterMap fun p =>
      if p.2.parent = process && p.2.ending.isSome then none
      else if p.2.parent = process then some (p.1, { p.2 with parent := 1 })
      else some p
    let s := { s with processes := orphans }
    let s := if isAlone && e.parent ≠ outside then
        { s with processes := s.processes.filter (·.1 ≠ process) }
      else s.changeEntry process fun e => { e with descriptors := [], ending := some ending }
    (s.send e.parent Signal.child).release

def ending? (s : State) (process : Nat) : Option Ending := (s.entry? process).bind (·.ending)

def reap (s : State) (process : Nat) : State :=
  { s with processes := s.processes.filter (·.1 ≠ process) }

end State

end Converge.Process
