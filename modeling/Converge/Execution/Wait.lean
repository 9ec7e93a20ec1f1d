set_option autoImplicit false

namespace Converge.Execution

variable {σ : Type}

inductive Observation (σ : Type) where
  | exited (status : σ)
  | running
  | unknown (reason : String)
  deriving DecidableEq, Repr

-- A look at a process, and the clock read right after it.
structure Poll (σ : Type) where
  seen : Observation σ
  clock : Nat
  deriving DecidableEq, Repr

inductive Order where
  | kill
  | reap
  deriving DecidableEq, Repr

inductive Ending (σ : Type) where
  | exited (status : σ)
  | timedOut
  | lost (reason : String)
  deriving DecidableEq, Repr

structure Waited (σ : Type) where
  ending : Ending σ
  -- What is done to a process that is given up.
  orders : List Order
  -- How often it was looked at.
  polls : Nat
  deriving DecidableEq, Repr

/-- Waits along a row of polls; `none` if the row ends first. An end that is seen counts even after
the deadline. -/
def waitUntil (deadline : Nat) : List (Poll σ) → Option (Waited σ)
  | [] => none
  | poll :: rest =>
    match poll.seen with
    | .exited status => some ⟨.exited status, [], 1⟩
    | .unknown reason => some ⟨.lost reason, [], 1⟩
    | .running =>
      if deadline ≤ poll.clock then some ⟨.timedOut, [.kill, .reap], 1⟩
      else (waitUntil deadline rest).map fun w => { w with polls := w.polls + 1 }

def pollInterval : Nat := 50000000

def second : Nat := 1000000000

def millisecond : Nat := 1000000

-- A clock shows signed 64-bit seconds and nanoseconds. Here its seconds end.
def clockSeconds : Nat := 0x8000000000000000

-- A time after a reading of the clock, if the clock can show it.
def later? (now duration : Nat) : Option Nat :=
  if now < clockSeconds * second - duration then some (now + duration) else none

-- What is said of a time that the clock cannot show.
def overflow : String := "overflow when adding duration to instant"

end Converge.Execution
