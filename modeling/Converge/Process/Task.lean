import Converge.Process.State

set_option autoImplicit false

namespace Converge.Process

/-- A program that is about to start, with the words after its name. -/
structure Launch where
  name : String
  tool : String
  words : List String
  environment : List (String × String)

inductive Task where
  | exit (status : Nat)
  | step (run : State → State × Task)
  -- Goes on as soon as the state is as it should be, or at a given time.
  | await (ready : State → Bool) (until? : Option Nat) (next : Task)
  -- A new process does the first task; both are told the number of the new one.
  | fork (child : Nat → Task) (next : Nat → Task)
  | load (launch : Launch)

instance : Inhabited Task := ⟨.exit 0⟩

-- Work of a process that has a result; what follows the work is given as a function of it.
def Act (α : Type) : Type := Nat → (α → Task) → Task

abbrev Program := Launch → Act Nat

namespace Act

variable {α β : Type}

instance : Monad Act where
  pure a := fun _ k => k a
  bind m f := fun self k => m self fun a => f a self k

def self : Act Nat := fun self k => k self

def modifyGet (f : State → α × State) : Act α := fun _ k =>
  .step fun s => let (a, s) := f s; (s, k a)

def get : Act State := modifyGet fun s => (s, s)

def modify (f : State → State) : Act Unit := modifyGet fun s => ((), f s)

def exit (status : Nat) : Act α := fun _ _ => .exit status

def load (launch : Launch) : Act α := fun _ _ => .load launch

def doing (f : Nat → State → α × State) : Act α := fun self k =>
  .step fun s => let (a, s) := f self s; (s, k a)

def await (ready : Nat → State → Bool) (until? : Option Nat) : Act Unit := fun self k =>
  .await (ready self) until? (k ())

def fork (child : Act Unit) : Act Nat := fun _ k =>
  .fork (fun number => child number fun _ => .exit 0) k

def clock : Act Nat := modifyGet fun s => (s.clock, s)

def sleepUntil (time : Nat) : Act Unit := await (fun _ _ => false) (some time)

def entry : Act (Option Entry) := doing fun self s => (s.entry? self, s)

def changeEntry (f : Entry → Entry) : Act Unit :=
  doing fun self s => ((), s.changeEntry self f)

def waitFor (child : Nat) : Act Ending := do
  await (fun _ s => (s.ending? child).isSome || (s.entry? child).isNone) none
  modifyGet fun s => ((s.ending? child).getD (.exited 127), s.reap child)

end Act

end Converge.Process
