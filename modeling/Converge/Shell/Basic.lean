import Converge.Process.Transfer
import Converge.Shell.Arithmetic
import Converge.Shell.Grammar

set_option autoImplicit false

namespace Converge.Shell

open Converge.Process

structure Variable where
  value : Option String := none
  isExported : Bool := false
  isReadonly : Bool := false
  isInteger : Bool := false
  elements : Option (List (String × String)) := none
  isAssociative : Bool := false

-- The value of a variable, or of the element that stands for the whole of an array.
def Variable.first (v : Variable) : Option String :=
  match v.elements with
  | some es => es.lookup "0"
  | none => v.value

inductive Skip where
  | none
  -- So many loops, the innermost of which goes on or not.
  | loops (count : Nat) (goesOn : Bool)
  -- The rest of a function or of a text that was read in.
  | function
  deriving DecidableEq

structure Job where
  number : Nat
  processes : List Nat
  endings : List (Nat × Ending) := []
  isWaited : Bool := false

def Job.remaining (j : Job) : List Nat :=
  j.processes.filter fun p => (j.endings.lookup p).isNone

def Job.freeNumber (jobs : List Job) : Nat :=
  ((List.range jobs.length).find? fun n => !jobs.any (·.number == n + 1)).getD jobs.length + 1

structure Function where
  line : Nat
  body : Command

structure Mode where
  isLast : Bool := false
  isTested : Bool := false
  -- It is a part of something else, so that the shell still counts as one when it is replaced.
  isPart : Bool := false

structure Interpreter where
  dialect : Dialect
  -- The process that this is, and the one that it was at first.
  self : Nat
  root : Nat
  parent : Nat
  name : String
  -- The builtin at work, as error messages name it.
  builtin : Option String := none
  isArgument : Bool := false
  line : Nat := 1
  shownLine : Nat := 1
  functionLine : Nat := 0
  bindings : List (String × Variable) := []
  -- What local variables were before, for each function at work.
  locals : List (List (String × Option Variable)) := []
  positional : List String := []
  -- Where in a row of options the next one is.
  optionOffset : Option Nat := none
  optionIndex : Nat := 1
  functions : List (String × Function) := []
  aliases : List (String × String) := []
  -- What is done on signals; 0 stands for the end.
  traps : List (Nat × String) := []
  ignored : List Nat := []
  options : List Char := []
  extras : List String := []
  status : Nat := 0
  -- The status of the last command inside a substitution.
  substituted : Nat := 0
  -- The statuses of the parts of the last pipeline.
  pipeStatuses : List Nat := [0]
  background : Nat := 0
  jobs : List Job := []
  skip : Skip := .none
  loops : Nat := 0
  depth : Nat := 0
  remembered : List String := []
  directory : String := "/"
  documents : List (Nat × Word) := []
  nextDocument : Nat := 0
  limits : List (Char × String) := []
  isCopy : Bool := false
  -- How often a text is read in inside another.
  nesting : Nat := 0
  -- The lines of the program that is being read, where errors show them.
  source : String := ""

inductive Leave where
  -- Something went wrong; the shell ends unless somebody sees to it.
  | error
  | exit
  deriving DecidableEq

def Eval (α : Type) : Type := Interpreter → (Except Leave α → Interpreter → Task) → Task

namespace Eval

variable {α β : Type}

instance : Monad Eval where
  pure a := fun sh k => k (.ok a) sh
  bind m f := fun sh k => m sh fun r sh =>
    match r with
    | .ok a => f a sh k
    | .error e => k (.error e) sh

instance : MonadExceptOf Leave Eval where
  throw e := fun sh k => k (.error e) sh
  tryCatch m handle := fun sh k => m sh fun r sh =>
    match r with
    | .error e => handle e sh k
    | .ok a => k (.ok a) sh

instance : MonadStateOf Interpreter Eval where
  get := fun sh k => k (.ok sh) sh
  set sh := fun _ k => k (.ok ()) sh
  modifyGet f := fun sh k => let (a, sh) := f sh; k (.ok a) sh

def act (m : Act α) : Eval α := fun sh k => m sh.self fun a => k (.ok a) sh

def caught (m : Eval α) : Eval (Except Leave α) := fun sh k => m sh fun r sh => k (.ok r) sh

def finally_ (m : Eval α) (after : Eval Unit) : Eval α := do
  let r ← caught m
  after
  match r with
  | .ok a => return a
  | .error e => throw e

def say (text : String) : Eval Bool := do
  if text.isEmpty then return true
  return (← act (Act.say 1 text)).toBool

def title : Eval String := do
  let sh ← get
  let command := match sh.builtin with
    | some c => c ++ ": "
    | none => ""
  match sh.dialect with
  | .plain => return sh.name ++ ": " ++ toString sh.line ++ ": " ++ command
  | .extended => return sh.name ++ ": line " ++ toString sh.line ++ ": " ++ command

def report (message : String) : Eval Unit := do
  act (Act.complain ((← title) ++ message))

def fail (message : String) : Eval α := do
  report message
  modify fun sh => { sh with status := if sh.dialect = .plain then 2 else 1 }
  throw Leave.error

def setStatus (n : Nat) : Eval Unit := modify fun sh => { sh with status := n }

def hasOption (c : Char) : Eval Bool := do return (← get).options.contains c

end Eval

namespace Interpreter

variable (sh : Interpreter)

def find? (name : String) : Option Variable := sh.bindings.lookup name

def isExtended : Bool := sh.dialect = .extended

def value? (name : String) : Option String :=
  match name with
  | "LINENO" => if sh.isExtended then some (toString sh.shownLine) else (sh.find? name).bind Variable.first
  | "BASH_VERSION" => if sh.isExtended then some "5.2.15(1)-release" else (sh.find? name).bind Variable.first
  | "SECONDS" => if sh.isExtended then some "0" else (sh.find? name).bind Variable.first
  | _ => (sh.find? name).bind Variable.first

def put (name : String) (v : Variable) : Interpreter :=
  { sh with bindings :=
      if sh.bindings.any (·.1 == name) then
        sh.bindings.map fun b => if b.1 = name then (name, v) else b
      else (name, v) :: sh.bindings }

def remove (name : String) : Interpreter :=
  { sh with bindings := sh.bindings.filter (·.1 ≠ name) }

def separators : String := (sh.value? "IFS").getD " \t\n"

-- A hash of a name: the plain language adds the letters up, the first one more heavily, and the
-- extended one multiplies and mixes.
def hash (name : String) : Nat :=
  let codes := name.toList.map Char.toNat
  if sh.isExtended then
    codes.foldl (fun h c => Nat.xor (h * 16777619 % 4294967296) c) 2166136261
  else codes.foldl (· + ·) (codes.headD 0 * 16)

def ordered (buckets : Nat) (names : List String) : List String :=
  names.mergeSort fun a b => sh.hash a % buckets ≤ sh.hash b % buckets

/-- The variables that other programs see. What is local comes first in the extended language, and
in a bucket the latest does; in the plain one the earliest does. -/
def environment : List (String × String) :=
  let names := sh.bindings.map (·.1)
  let names :=
    if sh.isExtended then
      (sh.locals.flatMap fun frame => sh.ordered 4 (frame.map (·.1))) ++ sh.ordered 1024 names
    else sh.ordered 39 names.reverse
  names.eraseDups.filterMap fun name =>
    match sh.find? name with
    | some v => if v.isExported then v.first.map fun value => (name, value) else none
    | none => none

end Interpreter

namespace Eval

def assign (name value : String) : Eval Unit := do
  let sh ← get
  let old := (sh.find? name).getD {}
  if old.isReadonly then
    if sh.dialect = .plain then fail (name ++ ": is read only") else
      report (name ++ ": readonly variable")
      setStatus 1
      throw Leave.error
  let isExported := old.isExported || sh.options.contains 'a'
  let v : Variable := match old.elements with
    | some es => { old with elements := some (("0", value) :: es.filter (·.1 ≠ "0")) }
    | none => { old with value := some value, isExported := isExported }
  let sh := sh.put name v
  set (match name with
    | "OPTIND" => { sh with
        optionIndex := ((Arithmetic.count? value.toList).getD 1), optionOffset := none }
    | "PATH" => { sh with remembered := [] }
    | _ => sh)

def makeLocal (name : String) : Eval Unit := do
  let sh ← get
  match sh.locals with
  | [] => pure ()
  | frame :: rest =>
    if !frame.any (·.1 == name) then
      set { sh with locals := ((name, sh.find? name) :: frame) :: rest }

def pushLocals : Eval Unit := modify fun sh => { sh with locals := [] :: sh.locals }

def popLocals (keep : Bool) : Eval Unit := do
  let sh ← get
  match sh.locals with
  | [] => pure ()
  | frame :: rest =>
    let sh := { sh with locals := rest }
    if keep then set sh
    else
      set (frame.foldl (fun (sh : Interpreter) (name, v) =>
        match v with
        | some v =>
          if name = "-" then { sh with options := (v.value.getD "").toList } else sh.put name v
        | none => sh.remove name) sh)

/-- Starts a copy of the shell as a child. It does not take the signals that the shell takes. In the
plain language jobs whose end was waited for are forgotten then. -/
def fork (child : Eval Unit) : Eval Nat := fun sh k =>
  let hasTraps := sh.traps.any fun t => t.2 ≠ ""
  let work : Eval Unit := do
    if hasTraps then act (Act.changeEntry fun e => { e with caught := [] })
    child
  .fork
    (fun self => work { sh with
        self := self
        isCopy := true
        traps := sh.traps.filter fun t => t.2 = ""
        jobs := []
        skip := .none } fun _ sh => .exit sh.status)
    (fun child => k (.ok child) (if sh.isExtended then sh else
      { sh with jobs := sh.jobs.filter fun j => !(j.isWaited && j.remaining.isEmpty) }))

end Eval

end Converge.Shell
