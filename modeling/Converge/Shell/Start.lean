import Converge.Shell.Eval

set_option autoImplicit false

namespace Converge.Shell.Start

open Eval
open Converge.Process

def standard (extended : Bool) (parent : Nat) : List (String × Variable) :=
  [("PATH", { value := some "/usr/local/sbin:/usr/local/bin:/usr/sbin:/usr/bin:/sbin:/bin" }),
    ("IFS", { value := some " \t\n" }), ("OPTIND", { value := some "1" }),
    ("PPID", { value := some (toString parent) }), ("PS4", { value := some "+ " })] ++
    if extended then [
      ("UID", { value := some "0" }), ("EUID", { value := some "0" }),
      ("OSTYPE", { value := some "linux-gnu" }), ("MACHTYPE", { value := some "x86_64-pc-linux-gnu" }),
      ("HOSTTYPE", { value := some "x86_64" }), ("SHLVL", { value := some "1", isExported := true })]
    else [("PS1", { value := some "# " }), ("PS2", { value := some "> " })]

def ofEnvironment (sh : Interpreter) (environment : List (String × String)) : Interpreter :=
  environment.reverse.foldl (fun sh (name, value) =>
    if !Read.isName name.toList || name = "OPTIND" || name = "PPID" || name = "IFS" then sh
    else if name = "SHLVL" && sh.isExtended then
      let level := (Arithmetic.count? value.toList).getD 0
      sh.put name { value := some (toString (level + 1)), isExported := true }
    else sh.put name { value := some value, isExported := true }) sh

def standing (state : State) (self : Nat) (asked : Option String) : String :=
  let here := ((state.entry? self).map (·.directory)).getD []
  let isRight (path : String) : Bool :=
    Path.isAbsolute path && match state.lookUp self true path with
      | .ok (place, .directory _) => place = here
      | _ => false
  match asked with
  | some path => if isRight path then path else pathOf here
  | none => pathOf here

def initial (dialect : Dialect) (state : State) (self : Nat) (launch : Launch) : Interpreter :=
  let entry := state.entry? self
  let parent := (entry.map (·.parent)).getD 0
  let extended := decide (dialect = .extended)
  let sh : Interpreter := {
    dialect := dialect, self := self, root := self, parent := parent, name := launch.name
    line := 0, bindings := standard extended parent
    ignored := (entry.map (·.ignored)).getD []
    extras := if extended then ["braceexpand", "hashall", "interactive-comments"] else [] }
  let sh := ofEnvironment sh launch.environment
  let directory := standing state self (sh.value? "PWD")
  let sh := { sh with directory := directory }
  sh.put "PWD" { value := some directory, isExported := true }

structure Asked where
  isArgument : Bool := false
  readsInput : Bool := false

def options : Nat → Asked → List String → Eval (Asked × List String)
  | 0, asked, ws => return (asked, ws)
  | room + 1, asked, ws => do
    match ws with
    | [] => return (asked, [])
    | w :: rest =>
      let sh ← get
      match w.toList with
      | ['-'] | ['-', '-'] => return (asked, rest)
      | '-' :: '-' :: _ =>
        if sh.isExtended then options room asked rest else fail "Illegal option --"
      | sign :: letters =>
        if sign ≠ '-' && sign ≠ '+' then return (asked, ws)
        else
          let own (c : Char) : Bool := c = 'c' || c = 'l' || (c = 's' && sh.isExtended)
          let others := letters.filter fun c => !own c
          let asked := {
            isArgument := asked.isArgument || letters.contains 'c'
            readsInput := asked.readsInput || letters.contains 's' }
          let rest ← Builtin.optionWord (sign = '-') others rest
          options room asked rest
      | [] => return (asked, ws)

def programOf (path : String) : Eval String := do
  let sh ← get
  match ← act (Act.openAt 10 path .reading true) with
  | .error err => do
    if sh.isExtended then
      act (Act.complain (sh.name ++ ": " ++ path ++ ": " ++ err.reason))
      setStatus 127
      throw Leave.exit
    else fail (Redirection.refusal false false path err)
  | .ok number => do
    let octets ← act (Act.readAll number)
    act (Act.close number)
    match octets, sh.isExtended with
    | .error err, true => do
      act (Act.complain (path ++ ": " ++ path ++ ": " ++ err.reason))
      setStatus 126
      throw Leave.exit
    | octets, _ => return Text.Raw.ofOctets (octets.toOption.getD [])

def withName (name : String) (words : List String) : Eval Unit :=
  modify fun sh => { sh with name := name, positional := words, line := 1 }

def work (e : Engine) (words : List String) : Eval Nat := do
  let (asked, words) ← options (words.length + 1) {} words
  if asked.isArgument then
    match words with
    | [] => do
      let sh ← get
      if sh.isExtended then
        act (Act.complain (sh.name ++ ": -c: option requires an argument"))
        setStatus 2
        throw Leave.exit
      fail "-c requires an argument"
    | program :: rest => do
      let sh ← get
      withName (rest.headD sh.name) (rest.drop 1)
      modify fun sh => { sh with isArgument := true }
      e.text program { isLast := !asked.readsInput }
  else
    match if asked.readsInput then [] else words with
    | [] => do
      let sh ← get
      let octets := (← act (Act.readAll 0)).toOption.getD []
      Builtin.setOption 's' true
      withName sh.name words
      e.text (Text.Raw.ofOctets octets) {}
    | path :: rest => do
      let program ← programOf path
      withName path rest
      e.text program {}

def run (dialect : Dialect) (launch : Launch) : Act Nat := fun self k =>
  let e := engine engineFuel
  let whole : Eval Unit := do
    match ← caught (work e launch.words) with
    | .ok n => setStatus n
    | .error _ => pure ()
    Expansion.finish e
  Act.get self fun state =>
    whole (initial dialect state self launch) fun _ sh => k sh.status

end Converge.Shell.Start
