import Converge.Shell.Assignment
import Converge.Shell.Brace
import Converge.Shell.Builtin.Extended
import Converge.Shell.Builtin.Words
import Converge.Shell.Child
import Converge.Shell.Redirection

set_option autoImplicit false
set_option maxRecDepth 2000

namespace Converge.Shell.Simple

open Eval
open Converge.Process

variable (e : Engine)

def depthLimit : Nat := 1000

def builtins : List (String × Builtin) := [
  (":", fun _ => return 0), ("true", fun _ => return 0), ("false", fun _ => return 1),
  ("echo", Builtin.echo), ("printf", Builtin.printf), ("test", Builtin.test false),
  ("[", Builtin.test true), ("cd", Builtin.cd), ("chdir", Builtin.cd), ("pwd", Builtin.pwd),
  ("set", Builtin.set_), ("shift", Builtin.shift), ("export", Builtin.export_),
  ("readonly", Builtin.readonly), ("unset", Builtin.unset), ("local", Builtin.local_),
  ("getopts", Builtin.getopts), ("read", Builtin.read), ("alias", Builtin.alias_),
  ("unalias", Builtin.unalias), ("type", Builtin.type_), ("hash", Builtin.hash),
  ("kill", Builtin.kill), ("wait", Builtin.wait), ("trap", Builtin.trap), ("jobs", Builtin.jobs),
  ("fg", Builtin.withoutJobs), ("bg", Builtin.withoutJobs), ("umask", Builtin.umask),
  ("ulimit", Builtin.ulimit), ("times", Builtin.times)]

def extendedBuiltins : List (String × Builtin) := [
  ("declare", Builtin.declare), ("typeset", Builtin.declare), ("let", Builtin.let_),
  ("local", fun ws => do
    if (← get).depth = 0 then Builtin.local_ ws else Builtin.declare ws),
  ("shopt", Builtin.shopt), ("mapfile", Builtin.mapfile), ("readarray", Builtin.mapfile),
  ("disown", fun _ => return 0), ("enable", fun _ => return 0), ("caller", fun _ => return 1),
  ("help", fun _ => return 0)]

def breakOff (goesOn : Bool) (ws : List String) : Eval Nat := do
  let sh ← get
  let n ← match ws with
    | w :: _ => do
      let n ← Builtin.number w
      if n = 0 then fail ("Illegal number: " ++ w)
      pure n
    | [] => pure 1
  if sh.loops = 0 && sh.isExtended then
    report ("only meaningful in a " ++ String.singleton Read.backquote ++ "for', " ++
      String.singleton Read.backquote ++ "while', or " ++ String.singleton Read.backquote ++
        "until' loop")
  if 0 < sh.loops then modify fun sh => { sh with skip := .loops (min n sh.loops) goesOn }
  return 0

def return_ (ws : List String) : Eval Nat := do
  let sh ← get
  if sh.isExtended && sh.depth = 0 && sh.nesting = 0 then
    report ("can only " ++ String.singleton Read.backquote ++
      "return' from a function or sourced script")
    return 2
  let n ← match ws with
    | w :: _ => Builtin.number w
    | [] => pure sh.status
  modify fun sh => { sh with skip := .function }
  return n

def exit (ws : List String) : Eval Nat := do
  match ws with
  | w :: _ => do
    match Arithmetic.count? w.toList, (← get).isExtended with
    | none, true => do
      match Arithmetic.integer? false w.toList with
      | some n => setStatus (n % 256).toNat
      | none => do
        report (w ++ ": numeric argument required")
        setStatus 2
    | _, _ => do setStatus (← Builtin.number w)
  | [] => pure ()
  throw Leave.exit

def searchPath : Eval String := do return ((← get).value? "PATH").getD ""

def exec (ws : List String) : Eval Nat := do
  match ws with
  | [] => return 0
  | name :: words => do
    Child.leaveLevel
    Child.become name (← searchPath) words

def eval (m : Mode) (ws : List String) : Eval Nat := do
  if ws.isEmpty then return 0
  e.text (String.intercalate " " ws) { isTested := m.isTested }

def sourceFile (name : String) : Eval String := do
  if name.toList.contains '/' then return name
  let (state, directory) ← Child.scene
  let paths := (Image.splitColon (← searchPath)).map fun entry =>
    if entry = "" then name else joined entry name
  let isFile (path : String) : Bool :=
    match state.files.lookUp (State.absolute directory path) with
    | .ok (_, .file _ _) => true
    | _ => false
  match paths.find? isFile with
  | some path => return path
  | none => do
    if (← get).isExtended then return name
    fail (name ++ ": not found")

def source (ws : List String) : Eval Nat := do
  match ws with
  | [] => do
    if (← get).isExtended then
      report "filename argument required"
      return 2
    return 0
  | name :: args => do
    let path ← sourceFile name
    let sh ← get
    match ← act (Act.openAt 10 path .reading true) with
    | .error err => do
      if sh.isExtended then
        modify fun sh => { sh with builtin := none }
        report (path ++ ": " ++ err.reason)
        return 1
      fail (Redirection.refusal false false path err)
    | .ok number => do
      let octets ← act (Act.readAll number)
      act (Act.close number)
      modify fun sh => { sh with
        builtin := if sh.isExtended then none else some path
        nesting := sh.nesting + 1
        positional := if sh.isExtended && !args.isEmpty then args else sh.positional }
      let status ← e.text (Text.Raw.ofOctets (octets.toOption.getD [])) {}
      modify fun now => { now with
        nesting := sh.nesting
        positional := if sh.isExtended && !args.isEmpty then sh.positional else now.positional
        skip := if now.skip = .function then .none else now.skip }
      return status

def inquiry (ws : List String) : Eval Nat := do
  let (taken, names) ← Builtin.options "pvV" ws
  if names.isEmpty || !taken.any fun t => t.1 ≠ 'p' then return 0
  Builtin.inquire (taken.any (·.1 == 'V')) names

def builtin? (sh : Interpreter) (name : String) (m : Mode) : Option Builtin :=
  match name with
  | "break" => some (breakOff false)
  | "continue" => some (breakOff true)
  | "return" => some return_
  | "exit" => some exit
  | "exec" => some exec
  | "eval" => some (eval e m)
  | "." => some (source e)
  | "command" => some inquiry
  | "source" => if sh.isExtended then some (source e) else none
  | name =>
    if sh.isExtended then
      (extendedBuiltins.lookup name).orElse fun _ => builtins.lookup name
    else builtins.lookup name

def runBuiltin (name : String) (work : Builtin) (words : List String) : Eval Nat := do
  let before := (← get).builtin
  modify fun sh => { sh with builtin := some name }
  finally_ (work words) (modify fun sh => { sh with builtin := before })

def call (f : Function) (words : List String) (m : Mode) : Eval Nat := do
  let before ← get
  if depthLimit ≤ before.depth then
    fail ("Maximum function recursion depth (" ++ toString depthLimit ++ ") reached")
  set { before with
    positional := words, optionIndex := 1, optionOffset := none, loops := 0
    depth := before.depth + 1, functionLine := f.line }
  finally_ (e.run f.body { isTested := m.isTested }) (modify fun sh => { sh with
    positional := before.positional, optionIndex := before.optionIndex
    optionOffset := before.optionOffset, loops := before.loops, depth := before.depth
    functionLine := before.functionLine
    skip := if sh.skip = .function then .none else sh.skip })

inductive Meaning where
  | function (f : Function)
  | builtin (work : Builtin)
  | program

/-- A command as far as its words are known. -/
structure Called where
  shown : List String := []
  words : List String := []
  rest : List Word := []
  isBare : Bool := false
  isStandard : Bool := false
  -- Is the first name that of a builtin that means more than others?
  isSpecial : Option Bool := none

def standardPath : String := "/usr/local/sbin:/usr/local/bin:/usr/sbin:/usr/bin:/sbin:/bin"

def expanded (w : Word) : Eval (List String) := do
  if (← get).isExtended then
    let fields ← (Brace.expand w).mapM (Expansion.fields e)
    return fields.flatten
  else Expansion.fields e w

def fill (c : Called) : List Word → Eval (Called × Bool)
  | [] => return ({ c with rest := [] }, false)
  | w :: rest => do
    match ← expanded e w with
    | [] => fill c rest
    | fields =>
      return ({ c with shown := c.shown ++ fields, words := c.words ++ fields, rest := rest }, true)

def second (c : Called) : Eval (Option Called) := do
  match c.words with
  | _ :: _ :: _ => return some c
  | _ => do
    let (c, found) ← fill e c c.rest
    return if found then some c else none

-- Passes over the word in front and the options behind it; `none` if something other than a command
-- is asked for.
def commandOptions : Nat → Called → Eval (Called × Bool)
  | 0, c => return (c, false)
  | room + 1, c => do
    match ← second e c with
    | none => return ({ c with rest := [] }, false)
    | some next =>
      let after := { next with words := next.words.drop 1 }
      match (after.words.headD "").toList with
      | ['-', '-'] => do
        match ← second e after with
        | some last => return ({ last with words := last.words.drop 1, isBare := true }, true)
        | none => return (next, false)
      | '-' :: letter :: letters =>
        if (letter :: letters).all (· == 'p') then do
          let (found, isCommand) ← commandOptions room { after with isStandard := true }
          return if isCommand then (found, true) else (next, false)
        else return (next, false)
      | _ => return ({ after with isBare := true }, true)

def meaning (c : Called) (m : Mode) : Eval Meaning := do
  let sh ← get
  let name := c.words.headD ""
  match if c.isBare then none else sh.functions.lookup name with
  | some f => return .function f
  | none =>
    match builtin? e sh name m with
    | some work => return .builtin work
    | none => return .program

def named (m : Mode) : Nat → Called → Eval (Called × Meaning)
  | 0, c => return (c, .program)
  | room + 1, c => do
    let sh ← get
    let name := c.words.headD ""
    let what ← meaning e c m
    match what with
    | .builtin _ => do
      let c := { c with isSpecial := c.isSpecial.orElse fun _ => some (Builtin.isSpecial sh name) }
      if name = "command" then
        let (found, isCommand) ← commandOptions e (c.rest.length + c.words.length + 1) c
        if isCommand then named m room found else return (found, what)
      else if name = "builtin" && sh.isExtended then
        match ← second e c with
        | some next => named m room { next with words := next.words.drop 1, isBare := true }
        | none => return (c, what)
      else return (c, what)
    | what => return (c, what)

def assigns (extended : Bool) (name : String) : Bool :=
  ["export", "readonly", "local", "alias"].contains name ||
    (extended && ["declare", "typeset"].contains name)

-- A word of such a builtin: its text, and the elements that an array is set to afterwards.
def assignmentWord (w : Word) : Eval (List String × List (String × Bool × List Word)) := do
  let extended := (← get).isExtended
  match Read.assignment? extended w with
  | some (name, none, appends, value) =>
    match Assigning.elementsIn? value with
    | some words => return ([name], [(name, appends, words)])
    | none => do
      let s ← Expansion.text e value { assignment := true }
      return ([name ++ (if appends then "+=" else "=") ++ s], [])
  | _ => do return (← expanded e w, [])

def remaining (isAssigning : Bool) : List Word →
    Eval (List String × List (String × Bool × List Word))
  | [] => return ([], [])
  | w :: rest => do
    let (first, firstArrays) ← if isAssigning then assignmentWord e w
      else do pure (← expanded e w, [])
    let (others, otherArrays) ← remaining isAssigning rest
    return (first ++ others, firstArrays ++ otherArrays)

def shownWord (extended : Bool) (s : String) : String :=
  if !extended then s
  else
    let isPlain (c : Char) : Bool := c.isAlphanum || "_-./:=@%+,[]\x7b\x7d!~^#".toList.contains c
    if s ≠ "" && s.toList.all isPlain then s else Builtin.quoted s

def trace (descriptor : Nat) (assigned words : List String) : Eval Unit := do
  let sh ← get
  if sh.options.contains 'x' then
    let sign := (sh.value? "PS4").getD ""
    let line (ws : List String) : Eval Unit := do
      let _ ← act (Act.say descriptor (sign ++ String.intercalate " " ws ++ "\n"))
    if sh.isExtended then
      for a in assigned do line [a]
      if !words.isEmpty then line (words.map (shownWord true))
    else line (assigned ++ words)

def assignments (isLocal exports : Bool) : List Assignment → List String → Eval (List String)
  | [], shown => return shown.reverse
  | .mk name index appends value :: rest, shown => do
    if isLocal then makeLocal name
    let s ← Assigning.perform e (.mk name index appends value)
    if isLocal || exports then
      modify fun sh => match sh.find? name with
        | some v => sh.put name { v with isExported := true }
        | none => sh
    assignments isLocal exports rest (s :: shown)

def unwind (levels : Nat) : Nat → Eval Unit
  | 0 => return ()
  | room + 1 => do
    if levels < (← get).locals.length then
      popLocals false
      unwind levels room

def messages (saved : List Redirection.Saved) : Nat :=
  match saved.lookup 2 with
  | some (some copy) => copy
  | _ => 2

def dispatch (c : Called) (what : Meaning) (m : Mode) : Eval Nat := do
  let name := c.words.headD ""
  let words := c.words.drop 1
  match what with
  | .function f => call e f words m
  | .builtin work => do
    let sh ← get
    let levels := sh.locals.length
    match ← caught (runBuiltin name work words) with
    | .ok n => return n
    | .error .exit => throw Leave.exit
    | .error .error => do
      if c.isSpecial = some true && !sh.isExtended then throw Leave.error
      let now ← get
      unwind levels now.locals.length
      return (← get).status
  | .program => do
    let path ← searchPath
    Builtin.remember name
    Child.program e name (if c.isStandard then standardPath else path) words m

def nameless (assigned : List Assignment) (redirects : List Redirect) : Eval Nat := do
  let goals ← Redirection.allGoals e redirects
  let (saved, went) ← Redirection.begin goals
  if !went then
    Redirection.restore saved
    return (← get).status
  finally_ (do
    let shown ← assignments e false false assigned []
    if !(shown.isEmpty) then trace (messages saved) shown []
    return (← get).substituted) (Redirection.restore saved)

def withName (c : Called) (what : Meaning) (assigned : List Assignment) (redirects : List Redirect)
    (m : Mode) : Eval Nat := do
  let sh ← get
  let name := c.words.headD ""
  let isSpecial := c.isSpecial = some true
  let isBuiltin := match what with
    | .builtin _ => true
    | _ => false
  let (words, arrays) ← remaining e (isBuiltin && assigns sh.isExtended name) c.rest
  let c := { c with words := c.words ++ words, shown := c.shown ++ words, rest := [] }
  let isExec := isBuiltin && name = "exec"
  let isFunction := match what with
    | .function _ => true
    | _ => false
  let isLocal := if sh.isExtended then isFunction || !assigned.isEmpty else !isSpecial
  let goals ← Redirection.allGoals e redirects
  let (saved, went) ← Redirection.begin goals
  if !went then
    Redirection.restore saved
    if isSpecial && !sh.isExtended then throw Leave.error
    return (← get).status
  if isLocal then pushLocals
  let work : Eval Nat := do
    let shown ← assignments e isLocal (isExec && 1 < c.words.length) assigned []
    trace (messages saved) shown c.shown
    let status ← dispatch e c what m
    for (name, appends, elements) in arrays do
      Assigning.array e name appends elements
    return status
  match ← caught work with
  | .ok status => do
    if isExec then Redirection.forget saved else Redirection.restore saved
    if isLocal then popLocals false
    return status
  | .error .error => do
    Redirection.restore saved
    if sh.isExtended && !assigned.isEmpty && isBuiltin then
      popLocals false
      return (← get).status
    throw Leave.error
  | .error .exit => do
    Redirection.restore saved
    throw Leave.exit

def run (line : Nat) (assigned : List Assignment) (words : List Word) (redirects : List Redirect)
    (m : Mode) : Eval Nat := do
  modify fun sh => { sh with line := line, shownLine := line, substituted := 0 }
  let (c, found) ← fill e {} words
  if !found then nameless e assigned redirects
  else
    let (c, what) ← named e m (words.length + 1) c
    withName e c what assigned redirects m

end Converge.Shell.Simple
