import Converge.Shell.Builtin.Basic
import Converge.Shell.Test

set_option autoImplicit false
set_option maxRecDepth 2000

namespace Converge.Shell.Builtin

open Eval
open Converge.Process

def echoed (hex : Bool) : List String → List Char × Bool
  | [] => ([], false)
  | w :: rest =>
    let (shown, stops) := Format.unescaped hex w
    if stops then (shown, true)
    else if rest.isEmpty then (shown, false)
    else
      let (more, stops) := echoed hex rest
      (shown ++ ' ' :: more, stops)

def echoOptions : List String → Bool → Bool → Bool × Bool × List String
  | [], noEnd, escapes => (noEnd, escapes, [])
  | w :: rest, noEnd, escapes =>
    match w.toList with
    | '-' :: c :: cs =>
      if (c :: cs).all fun d => d = 'n' || d = 'e' || d = 'E' then
        let last := (c :: cs).reverse.find? fun d => d ≠ 'n'
        echoOptions rest (noEnd || (c :: cs).contains 'n')
          (match last with
            | some d => d = 'e'
            | none => escapes)
      else (noEnd, escapes, w :: rest)
    | _ => (noEnd, escapes, w :: rest)

def echo : Builtin := fun ws => do
  if (← get).isExtended then
    let (noEnd, escapes, words) := echoOptions ws false false
    if escapes then
      let (shown, stops) := echoed true words
      put (String.ofList shown ++ if noEnd || stops then "" else "\n")
    else put (String.intercalate " " words ++ if noEnd then "" else "\n")
  else
    let noEnd := ws.head? == some "-n"
    let (shown, stops) := echoed false (if noEnd then ws.drop 1 else ws)
    put (String.ofList shown ++ if noEnd || stops then "" else "\n")

def printf : Builtin := fun ws => do
  let extended := (← get).isExtended
  let (target, ws) ← if extended then
      match ws with
      | "-v" :: name :: rest => pure (some name, rest)
      | "--" :: rest => pure (none, rest)
      | ws => pure (none, ws)
    else do
      let (_, ws) ← options "" ws
      pure (none, ws)
  match ws with
  | [] =>
    if extended then
      act (Act.complain "printf: usage: printf [-v var] format [arguments]")
      return 2
    fail "usage: printf format [arg ...]"
  | format :: args => do
    let f := Format.formatted (if extended then .extended else .plain) format args
    for note in f.notes.reverse do report note
    match target with
    | some name => do
      assign name (String.ofList f.shown.reverse)
      return f.status
    | none => do
      let written ← put (String.ofList f.shown.reverse)
      if f.status = 2 && !extended then
        modify fun sh => { sh with status := 2 }
        throw Leave.error
      return if f.status = 0 then written else f.status

def extendedTest (scene : Test.Scene) : Nat → List String → Except Test.Fault Bool
  | 0, _ => .ok false
  | room + 1, ws =>
    let one (w : String) : Except Test.Fault Bool := .ok (w ≠ "")
    let isUnary (w : String) : Bool := Test.unaryOperators.contains w || w = "-a" || w = "-v" || w = "-o"
    let two (a b : String) : Except Test.Fault Bool :=
      if a = "!" then .ok (b = "")
      else if isUnary a then .ok ((scene.unary? a b).getD false)
      else .error ⟨a, "unary operator expected"⟩
    match ws with
    | [] => .ok false
    | [w] => one w
    | [a, b] => two a b
    | [a, o, b] =>
      if Test.binaryOperators.contains o then
        match (Test.binary scene a o b).run [] with
        | .ok (answer, _) => .ok answer
        | .error _ =>
          let wrong := if (Arithmetic.integer? false a.toList).isNone then a else b
          .error ⟨wrong, "integer expression expected"⟩
      else if o = "-a" then .ok (a ≠ "" && b ≠ "")
      else if o = "-o" then .ok (a ≠ "" || b ≠ "")
      else if a = "!" then (two o b).map (!·)
      else if a = "(" && b = ")" then one o
      else .error ⟨o, "binary operator expected"⟩
    | ws =>
      if ws.head? == some "!" && ws.length = 4 then (extendedTest scene room (ws.drop 1)).map (!·)
      else if ws.length = 4 && ws.head? == some "(" && ws.getLast? == some ")" then
        extendedTest scene room ((ws.drop 1).dropLast)
      else
        match Test.holds scene ws with
        | .ok answer => .ok answer
        | .error _ => .error ⟨"", "too many arguments"⟩

def test (isBracket : Bool) : Builtin := fun ws => do
  let sh ← get
  if isBracket && ws.getLast? ≠ some "]" then
    if sh.isExtended then
      report ("missing " ++ String.singleton Read.backquote ++ "]'")
      return 2
    fail "missing ]"
  let words := if isBracket then ws.dropLast else ws
  let state ← act Act.get
  let scene : Test.Scene := ⟨state.settle, sh.self⟩
  match if sh.isExtended then extendedTest scene 10 words else Test.holds scene words with
  | .ok answer => return if answer then 0 else 1
  | .error fault =>
    let message := if fault.word = "" then fault.message else fault.word ++ ": " ++ fault.message
    if sh.isExtended then
      report message
      return 2
    fail message

-- The parts of a path without those that add nothing, and with those undone that lead back.
def straightened (parts : List String) : List String :=
  (parts.foldl (fun (done : List String) part =>
    if part = "" || part = "." then done
    else if part = ".." then done.drop 1
    else part :: done) []).reverse

def straightPath (directory path : String) : String :=
  let whole := if Path.isAbsolute path then path else directory ++ "/" ++ path
  "/" ++ String.intercalate "/" (straightened (whole.splitOn "/"))

def physicalDirectory : Eval String := do
  let entry ← act Act.entry
  return pathOf ((entry.map (·.directory)).getD [])

def enter (path : String) : Eval (Except OsError Unit) :=
  act (Act.change fun self s =>
    match s.lookUp self true path with
    | .ok (place, .directory _) => .ok (s.changeEntry self fun e => { e with directory := place })
    | .ok _ => .error .notDirectory
    | .error e => .error e)

def setExported (name value : String) : Eval Unit := do
  assign name value
  modify fun sh => sh.put name { (sh.find? name).getD {} with isExported := true }

def moveTo (path : String) (isPhysical : Bool) : Eval (Except OsError Unit) := do
  let sh ← get
  let straight := straightPath sh.directory path
  match ← enter (if isPhysical then path else straight) with
  | .error e => return .error e
  | .ok () => do
    let goal ← if isPhysical then physicalDirectory else pure straight
    setExported "OLDPWD" sh.directory
    modify fun sh => { sh with directory := goal }
    setExported "PWD" goal
    return .ok ()

def cdCandidates (searchPath goal : String) : List (String × Bool) :=
  if searchPath = "" then []
  else (searchPath.splitOn ":").map fun entry =>
    if entry = "" then (goal, false) else (joined entry goal, true)

def moveFirst (isPhysical : Bool) : List (String × Bool) → Eval (Option Bool)
  | [] => return none
  | (path, shows) :: rest => do
    let state ← act Act.get
    let sh ← get
    if (state.status? sh.self true path).any (·.kind = .directory) then
      match ← moveTo path isPhysical with
      | .ok () => return some shows
      | .error _ => moveFirst isPhysical rest
    else moveFirst isPhysical rest

def cd : Builtin := fun ws => do
  let sh ← get
  let (taken, ws) ← options (if sh.isExtended then "LPe@" else "LP") ws
  let isPhysical := (taken.filter fun t => t.1 = 'L' || t.1 = 'P').getLast?.any (·.1 == 'P')
  if sh.isExtended && 1 < ws.length then
    report "too many arguments"
    return 1
  let asked := ws.head?
  if sh.isExtended && asked.isNone && (sh.value? "HOME").isNone then
    report "HOME not set"
    return 1
  if sh.isExtended && asked = some "-" && (sh.value? "OLDPWD").isNone then
    report "OLDPWD not set"
    return 1
  let (goal, shows) := match asked with
    | none => ((sh.value? "HOME").getD "", false)
    | some "-" => ((sh.value? "OLDPWD").getD "", true)
    | some goal => (goal, false)
  let isRelative := !Path.isAbsolute goal &&
    !(["", ".", ".."].contains goal) && !goal.startsWith "./" && !goal.startsWith "../"
  let goal := if goal = "" then "." else goal
  let searched ← if isRelative then
      moveFirst isPhysical (cdCandidates ((sh.value? "CDPATH").getD "") goal)
    else pure none
  match searched with
  | some found =>
    if found || shows then putLine (← get).directory else return 0
  | none =>
    match ← moveTo goal isPhysical with
    | .ok () => if shows then putLine (← get).directory else return 0
    | .error e =>
      if sh.isExtended then
        report (goal ++ ": " ++ e.reason)
        return 1
      fail ("can't cd to " ++ goal)

def pwd : Builtin := fun ws => do
  let sh ← get
  let (taken, _) ← options "LP" ws
  if taken.getLast?.any (·.1 == 'P') then putLine (← physicalDirectory)
  else putLine sh.directory

def alias_ : Builtin := fun ws => do
  let sh ← get
  let shown (name value : String) : String :=
    (if sh.isExtended then "alias " else "") ++ name ++ "=" ++ quoted value
  if ws.isEmpty then
    let sorted := sh.aliases.mergeSort fun a b => !(b.1 < a.1)
    putLines (sorted.map fun (name, value) => shown name value)
  else
    let statuses ← ws.mapM fun w => do
      let (name, value) := parted w
      match if name = "" then none else value with
      | some s => do
        modify fun sh => { sh with
          aliases := (name, s) :: sh.aliases.filter (·.1 ≠ name) }
        return 0
      | none =>
        match (← get).aliases.lookup w with
        | some value => putLine (shown w value)
        | none => do
          if sh.isExtended then report (w ++ ": not found")
          else act (Act.complain ("alias: " ++ w ++ " not found"))
          return 1
    return statuses.foldl max 0

def unalias : Builtin := fun ws => do
  let (taken, names) ← options "a" ws
  if taken.any (·.1 == 'a') then
    modify fun sh => { sh with aliases := [] }
    return 0
  let statuses ← names.mapM fun name => do
    let sh ← get
    if (sh.aliases.lookup name).isSome then
      set { sh with aliases := sh.aliases.filter (·.1 ≠ name) }
      return 0
    else
      if sh.isExtended then report (name ++ ": not found")
      else act (Act.complain ("unalias: " ++ name ++ " not found"))
      return 1
  return statuses.foldl max 0

def plainNames : List String :=
  Read.specialNames ++ ["local", "[", "alias", "bg", "cd", "chdir", "command", "echo", "false", "fg",
    "getopts", "hash", "jobs", "kill", "printf", "pwd", "read", "test", "true", "type", "ulimit",
    "umask", "unalias", "wait"]

def extendedNames : List String :=
  plainNames ++ ["source", "declare", "typeset", "let", "builtin", "shopt", "mapfile", "readarray",
    "disown", "enable", "caller", "help", "pushd", "popd", "dirs"]

def isBuiltin (sh : Interpreter) (name : String) : Bool :=
  (if sh.isExtended then extendedNames else plainNames).contains name

def isSpecial (sh : Interpreter) (name : String) : Bool :=
  Read.specialNames.contains name || (name = "local" && !sh.isExtended)

def locate (name : String) : Eval (Option String) := do
  let sh ← get
  let state ← act Act.get
  let directory := ((state.entry? sh.self).map (·.directory)).getD []
  return Image.locate state.files directory ((sh.value? "PATH").getD "") name

def remember (name : String) : Eval Unit :=
  modify fun sh =>
    if sh.remembered.contains name || name.toList.contains '/' then sh
    else { sh with remembered := sh.remembered ++ [name] }

def described (name : String) : Eval (Option String) := do
  let sh ← get
  let keywords := if sh.isExtended then Read.extendedKeywords else Read.plainKeywords
  if keywords.contains name then return some (name ++ " is a shell keyword")
  match sh.aliases.lookup name with
  | some value =>
    return some (name ++ if sh.isExtended then " is aliased to " ++ String.singleton Read.backquote ++
      value ++ "'" else " is an alias for " ++ value)
  | none => pure ()
  if (sh.functions.lookup name).isSome then
    return some (name ++ if sh.isExtended then " is a function" else " is a shell function")
  if isBuiltin sh name then
    return some (name ++
      if Read.specialNames.contains name && !sh.isExtended then " is a special shell builtin"
      else " is a shell builtin")
  match ← locate name with
  | some path =>
    if sh.remembered.contains name then
      return some (name ++ if sh.isExtended then " is hashed (" ++ path ++ ")"
        else " is a tracked alias for " ++ path)
    if !sh.isExtended then remember name
    return some (name ++ " is " ++ path)
  | none => return none

def type_ : Builtin := fun ws => do
  let sh ← get
  let (taken, names) ← if sh.isExtended then options "tpPaf" ws else pure ([], ws)
  let statuses ← names.mapM fun name => do
    if taken.any (·.1 == 't') then
      if Read.extendedKeywords.contains name then putLine "keyword"
      else if (sh.functions.lookup name).isSome then putLine "function"
      else if isBuiltin sh name then putLine "builtin"
      else if (← locate name).isSome then putLine "file"
      else return 1
    else if taken.any fun t => t.1 = 'p' || t.1 = 'P' then
      match ← locate name with
      | some path => putLine path
      | none => return 1
    else
      match ← described name with
      | some text => putLine text
      | none => do
        if sh.isExtended then
          report (name ++ ": not found")
          return 1
        let _ ← putLine (name ++ ": not found")
        return 127
  return statuses.foldl max 0

def shortForm (name : String) : Eval (Option String) := do
  let sh ← get
  match sh.aliases.lookup name with
  | some value => return some ("alias " ++ name ++ "=" ++ quoted value)
  | none =>
    let keywords := if sh.isExtended then Read.extendedKeywords else Read.plainKeywords
    if keywords.contains name || (sh.functions.lookup name).isSome || isBuiltin sh name then
      return some name
    else do
      let path ← locate name
      if path.isSome && !sh.isExtended then remember name
      return path

def inquire (inWords : Bool) (names : List String) : Eval Nat := do
  let sh ← get
  let asked := if sh.isExtended then names else names.take 1
  let statuses ← asked.mapM fun name => do
    match ← if inWords then described name else shortForm name with
    | some text => putLine text
    | none => do
      if inWords then
        if sh.isExtended then report (name ++ ": not found")
        else
          let _ ← putLine (name ++ ": not found")
      return if sh.isExtended then 1 else 127
  return statuses.foldl max 0

def hash : Builtin := fun ws => do
  let sh ← get
  let (taken, names) ← options (if sh.isExtended then "rdtl" else "r") ws
  if taken.any (·.1 == 'r') then
    modify fun sh => { sh with remembered := [] }
    return 0
  if names.isEmpty then
    let paths ← sh.remembered.mapM locate
    if sh.isExtended then
      if paths.isEmpty then put "hash: hash table empty\n"
      else putLines ("hits\tcommand" :: (paths.filterMap id).map ("   1\t" ++ ·))
    else putLines (paths.filterMap id)
  else
    let statuses ← names.mapM fun name => do
      if isBuiltin sh name || (sh.functions.lookup name).isSome then return 0
      match ← locate name with
      | some _ => do
        remember name
        return 0
      | none => do
        report (name ++ ": not found")
        return 1
    return statuses.foldl max 0

end Converge.Shell.Builtin
