import Converge.Shell.Builtin.Basic

set_option autoImplicit false
set_option maxRecDepth 2000

namespace Converge.Shell.Builtin

open Eval
open Converge.Process

def optionNames : List (String × Char) := [
  ("errexit", 'e'), ("noglob", 'f'), ("ignoreeof", 'I'), ("interactive", 'i'), ("monitor", 'm'),
  ("noexec", 'n'), ("stdin", 's'), ("xtrace", 'x'), ("verbose", 'v'), ("vi", 'V'), ("emacs", 'E'),
  ("noclobber", 'C'), ("allexport", 'a'), ("notify", 'b'), ("nounset", 'u'), ("privileged", 'p'),
  ("nolog", 'L'), ("debug", 'D')]

def optionLetters : List Char := "efIimnsxvVECabup".toList

def extraNames : List String := ["pipefail", "posix", "physical", "braceexpand", "hashall", "histexpand",
  "history", "keyword", "onecmd", "errtrace", "functrace", "interactive-comments"]

def setOption (letter : Char) (on : Bool) : Eval Unit :=
  modify fun sh =>
    let others := sh.options.filter (· ≠ letter)
    { sh with options := if on then letter :: others else others }

def setNamed (name : String) (on : Bool) : Eval Unit := do
  let sh ← get
  match optionNames.lookup name with
  | some letter => setOption letter on
  | none =>
    if sh.isExtended && extraNames.contains name then
      let others := sh.extras.filter (· ≠ name)
      set { sh with extras := if on then name :: others else others }
    else if sh.isExtended then
      report (name ++ ": invalid option name")
      setStatus 2
      throw Leave.error
    else fail ("Illegal option " ++ (if on then "-o " else "+o ") ++ name)

def isOn (sh : Interpreter) (letter : Char) : Bool := sh.options.contains letter

def padded (width : Nat) (s : String) : String :=
  s ++ String.ofList (List.replicate (width - s.length) ' ')

def optionListing (asCommands : Bool) : Eval Nat := do
  let sh ← get
  if asCommands then
    putLines (optionNames.map fun (name, letter) =>
      "set " ++ (if isOn sh letter then "-" else "+") ++ "o " ++ name)
  else
    putLines ("Current option settings" :: optionNames.map fun (name, letter) =>
      padded 16 name ++ if isOn sh letter then "on" else "off")

def optionWord (on : Bool) : List Char → List String → Eval (List String)
  | [], rest => return rest
  | 'o' :: more, rest => do
    match rest with
    | [] => do
      let _ ← optionListing (!on)
      optionWord on more []
    | name :: rest => do
      setNamed name on
      optionWord on more rest
  | c :: more, rest => do
    let sh ← get
    if optionLetters.contains c || (sh.isExtended && ['h', 'B', 'H', 'k', 't', 'T', 'P'].contains c) then
      setOption c on
      optionWord on more rest
    else if sh.isExtended then
      report ((if on then "-" else "+") ++ String.singleton c ++ ": invalid option")
      act (Act.complain "set: usage: set [-abefhkmnptuvxBCEHPT] [-o option-name] [--] [-] [arg ...]")
      setStatus 2
      throw Leave.error
    else fail ("Illegal option " ++ (if on then "-" else "+") ++ String.singleton c)

-- Options in front of positional parameters; the words that are left, if there are any to set.
def setOptions : Nat → List String → Eval (Option (List String))
  | 0, _ => return none
  | room + 1, ws => do
    match ws with
    | [] => return none
    | w :: rest =>
      match w.toList with
      | ['-'] => do
        setOption 'x' false
        setOption 'v' false
        return if rest.isEmpty then none else some rest
      | ['-', '-'] => return some rest
      | '-' :: letters => do setOptions room (← optionWord true letters rest)
      | '+' :: letters => do setOptions room (← optionWord false letters rest)
      | _ => return some ws

def set_ : Builtin := fun ws => do
  if ws.isEmpty then
    putLines (← listing "" fun v => v.first.isSome)
  else
    match ← setOptions (ws.length + 1) ws with
    | some words => modify fun sh => { sh with
        positional := words, optionIndex := 1, optionOffset := none }
    | none => pure ()
    return 0

def shift : Builtin := fun ws => do
  let n ← match ws with
    | w :: _ => number w
    | [] => pure 1
  let sh ← get
  if sh.positional.length < n then
    if sh.isExtended then return 1
    fail "can't shift that many"
  set { sh with positional := sh.positional.drop n, optionIndex := 1, optionOffset := none }
  return 0

def mark (command : String) (change : Bool → Variable → Variable) (keep : Variable → Bool) :
    Builtin := fun ws => do
  let extended := (← get).isExtended
  let (taken, names) ← options (if extended then "pnfaA" else "p") ws
  let isUndone := taken.any (·.1 == 'n')
  if names.isEmpty || taken.any (·.1 == 'p') then
    let front := if !extended then command ++ " "
      else if command = "export" then "declare -x " else "declare -r "
    putLines (← listing front keep)
  else
    for w in names do
      let (name, value) := parted w
      checkName name
      match value with
      | some s => assign name s
      | none => pure ()
      modify fun sh => sh.put name (change isUndone ((sh.find? name).getD {}))
    return 0

def export_ : Builtin :=
  mark "export" (fun isUndone v => { v with isExported := !isUndone }) (·.isExported)

def readonly : Builtin := mark "readonly" (fun _ v => { v with isReadonly := true }) (·.isReadonly)

def unset : Builtin := fun ws => do
  let (taken, names) ← options "vf" ws
  let sh ← get
  let isFunction := taken.getLast?.any (·.1 == 'f')
  for name in names do
    let sh' ← get
    let base := String.ofList (name.toList.takeWhile (· ≠ '['))
    if isFunction then
      set { sh' with functions := sh'.functions.filter (·.1 ≠ name) }
    else if !Read.isName name.toList && !sh.isExtended then fail (name ++ ": bad variable name")
    else if base.length < name.length && sh.isExtended then
      let index := String.ofList ((name.toList.drop (base.length + 1)).takeWhile (· ≠ ']'))
      match sh'.find? base with
      | some v =>
        set (sh'.put base { v with elements := v.elements.map fun es => es.filter (·.1 ≠ index) })
      | none => pure ()
    else
      match sh'.find? name with
      | some v =>
        if v.isReadonly then
          if sh.isExtended then
            report (name ++ ": cannot unset: readonly variable")
            setStatus 1
          else fail (name ++ ": is read only")
        else
          -- A local variable stays local without a value.
          set (sh'.remove name)
      | none =>
        if sh.isExtended && !taken.any (·.1 == 'v') then
          set { sh' with functions := sh'.functions.filter (·.1 ≠ name) }
  return 0

def keepOptions : Eval Unit := modify fun sh =>
  match sh.locals with
  | frame :: rest =>
    { sh with locals := (("-", some { value := some (String.ofList sh.options) }) :: frame) :: rest }
  | [] => sh

def local_ : Builtin := fun ws => do
  let sh ← get
  if sh.depth = 0 then
    if sh.isExtended then
      report "can only be used in a function"
      return 1
    fail "not in a function"
  let names := if sh.isExtended then ws.filter (!·.startsWith "-") else ws
  for w in names do
    let (name, value) := parted w
    if name = "-" && !sh.isExtended then keepOptions
    else
      checkName name
      makeLocal name
      match value with
      | some s => assign name s
      | none => do
        if sh.isExtended then modify fun sh => sh.put name { value := none }
        else
          let sh' ← get
          if (sh'.find? name).isNone then set (sh'.put name {})
  return 0

def setOrUnset (name : String) (value : Option String) : Eval Unit := do
  match value with
  | some s => assign name s
  | none => modify fun sh => sh.remove name

/-- What one look at a row of options finds. -/
structure Option_ where
  -- The option, or a sign for what is wrong.
  letter : Char
  argument : Option String
  -- The index of the next word, and how far into the one before it the next option is.
  index : Nat
  offset : Option Nat
  isDone : Bool := false
  complaint : Option String := none

def nextOption (allowed : List Char) (ws : List String) (index : Nat) (offset : Option Nat) :
    Option_ :=
  let isSilent := allowed.head? == some ':'
  let previous := if index < 2 then none else ws[index - 2]?
  let inside : List Char := match offset, previous with
    | some n, some w => w.toList.drop n
    | _, _ => []
  -- The word with the option, from the option on, and the index of the word after it.
  let found : Option (List Char × Nat × Nat) :=
    if !inside.isEmpty then some (inside, index, (offset.getD 0))
    else
      match ws[index - 1]? with
      | some w =>
        match w.toList with
        | '-' :: c :: rest => some (c :: rest, index + 1, 1)
        | _ => none
      | none => none
  match found with
  | none => { letter := '?', argument := none, index := index, offset := none, isDone := true }
  | some ([], index, _) =>
    { letter := '?', argument := none, index := index, offset := none, isDone := true }
  | some (c :: rest, index, start) =>
    if inside.isEmpty && c = '-' && rest.isEmpty then
      { letter := '?', argument := none, index := index, offset := none, isDone := true }
    else
      let after := if rest.isEmpty then none else some (start + 1)
      if c = ':' || !allowed.contains c then
        if isSilent then
          { letter := '?', argument := some (String.singleton c), index := index, offset := after }
        else {
          letter := '?', argument := none, index := index, offset := after
          complaint := some ("Illegal option -" ++ String.singleton c) }
      else if ((allowed.dropWhile (· ≠ c)).drop 1).head? == some ':' then
        if !rest.isEmpty then
          { letter := c, argument := some (String.ofList rest), index := index, offset := none }
        else
          match ws[index - 1]? with
          | some w => { letter := c, argument := some w, index := index + 1, offset := none }
          | none =>
            if isSilent then
              { letter := ':', argument := some (String.singleton c), index := index, offset := none }
            else {
              letter := '?', argument := none, index := index, offset := none
              complaint := some ("No arg for -" ++ String.singleton c ++ " option") }
      else { letter := c, argument := some "", index := index, offset := after }

def getopts : Builtin := fun ws => do
  match ws with
  | allowed :: name :: rest =>
    let sh ← get
    let words := if rest.isEmpty then sh.positional else rest
    let (index, offset) :=
      if words.length + 1 < sh.optionIndex then (1, none) else (sh.optionIndex, sh.optionOffset)
    let o := nextOption allowed.toList words index offset
    match o.complaint with
    | some message =>
      if sh.isExtended then
        let letter := String.ofList (message.toList.filter fun c => c ≠ ' ')
        let c := if message.startsWith "Illegal" then (letter.toList.getLast?.getD '?')
          else ((letter.toList.dropWhile (· ≠ '-')).drop 1).head?.getD '?'
        act (Act.complain (sh.name ++ (if message.startsWith "Illegal" then ": illegal option -- "
          else ": option requires an argument -- ") ++ String.singleton c))
      else act (Act.complain message)
    | none => pure ()
    if !o.isDone then
      setOrUnset "OPTARG"
        (if sh.isExtended && o.argument = some "" then none else o.argument)
    assign "OPTIND" (toString o.index)
    modify fun sh => { sh with optionIndex := o.index, optionOffset := o.offset }
    assign name (String.singleton o.letter)
    return if o.isDone then 1 else 0
  | _ =>
    if (← get).isExtended then
      act do
        Act.complain "getopts: usage: getopts optstring name [arg ...]"
      return 2
    fail "Usage: getopts optstring var [arg...]"

/-- One line, character by character. Escaped characters stand in segments of their own, the latest
first; the truth value tells whether the line had an end. -/
def readLine (descriptor : Nat) (isRaw : Bool) (ending : Char) (limit : Option Nat) :
    Nat → List Segment → List Atom → Bool → Eval (List Segment × Bool)
  | 0, done, run, _ => return ((⟨run.reverse, .split⟩ :: done).reverse, false)
  | room + 1, done, run, isEscaped => do
    if limit = some 0 then return ((⟨run.reverse, .split⟩ :: done).reverse, true)
    let limit := limit.map (· - 1)
    match ← act (Act.read descriptor 1) with
    | .ok [o] =>
      let c := Char.ofNat o.toNat
      if o = 0 && ending ≠ Field.nul then readLine descriptor isRaw ending limit room done run isEscaped
      else if isEscaped then
        if c = '\n' then readLine descriptor isRaw ending limit room done run false
        else
          readLine descriptor isRaw ending limit room
            (⟨[.char c true], .none⟩ :: ⟨run.reverse, .split⟩ :: done) [] false
      else if !isRaw && c = '\\' then readLine descriptor isRaw ending limit room done run true
      else if c = ending then return ((⟨run.reverse, .split⟩ :: done).reverse, true)
      else readLine descriptor isRaw ending limit room done (.char c false :: run) false
    | _ => return ((⟨run.reverse, .split⟩ :: done).reverse, false)

def distribute : List String → List String → Eval Unit
  | [], _ => return ()
  | name :: names, fields => do
    checkName name
    assign name (fields.headD "")
    distribute names (fields.drop 1)

def read : Builtin := fun ws => do
  let extended := (← get).isExtended
  let (taken, names) ← options (if extended then "p:rsa:d:n:N:t:u:ei:" else "p:r") ws
  let isRaw := taken.any (·.1 == 'r')
  let names := if names.isEmpty && extended && (taken.lookup 'a').isNone then ["REPLY"] else names
  if names.isEmpty && (taken.lookup 'a').isNone then fail "arg count"
  let descriptor := ((taken.lookup 'u').bind fun s => Arithmetic.count? s.toList).getD 0
  let ending := match taken.lookup 'd' with
    | some s => s.toList.headD Field.nul
    | none => '\n'
  let count := ((taken.lookup 'n').orElse fun _ => taken.lookup 'N').bind fun s => Arithmetic.count? s.toList
  let (segments, isEnded) ← readLine descriptor isRaw ending count 10000000 [] [] false
  let sh ← get
  let separators := if (taken.lookup 'N').isSome then [] else sh.separators.toList
  let asText (atoms : List Atom) : String := markText (Atom.marks atoms)
  match taken.lookup 'a' with
  | some name =>
    let fields := (Field.split separators none segments).map asText
    let es := (List.range fields.length).zip fields |>.map fun (i, s) => (toString i, s)
    modify fun sh => sh.put name { (sh.find? name).getD {} with elements := some es }
  | none =>
    if names = ["REPLY"] && ws.all (·.startsWith "-") then
      assign "REPLY" (asText (Expansion.atoms segments))
    else distribute names ((Field.split separators (some names.length) segments).map asText)
  return if isEnded then 0 else 1

end Converge.Shell.Builtin
