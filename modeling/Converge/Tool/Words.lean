import Converge.Shell.Builtin.Words
import Converge.Tool.Lines

set_option autoImplicit false

namespace Converge.Tool

open Converge.Process

def succeed : Program := fun _ => return 0

def failing : Program := fun _ => return 1

def echo : Program := fun l => do
  let (noEnd, escapes, words) := Shell.Builtin.echoOptions l.words false false
  if escapes then
    let (shown, stops) := Shell.Builtin.echoed true words
    put l (String.ofList shown ++ if noEnd || stops then "" else "\n")
  else put l (String.intercalate " " words ++ if noEnd then "" else "\n")

def printf : Program := fun l => do
  let words := if l.words.head? == some "--" then l.words.drop 1 else l.words
  match words with
  | [] => misused l "missing operand" 1
  | format :: args => do
    let f := Shell.Format.formatted .apart format args
    let status ← put l (String.ofList f.shown.reverse)
    for note in f.notes.reverse do complain l note
    return max status f.status

def condition (isBracket : Bool) : Program := fun l => do
  if isBracket && l.words.getLast? ≠ some "]" then
    complain l "missing ']'"
    return 2
  let words := if isBracket then l.words.dropLast else l.words
  let self ← Act.self
  let state ← Act.get
  match Shell.Builtin.extendedTest ⟨state.settle, self⟩ 10 words with
  | .ok answer => return if answer then 0 else 1
  | .error fault => do
    let message := if fault.word = "" then fault.message
      else if fault.message = "integer expression expected" then "invalid integer " ++ quoted fault.word
      else quoted fault.word ++ ": " ++ fault.message
    complain l message
    return 2

def plainWords (l : Launch) (work : List String → Act Nat) : Act Nat :=
  withOptions { letters := "" } 1 l fun p => work p.words

def pwd : Program := fun l =>
  withOptions { letters := "LP", long := [("logical", 'L'), ("physical", 'P')] } 1 l fun p => do
    let entry ← Act.entry
    let self ← Act.self
    let here := (entry.map (·.directory)).getD []
    let state ← Act.get
    let asked := (l.environment.lookup "PWD").getD ""
    let isRight := Path.isAbsolute asked && match state.lookUp self true asked with
      | .ok (place, .directory _) => place = here
      | _ => false
    let path := if p.last? ['L', 'P'] = some 'L' && isRight then asked
      else pathOf here
    put l (path ++ "\n")

def basename : Program := fun l =>
  withOptions { letters := "as:z", long := [("multiple", 'a'), ("suffix", 's'), ("zero", 'z')]
                stopsEarly := true } 1 l fun p => do
    let stripped (ending path : String) : String :=
      let name := baseName path
      if ending ≠ "" && name.endsWith ending && name ≠ ending then
        String.ofList (name.toList.take (name.length - ending.length))
      else name
    let ends := if p.has 'z' then "\x00" else "\n"
    match p.words, p.has 'a' || p.has 's' with
    | [], _ => misused l "missing operand" 1
    | words, true =>
      put l (String.join (words.map fun w => stripped ((p.value? 's').getD "") w ++ ends))
    | [path], false => put l (stripped "" path ++ ends)
    | [path, ending], false => put l (stripped ending path ++ ends)
    | _ :: _ :: extra :: _, false => misused l ("extra operand " ++ quoted extra) 1

def dirname : Program := fun l =>
  withOptions { letters := "z", long := [("zero", 'z')] } 1 l fun p => do
    if p.words.isEmpty then return ← misused l "missing operand" 1
    put l (String.join (p.words.map fun w => directoryName w ++ if p.has 'z' then "\x00" else "\n"))

/-- A decimal number: a whole number and how many of its digits stand behind the point. -/
structure Fraction where
  digits : Int
  places : Nat

def fraction? (s : String) : Option Fraction :=
  let cs := s.toList
  let isNegative := cs.head? == some '-'
  let body := match cs with
    | '-' :: rest | '+' :: rest => rest
    | rest => rest
  let whole := body.takeWhile Text.Decimal.isDigit
  let rest := body.drop whole.length
  let (part, rest) := match rest with
    | '.' :: more =>
      let digits := more.takeWhile Text.Decimal.isDigit
      (digits, more.drop digits.length)
    | rest => ([], rest)
  let exponent : Option Int := match rest with
    | [] => some 0
    | 'e' :: more | 'E' :: more => Shell.Arithmetic.integer? false more
    | _ => none
  match exponent with
  | none => none
  | some e =>
    if whole.isEmpty && part.isEmpty then none
    else
      let n := Int.ofNat (Text.Decimal.value (whole ++ part))
      let n := if isNegative then -n else n
      let e := max (-400) (min e 400)
      if e < 0 then some ⟨n, part.length + (-e).toNat⟩
      else
        let shift := e.toNat - min part.length e.toNat
        some ⟨n * Int.ofNat (Nat.pow 10 shift), part.length - e.toNat⟩

def Fraction.scaled (f : Fraction) (places : Nat) : Int :=
  f.digits * Int.ofNat (Nat.pow 10 (places - f.places))

def Fraction.text (n : Int) (places : Nat) : String :=
  let digits := (toString n.natAbs).toList
  let digits := List.replicate (places + 1 - digits.length) '0' ++ digits
  let whole := digits.take (digits.length - places)
  let part := digits.drop (digits.length - places)
  (if n < 0 then "-" else "") ++ String.ofList whole ++
    if places = 0 then "" else "." ++ String.ofList part

def directives : Nat → List Char → List (List Char)
  | 0, _ => []
  | _, [] => []
  | room + 1, '%' :: '%' :: rest => directives room rest
  | room + 1, '%' :: rest =>
    let flags := rest.takeWhile fun c => "-+ #0'123456789.L".toList.contains c
    rest.drop flags.length |>.take 1 |> fun letter =>
      letter :: directives room (rest.drop (flags.length + 1))
  | room + 1, _ :: rest => directives room rest

def formatFault? (format : String) : Option String :=
  match directives (format.length + 1) format.toList with
  | [] => some ("format " ++ quoted format ++ " has no % directive")
  | [letter] =>
    match letter with
    | [c] =>
      if "aefgAEFG".toList.contains c then none
      else some ("format " ++ quoted format ++ " has unknown %" ++ String.singleton c ++ " directive")
    | _ => some ("format " ++ quoted format ++ " ends in %")
  | _ => some ("format " ++ quoted format ++ " has too many % directives")

def longestRow : Nat := 400000

-- Words with their options set apart, where a dash in front of a digit is a sign.
def withSigns : List String → List String
  | [] => []
  | "-s" :: s :: rest => "-s" :: s :: withSigns rest
  | "-f" :: s :: rest => "-f" :: s :: withSigns rest
  | w :: rest =>
    match w.toList with
    | '-' :: c :: _ =>
      if Text.Decimal.isDigit c || c = '.' then "--" :: w :: rest
      else if w = "--" then w :: rest
      else w :: withSigns rest
    | _ => w :: rest

def seq : Program := fun l =>
  withOptions { letters := "f:s:w", long := [("format", 'f'), ("separator", 's'), ("equal-width", 'w')]
                stopsEarly := true } 1 { l with words := withSigns l.words } fun p => do
    let sign := (p.value? 's').getD "\n"
    match p.words with
    | [] => misused l "missing operand" 1
    | _ :: _ :: _ :: extra :: _ => misused l ("extra operand " ++ quoted extra) 1
    | words =>
      match words.find? fun w => (fraction? w).isNone with
      | some bad =>
        if ["inf", "infinity", "nan"].contains bad.toLower then return 0
        else misused l ("invalid floating point argument: " ++ quoted bad) 1
      | none =>
        let one : Fraction := ⟨1, 0⟩
        let numbers := words.filterMap fraction?
        let (first, step, last) : Fraction × Fraction × Fraction := match numbers with
          | [a, b, c] => (a, b, c)
          | [a, b] => (a, one, b)
          | [a] => (one, one, a)
          | _ => (one, one, one)
        if step.digits = 0 then
          misused l ("invalid Zero increment value: " ++ quoted ((words.drop 1).headD "")) 1
        else
          match (p.value? 'f').bind formatFault? with
          | some m => do
            complain l m
            return 1
          | none =>
            let places := max first.places step.places
            let scale := max places last.places
            let start := first.scaled scale
            let stride := step.scaled scale
            let finish := last.scaled scale
            let count := if (0 < stride && finish < start) || (stride < 0 && start < finish) then 0
              else min ((finish - start).natAbs / stride.natAbs + 1) longestRow
            let drop := Int.ofNat (Nat.pow 10 (scale - places))
            let text (n : Int) : String := Fraction.text (n.tdiv drop) places
            let width := max (text start).length (text finish).length
            let padded (s : String) : String :=
              let zeros := String.ofList (List.replicate (width - s.length) '0')
              if s.startsWith "-" then "-" ++ zeros ++ String.ofList (s.toList.drop 1) else zeros ++ s
            let shown (n : Int) : String := match p.value? 'f' with
              | some format =>
                let f := Shell.Format.formatted .apart format [Fraction.text n scale]
                String.ofList f.shown.reverse
              | none => if p.has 'w' then padded (text n) else text n
            if count = 0 then return 0
            else
              let all := (List.range count).map fun k => shown (start + stride * Int.ofNat k)
              put l (String.intercalate sign all ++ "\n")

def yesLoop (l : Launch) (text : String) : Nat → Act Nat
  | 0 => return 0
  | room + 1 => do
    match ← Act.say 1 text with
    | .ok () => yesLoop l text room
    | .error e => do
      complain l ("standard output: " ++ e.reason)
      return 1

def yes : Program := fun l =>
  withOptions { letters := "" } 1 l fun p => do
    let line := (if p.words.isEmpty then "y" else String.intercalate " " p.words) ++ "\n"
    let many := String.join (List.replicate (max 1 (8192 / line.length)) line)
    yesLoop l many manyTimes

def duration? (s : String) : Option Nat :=
  let cs := s.toList
  let (number, factor) : List Char × Nat := match cs.getLast? with
    | some 's' => (cs.dropLast, 1)
    | some 'm' => (cs.dropLast, 60)
    | some 'h' => (cs.dropLast, 3600)
    | some 'd' => (cs.dropLast, 86400)
    | _ => (cs, 1)
  if ["inf", "infinity"].contains (String.ofList number).toLower then some (Nat.pow 10 27)
  else
    match fraction? (String.ofList number) with
    | some f =>
      if f.digits < 0 then none
      else some (f.digits.toNat * factor * 1000000000 / Nat.pow 10 f.places)
    | none => none

def sleep : Program := fun l =>
  withOptions { letters := "" } 1 l fun p => do
    if p.words.isEmpty then return ← misused l "missing operand" 1
    let bad := p.words.filter fun w => (duration? w).isNone
    if !bad.isEmpty then
      for w in bad do
        complain l ("invalid time interval " ++ quoted w)
      Act.complain ("Try '" ++ l.name ++ " --help' for more information.")
      return 1
    let now ← Act.clock
    Act.sleepUntil (now + (p.words.filterMap duration?).foldl (· + ·) 0)
    return 0

def printenv : Program := fun l =>
  withOptions { letters := "0", long := [("null", '0')], stopsEarly := true } 2 l fun p => do
    let ends := if p.has '0' then "\x00" else "\n"
    match p.words with
    | [] => put l (String.join (l.environment.map fun v => v.1 ++ "=" ++ v.2 ++ ends))
    | names => do
      let found := names.filterMap fun n => l.environment.lookup n
      let written ← put l (String.join (found.map (· ++ ends)))
      return if found.length < names.length then 1 else written

/-- An account: its name, its number and that of its group. -/
structure Account where
  name : String
  user : Nat
  group : Nat

def accounts : Act (List Account) := do
  let state ← Act.get
  let text := (state.settle.files.readText "/etc/passwd").toOption.getD ""
  return (text.splitOn "\n").filterMap fun line =>
    match line.splitOn ":" with
    | name :: _ :: user :: group :: _ =>
      match number? user, number? group with
      | some u, some g => some ⟨name, u, g⟩
      | _, _ => none
    | _ => none

def groupName (all : List Account) (n : Nat) : String :=
  if n = 65534 then "nogroup"
  else match all.find? fun a => a.group = n && a.user = n with
    | some a => a.name
    | none => toString n

def id : Program := fun l =>
  withOptions { letters := "ugGnrzaZ", long := [("user", 'u'), ("group", 'g'), ("groups", 'G'),
    ("name", 'n'), ("real", 'r'), ("zero", 'z')] } 1 l fun p => do
    let all ← accounts
    let kinds := (['u', 'g', 'G'].filter p.has)
    if 1 < kinds.length then
      complain l "cannot print \"only\" of more than one choice"
      return 1
    if kinds.isEmpty && (p.has 'n' || p.has 'r') then
      complain l "cannot print only names or real IDs in default format"
      return 1
    let account? (w : String) : Option Account := (all.find? (·.name == w)).orElse fun _ =>
      (number? w).bind fun n => all.find? (·.user == n)
    let asked := if p.words.isEmpty then [("", some (⟨"root", 0, 0⟩ : Account))]
      else p.words.map fun w => (w, account? w)
    each (fun (w, found) => do
      match found with
      | none => do
        complain l (quoted w ++ ": no such user")
        return 1
      | some a =>
        let user := if p.has 'n' then a.name else toString a.user
        let group := if p.has 'n' then groupName all a.group else toString a.group
        match kinds with
        | ['u'] => put l (user ++ "\n")
        | [_] => put l (group ++ "\n")
        | _ =>
          let shown := toString a.group ++ "(" ++ groupName all a.group ++ ")"
          put l ("uid=" ++ toString a.user ++ "(" ++ a.name ++ ") gid=" ++ shown ++ " groups=" ++
            shown ++ "\n")) asked 0

def fixed (text : String) : Program := fun l =>
  withOptions { letters := "" } 1 l fun p => do
    match p.words with
    | [] => put l (text ++ "\n")
    | extra :: _ => misused l ("extra operand " ++ quoted extra) 1

def refusing (text : String) : Program := fun l => do
  complain l text
  return 1

def noTerminal : Program := fun l => do
  let _ ← put l "not a tty\n"
  return 1

def groups : Program := fun l => do
  let all ← accounts
  match l.words with
  | [] => put l "root\n"
  | words => each (fun w => do
      match all.find? (·.name == w) with
      | some a => put l (w ++ " : " ++ groupName all a.group ++ "\n")
      | none => do
        complain l (quoted w ++ ": no such user")
        return 1) words 0

def uname : Program := fun l =>
  withOptions { letters := "asnrvmpio", long := [("all", 'a'), ("kernel-name", 's'), ("nodename", 'n'),
    ("kernel-release", 'r'), ("kernel-version", 'v'), ("machine", 'm'), ("processor", 'p'),
    ("operating-system", 'o')] } 1 l fun p => do
    let has (c : Char) : Bool := p.has c || (p.has 'a' && c ≠ 'p' && c ≠ 'i')
    let parts := [('s', "Linux"), ('n', "localhost"), ('r', "6.1.0"), ('v', "#1 SMP"), ('m', "x86_64"),
      ('p', "unknown"), ('i', "unknown"), ('o', "GNU/Linux")].filter fun part => has part.1
    match p.words with
    | extra :: _ => misused l ("extra operand " ++ quoted extra) 1
    | [] =>
      put l (String.intercalate " " (if parts.isEmpty then ["Linux"] else parts.map (·.2)) ++ "\n")

end Converge.Tool
