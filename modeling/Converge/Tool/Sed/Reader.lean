import Converge.Text.Regex.Reader
import Converge.Tool.Sed.Program

set_option autoImplicit false
set_option maxRecDepth 2000

namespace Converge.Tool.Sed

open Converge.Text

/-- Where a part of a program comes from: the words, or a file. -/
structure Chunk where
  file : Option String
  text : List Char

/-- What is left to read, and how much has been read. -/
structure Draft where
  rest : List Char
  count : Nat := 0
  isExtended : Bool := false
  commands : Array Command := #[]
  -- Blocks that are open, by the places of their first commands.
  opened : List Nat := []
  labels : List (String × Nat) := []

/-- What is wrong, and how much had been read then; 0 stands for the whole. -/
structure Fault where
  message : String
  count : Nat

abbrev Read := StateT Draft (Except Fault)

def signed (c : Char) : String := String.ofList [Char.ofNat 96, c, '\'']

def refuse {α : Type} (message : String) : Read α := do throw ⟨message, (← get).count⟩

def char? : Read (Option Char) := do
  let d ← get
  match d.rest with
  | c :: rest => do
    set { d with rest := rest, count := d.count + 1 }
    return some c
  | [] => return none

def unread (c : Char) : Read Unit := modify fun d => { d with rest := c :: d.rest, count := d.count - 1 }

def takeWhile (f : Char → Bool) : Read (List Char) := do
  let d ← get
  let taken := d.rest.takeWhile f
  set { d with rest := d.rest.drop taken.length, count := d.count + taken.length }
  return taken

def isBlank (c : Char) : Bool := c == ' ' || c == '\t'

def isSpace (c : Char) : Bool := c == ' ' || ('\t' ≤ c && c ≤ '\x0d')

def nonBlank? : Read (Option Char) := do
  let _ ← takeWhile isBlank
  char?

def bracketWithin : Nat → Bool → List Char → List Char → Option (List Char × List Char)
  | 0, _, _, _ => none
  | _, _, [], _ => none
  | room + 1, isFirst, c :: rest, done =>
    if c = '\n' then none
    else if c = ']' && !isFirst then some ((c :: done).reverse, rest)
    else if c = '^' && isFirst && done.length = 1 then bracketWithin room true rest (c :: done)
    else
      match c, rest with
      | '[', k :: more =>
        if k = ':' || k = '.' || k = '=' then
          let name := more.takeWhile (· ≠ k)
          match more.drop name.length with
          | e :: ']' :: after =>
            bracketWithin room false after ((']' :: e :: name.reverse) ++ (k :: c :: done))
          | _ => bracketWithin room false rest (c :: done)
        else bracketWithin room false rest (c :: done)
      | '\\', 'n' :: more => bracketWithin room false more ('\n' :: done)
      | _, _ => bracketWithin room false rest (c :: done)

def delimitedWithin (sign : Char) (isRegex : Bool) : Nat → List Char → Read (Option (List Char))
  | 0, _ => return none
  | room + 1, done => do
    match ← char? with
    | none => return none
    | some c =>
      if c = sign then return some done.reverse
      else if c = '\n' && isRegex then
        unread c
        return none
      else if c = '\\' then
        match ← char? with
        | none => return none
        | some d =>
          if d = sign then
            delimitedWithin sign isRegex room (if !isRegex && d = '&' then d :: '\\' :: done else d :: done)
          else if d = 'n' && isRegex then delimitedWithin sign isRegex room ('\n' :: done)
          else if d = '\n' then
            delimitedWithin sign isRegex room (if isRegex then d :: done else d :: '\\' :: done)
          else delimitedWithin sign isRegex room (d :: '\\' :: done)
      else if c = '[' && isRegex then
        let d ← get
        match bracketWithin (d.rest.length + 1) true d.rest ['['] with
        | some (taken, rest) => do
          set { d with rest := rest, count := d.count + (d.rest.length - rest.length) }
          delimitedWithin sign isRegex room (taken.reverse ++ done)
        | none => do
          set { d with rest := [], count := d.count + d.rest.length }
          return none
      else delimitedWithin sign isRegex room (c :: done)

def delimited (sign : Char) (isRegex : Bool) : Read (Option (List Char)) := do
  delimitedWithin sign isRegex ((← get).rest.length + 1) []

def hexValue? (c : Char) : Option Nat :=
  if Decimal.isDigit c then some (c.toNat - 48)
  else if 'a' ≤ c.toLower && c.toLower ≤ 'f' then some (c.toLower.toNat - 87)
  else none

def numbered? (base most : Nat) (s : List Char) : Option (Char × List Char) :=
  let digits := (s.take most).takeWhile fun c => (hexValue? c).any (· < base)
  if digits.isEmpty then none
  else
    let n := digits.foldl (fun n c => n * base + (hexValue? c).getD 0) 0
    some (Char.ofNat (n % 256), s.drop digits.length)

def escape? : List Char → Option (Char × List Char)
  | 'a' :: rest => some ('\x07', rest)
  | 'f' :: rest => some ('\x0c', rest)
  | 'r' :: rest => some ('\x0d', rest)
  | 't' :: rest => some ('\t', rest)
  | 'v' :: rest => some ('\x0b', rest)
  | 'c' :: c :: rest => some (Char.ofNat (c.toUpper.toNat ^^^ 64), rest)
  | 'd' :: rest => numbered? 10 3 rest
  | 'o' :: rest => numbered? 8 3 rest
  | 'x' :: rest => numbered? 16 2 rest
  | _ => none

def regexText : Nat → List Char → List Char
  | 0, s => s
  | _, [] => []
  | room + 1, '\\' :: rest =>
    match escape? rest with
    | some (c, rest) => c :: regexText room rest
    | none =>
      match rest with
      | c :: rest => '\\' :: c :: regexText room rest
      | [] => ['\\']
  | room + 1, c :: rest => c :: regexText room rest

def regex (s : List Char) (folds byLines : Bool) : Read Fit := do
  let d ← get
  if s.isEmpty then return { regex := none, folds := folds, byLines := byLines }
  match Regex.ofText d.isExtended (String.ofList (regexText (s.length + 1) s)) with
  | .ok r => return { regex := some r, folds := folds, byLines := byLines }
  | .error m => refuse m

def partsWithin : Nat → List Char → List Char → List Part
  | 0, _, _ => []
  | room + 1, s, text =>
    let before (ps : List Part) : List Part := if text.isEmpty then ps else .text text.reverse :: ps
    match s with
    | [] => before []
    | '&' :: rest => before (.group 0 :: partsWithin room rest [])
    | '\\' :: rest =>
      match escape? rest with
      | some (c, rest) => partsWithin room rest (c :: text)
      | none =>
        match rest with
        | [] => before [.text ['\\']]
        | c :: rest =>
          if Decimal.isDigit c then before (.group (c.toNat - 48) :: partsWithin room rest [])
          else if "LUElu".toList.contains c then before (.change c :: partsWithin room rest [])
          else if c = 'n' then partsWithin room rest ('\n' :: text)
          else partsWithin room rest (c :: text)
    | c :: rest => partsWithin room rest (c :: text)

def largestGroup (ps : List Part) : Nat :=
  ps.foldl (fun n p => match p with
    | .group k => max n k
    | _ => n) 0

-- A text that ends with its line, with backslashes undone; a line may go on behind one.
def textWithin : Nat → List Char → Read (List Char)
  | 0, done => return done.reverse
  | room + 1, done => do
    match ← char? with
    | none | some '\n' => return ('\n' :: done).reverse
    | some '\\' => do
      let d ← get
      match escape? d.rest with
      | some (c, rest) => do
        set { d with rest := rest, count := d.count + (d.rest.length - rest.length) }
        textWithin room (c :: done)
      | none =>
        match ← char? with
        | none => return ('\n' :: done).reverse
        | some 'n' => textWithin room ('\n' :: done)
        | some c => textWithin room (c :: done)
    | some c => textWithin room (c :: done)

def text : Read (List Char) := do
  match ← nonBlank? with
  | none => refuse ("expected \\ after " ++ signed 'a' ++ ", " ++ signed 'c' ++ " or " ++ signed 'i')
  | some '\\' => do
    match (← get).rest with
    | [] => return []
    | '\n' :: _ => do
      let _ ← char?
      if (← get).rest.isEmpty then return []
      textWithin ((← get).rest.length + 1) []
    | _ => textWithin ((← get).rest.length + 1) []
  | some c => do
    unread c
    textWithin ((← get).rest.length + 1) []

def ending : Read Unit := do
  match ← nonBlank? with
  | none | some '\n' | some ';' => return ()
  | some c =>
    if c = '\x7d' || c = '#' then unread c else refuse "extra characters after command"

def fileName : Read String := do
  let _ ← takeWhile isBlank
  let name ← takeWhile (· ≠ '\n')
  if name.isEmpty then refuse "missing filename in r/R/w/W commands"
  return String.ofList name

def label : Read String := do
  let _ ← takeWhile isBlank
  let name ← takeWhile fun c => !(isSpace c || c == ';')
  return String.ofList name

def number? : Read (Option Nat) := do
  let digits ← takeWhile Decimal.isDigit
  return if digits.isEmpty then none else some (Decimal.value digits)

def addressFlags : Nat → Bool → Bool → Read (Bool × Bool)
  | 0, folds, byLines => return (folds, byLines)
  | room + 1, folds, byLines => do
    match ← nonBlank? with
    | some 'I' => addressFlags room true byLines
    | some 'M' => addressFlags room folds true
    | some c => do
      unread c
      return (folds, byLines)
    | none => return (folds, byLines)

def place? : Read (Option Place) := do
  match ← nonBlank? with
  | none => return none
  | some '$' => return some .last
  | some c =>
    if c = '/' || c = '\\' then
      let sign ← if c = '/' then pure (some '/') else char?
      match sign with
      | none => refuse "unexpected `,'"
      | some sign =>
        match ← delimited sign true with
        | none => refuse "unterminated address regex"
        | some s => do
          let (folds, byLines) ← addressFlags ((← get).rest.length + 1) false false
          return some (.fits (← regex s folds byLines))
    else if Decimal.isDigit c then
      unread c
      let n := (← number?).getD 0
      match ← nonBlank? with
      | some '~' => do
        let step := (← number?).getD 0
        return some (if step = 0 then .line n else .every n step)
      | some c => do
        unread c
        return some (if n = 0 then .start else .line n)
      | none => return some (if n = 0 then .start else .line n)
    else if c = '+' || c = '~' then
      let _ ← number?
      refuse "invalid usage of +N or ~N as first address"
    else do
      unread c
      return none

def finish : Read Finish := do
  let missing : Read Finish := do
    let _ ← char?
    refuse ("unexpected " ++ signed ',')
  let _ ← takeWhile isBlank
  match (← get).rest with
  | '+' :: _ => do
    let _ ← char?
    return .after ((← number?).getD 0)
  | '~' :: _ => do
    let _ ← char?
    return .multiple ((← number?).getD 0)
  | _ => do
    match ← place? with
    | some p => return .at p
    | none => missing

structure Flags where
  everywhere : Bool := false
  nth : Option Nat := none
  prints : Bool := false
  folds : Bool := false
  byLines : Bool := false
  goal : Option String := none

def flagsWithin : Nat → Flags → Read Flags
  | 0, f => return f
  | room + 1, f => do
    let several (what : String) : String := "multiple " ++ what ++ " options to " ++
      String.singleton (Char.ofNat 96) ++ "s' command"
    match ← char? with
    | none | some '\n' | some ';' => return f
    | some ' ' | some '\t' => flagsWithin room f
    | some 'i' | some 'I' => flagsWithin room { f with folds := true }
    | some 'm' | some 'M' => flagsWithin room { f with byLines := true }
    | some 'e' => flagsWithin room f
    | some 'p' =>
      if f.prints then refuse (several (signed 'p')) else flagsWithin room { f with prints := true }
    | some 'g' =>
      if f.everywhere then refuse (several (signed 'g')) else flagsWithin room { f with everywhere := true }
    | some 'w' => do return { f with goal := some (← fileName) }
    | some c =>
      if c = '\x7d' || c = '#' then
        unread c
        return f
      else if Decimal.isDigit c then
        if f.nth.isSome then refuse (several "number")
        else
          let more ← takeWhile Decimal.isDigit
          let n := Decimal.value (c :: more)
          if n = 0 then
            refuse ("number option to " ++ String.singleton (Char.ofNat 96) ++ "s' command may not be zero")
          flagsWithin room { f with nth := some n }
      else refuse ("unknown option to " ++ signed 's')

def unterminated (c : Char) : String := "unterminated " ++ signed c ++ " command"

def substitution : Read Substitution := do
  match ← char? with
  | none => refuse (unterminated 's')
  | some sign =>
    match ← delimited sign true with
    | none => refuse (unterminated 's')
    | some pattern =>
      match ← delimited sign false with
      | none => refuse (unterminated 's')
      | some new => do
        let flags ← flagsWithin ((← get).rest.length + 1) {}
        let fit ← regex pattern flags.folds flags.byLines
        let parts := partsWithin (new.length + 1) new []
        let groups := fit.regex.map Regex.groupCount
        if groups.any (· < largestGroup parts) then
          refuse ("invalid reference \\" ++ toString (largestGroup parts) ++ " on " ++ signed 's' ++
            " command's RHS")
        return {
          fit := fit, parts := parts, everywhere := flags.everywhere, nth := flags.nth.getD 1
          prints := flags.prints, goal := flags.goal }

def sideWithin : Nat → List Char → List Char
  | 0, _ => []
  | _, [] => []
  | room + 1, '\\' :: rest =>
    match escape? rest with
    | some (c, rest) => c :: sideWithin room rest
    | none =>
      match rest with
      | '\\' :: rest => '\\' :: sideWithin room rest
      | 'n' :: rest => '\n' :: sideWithin room rest
      | rest => '\\' :: sideWithin room rest
  | room + 1, c :: rest => c :: sideWithin room rest

def translation : Read (List (Char × Char)) := do
  match ← char? with
  | none => refuse (unterminated 'y')
  | some sign =>
    match ← delimited sign false with
    | none => refuse (unterminated 'y')
    | some a =>
      match ← delimited sign false with
      | none => refuse (unterminated 'y')
      | some b => do
        let x := sideWithin (a.length + 1) a
        let y := sideWithin (b.length + 1) b
        if x.length ≠ y.length then refuse ("strings for " ++ signed 'y' ++ " command are different lengths")
        ending
        return x.zip y

def add (c : Command) : Read Unit := modify fun d => { d with commands := d.commands.push c }

def action (c : Char) : Read Action := do
  let plain (a : Action) : Read Action := do
    ending
    return a
  match c with
  | 'a' => return .append (← text)
  | 'i' => return .insert (← text)
  | 'c' => return .change (← text)
  | 'b' => do
    let target ← label
    ending
    return .jump target
  | 't' => do
    let target ← label
    ending
    return .jumpIf target
  | 'T' => do
    let target ← label
    ending
    return .jumpUnless target
  | 'd' => plain .delete
  | 'D' => plain .deleteLine
  | 'p' => plain .print
  | 'P' => plain .printLine
  | 'n' => plain .next
  | 'N' => plain .nextAppend
  | 'g' => plain .take
  | 'G' => plain .takeAppend
  | 'h' => plain .keep
  | 'H' => plain .keepAppend
  | 'x' => plain .exchange
  | 'z' => plain .empty
  | 'F' => plain .fileName
  | '=' => plain .number
  | 'q' | 'Q' | 'l' => do
    let _ ← takeWhile isBlank
    let n ← number?
    ending
    return if c = 'q' then .quit (n.getD 0) else if c = 'Q' then .quitNow (n.getD 0) else .show n
  | 'r' => return .readFile (← fileName)
  | 'R' => return .readLine (← fileName)
  | 'w' => return .write (← fileName)
  | 'W' => return .writeLine (← fileName)
  | 's' => return .substitute (← substitution)
  | 'y' => return .translate (← translation)
  | 'v' => do
    let _ ← label
    return .nothing
  | c => refuse ("unknown command: " ++ signed c)

def commandsWithin : Nat → Read Unit
  | 0 => return ()
  | room + 1 => do
    let _ ← takeWhile fun c => isSpace c || c == ';'
    if (← get).rest.isEmpty then return ()
    let start ← place?
    let isRange ← match start with
      | none => pure false
      | some _ => do
        match ← nonBlank? with
        | some ',' => pure true
        | some c => do
          unread c
          pure false
        | none => pure false
    let last ← if isRange then do pure (some (← finish)) else pure none
    let sign ← nonBlank?
    match start, last with
    | some .start, some (.at (.fits _)) => pure ()
    | some .start, _ => refuse "invalid usage of line address 0"
    | _, _ => pure ()
    let (isNegated, sign) ← if sign = some '!' then do
        let sign ← nonBlank?
        if sign = some '!' then
          refuse ("multiple " ++ String.singleton (Char.ofNat 96) ++ "!'s")
        pure (true, sign)
      else pure (false, sign)
    let command (a : Action) : Command := { start := start, finish := last, isNegated := isNegated, action := a }
    match sign with
    | none => refuse "missing command"
    | some '#' => do
      if start.isSome then refuse "comments don't accept any addresses"
      let _ ← takeWhile (· ≠ '\n')
      commandsWithin room
    | some ':' => do
      if start.isSome then refuse ": doesn't want any addresses"
      let name ← label
      if name = "" then refuse "\":\" lacks a label"
      modify fun d => { d with labels := (name, d.commands.size) :: d.labels }
      commandsWithin room
    | some '\x7b' => do
      modify fun d => { d with opened := d.commands.size :: d.opened }
      add (command (.block 0))
      commandsWithin room
    | some '\x7d' => do
      match (← get).opened with
      | [] => refuse ("unexpected " ++ signed '\x7d')
      | first :: others => do
        if start.isSome then refuse ("unexpected " ++ signed ',')
        modify fun d => { d with
          opened := others
          commands := d.commands.modify first fun c => { c with action := .block d.commands.size } }
        ending
        commandsWithin room
    | some c => do
      add (command (← action c))
      commandsWithin room

def location (chunks : List Chunk) (count : Nat) : String :=
  let rec go : List Chunk → Nat → Nat → String
    | [], _, _ => ""
    | chunk :: rest, count, expression =>
      let number := if chunk.file.isNone then expression + 1 else expression
      if count ≤ chunk.text.length || rest.isEmpty then
        match chunk.file with
        | none => "-e expression #" ++ toString number ++ ", char " ++ toString count
        | some path =>
          "file " ++ path ++ " line " ++
            toString ((chunk.text.take (count - 1)).countP (· == '\n') + 1)
      else go rest (count - chunk.text.length - 1) number
  go chunks count 0

def Program.ofChunks (isExtended isSilent : Bool) (chunks : List Chunk) : Except (String × Nat) Program :=
  let text := (chunks.map (·.text)).intersperse ['\n'] |>.flatten
  let marked := isSilent || ['#', 'n', '\n'].isPrefixOf text || text = ['#', 'n']
  match (commandsWithin (text.length + 1)).run { rest := text, isExtended := isExtended } with
  | .error f => .error (location chunks f.count ++ ": " ++ f.message, 1)
  | .ok (_, d) =>
    if !d.opened.isEmpty then
      .error (location chunks 0 ++ ": unmatched " ++ signed '\x7b', 1)
    else
      let missing := d.commands.toList.findSome? fun c => match c.action with
        | .jump name | .jumpIf name | .jumpUnless name =>
          if name = "" || (d.labels.lookup name).isSome then none else some name
        | _ => none
      match missing with
      | some name =>
        .error ("can't find label for jump to " ++ String.singleton (Char.ofNat 96) ++ name ++ "'", 4)
      | none => .ok { commands := d.commands, labels := d.labels, isSilent := marked }

end Converge.Tool.Sed
