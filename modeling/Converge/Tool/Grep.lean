import Converge.Shell.Pattern
import Converge.Text.Regex.Reader
import Converge.Tool.Feed
import Converge.Tool.Tree

set_option autoImplicit false
set_option maxRecDepth 2000

namespace Converge.Tool.Grep

open Converge.Process
open Converge.Text

/-- What is looked for, and what is said of it. -/
structure Search where
  patterns : List Regex
  folds : Bool
  inverted : Bool
  wholeWords : Bool
  wholeLines : Bool
  onlyParts : Bool
  counts : Bool
  -- Only the names of files with such lines, or of files without.
  names : Option Bool
  quiet : Bool
  silent : Bool
  numbers : Bool
  offsets : Bool
  titled : Bool
  most : Option Nat
  before : Nat
  after : Nat
  asText : Bool
  label : String
  sign : Char
  ends : String

def Search.allows (x : Search) (t : Regex.Subject) (start finish : Nat) : Bool :=
  if x.wholeLines then start = 0 && finish = t.text.size
  else if x.wholeWords then !Regex.isWordBefore t start && !Regex.isWordAt t finish
  else true

def endsFrom (t : Regex.Subject) (r : Regex) (p : Nat) : List Nat :=
  if Regex.hasBack r then (Regex.paths t r (p, [])).map (·.1) else Regex.ends t r [p]

def Search.fitFrom? (x : Search) (t : Regex.Subject) (p : Nat) : Option Nat :=
  x.patterns.foldl (fun best r =>
    ((endsFrom t r p).filter (x.allows t p)).foldl (fun best n => match best with
      | some m => some (max m n)
      | none => some n) best) none

def Search.find? (x : Search) (t : Regex.Subject) (p : Nat) : Option (Nat × Nat) :=
  (List.range (t.text.size + 1 - p)).findSome? fun k =>
    (x.fitFrom? t (p + k)).map fun finish => (p + k, finish)

def Search.subject (x : Search) (line : List Char) : Regex.Subject :=
  { text := line.toArray, folds := x.folds }

def Search.chooses (x : Search) (line : List Char) : Bool :=
  let t := x.subject line
  let fits := if x.wholeLines || x.wholeWords then (x.find? t 0).isSome
    else x.patterns.any (Regex.fitsAnywhere t)
  fits != x.inverted

def Search.parts (x : Search) (t : Regex.Subject) : Nat → Nat → List (Nat × String)
  | 0, _ => []
  | room + 1, p =>
    match x.find? t p with
    | none => []
    | some (start, finish) =>
      if start = finish then x.parts t room (start + 1)
      else (start, Regex.part t start finish) :: x.parts t room finish

structure Course where
  line : Nat := 0
  offset : Nat := 0
  found : Nat := 0
  -- The last lines that were passed over, the latest first.
  passed : List (Nat × Nat × List Char) := []
  -- How many lines are still to be shown behind the last one.
  trailing : Nat := 0
  shown : Option Nat := none
  isBinary : Bool := false

def Search.row (x : Search) (name : String) (mark : Char) (line offset : Nat) (text : String) : String :=
  let sign := String.singleton mark
  (if x.titled then name ++ (if x.ends = "\x00" then x.ends else sign) else "") ++
    (if x.numbers then toString line ++ sign else "") ++
      (if x.offsets then toString offset ++ sign else "") ++ text ++ String.singleton x.sign

def Search.shownFor (x : Search) (name : String) (c : Course) (line : List Char) : String :=
  if x.onlyParts then
    if x.inverted then ""
    else String.join (((x.subject line |> fun t => x.parts t (line.length + 2) 0)).map fun (start, text) =>
      x.row name ':' (c.line + 1) (c.offset + start) text)
  else
    let first := c.line + 1 - c.passed.length
    let gap := (0 < x.before || 0 < x.after) && c.shown.any (· + 1 < first)
    (if gap then "--\n" else "") ++
      String.join (c.passed.reverse.map fun (n, offset, text) =>
        x.row name '-' n offset (String.ofList text)) ++
      x.row name ':' (c.line + 1) c.offset (String.ofList line)

inductive Outcome where
  | finished (found : Nat)
  | broken

def Search.through (x : Search) (l : Launch) (name : String) : Nat → Feed → Course → Act Outcome
  | 0, _, c => return .finished c.found
  | room + 1, f, c => do
    let isFull := x.most.any (· ≤ c.found)
    if isFull && c.trailing = 0 then
      f.giveBack
      return .finished c.found
    match ← f.next with
    | .error e => do
      unless x.silent do complain l (name ++ ": " ++ e.reason)
      return .broken
    | .ok (none, _) => return .finished c.found
    | .ok (some (line, _), f) => do
      let isBinary := !x.asText && x.sign = '\n' && line.contains (Char.ofNat 0)
      let isShown := !(x.quiet || x.counts || x.names.isSome)
      let next : Course := { c with line := c.line + 1, offset := c.offset + line.length + 1
                                    isBinary := c.isBinary || isBinary }
      if !isFull && x.chooses line then
        if x.quiet || x.names.isSome then return .finished 1
        else if !isShown then x.through l name room f { next with found := c.found + 1 }
        else if next.isBinary then
          complain l (name ++ ": binary file matches")
          return .finished (c.found + 1)
        else
          match ← put l (x.shownFor name c line) with
          | 0 =>
            x.through l name room f { next with
              found := c.found + 1, passed := [], trailing := x.after, shown := some (c.line + 1) }
          | _ => return .broken
      else if 0 < c.trailing && isShown && !x.onlyParts then
        let _ ← put l (x.row name '-' (c.line + 1) c.offset (String.ofList line))
        x.through l name room f { next with
          passed := [], trailing := c.trailing - 1, shown := some (c.line + 1) }
      else
        x.through l name room f { next with
          passed := ((c.line + 1, c.offset, line) :: c.passed).take x.before
          trailing := c.trailing - 1 }

def Search.file (x : Search) (l : Launch) (path : String) : Act (Bool × Bool) := do
  let name := if path = "-" then x.label else path
  let opened : Except OsError Nat ← if path = "-" then pure (.ok 0) else Act.openAt 3 path .reading false
  match opened with
  | .error e => do
    unless x.silent do complain l (name ++ ": " ++ e.reason)
    return (false, true)
  | .ok number => do
    let outcome ← x.through l name manyTimes { descriptor := number, sign := x.sign } {}
    closed number
    match outcome with
    | .broken => return (false, true)
    | .finished n => do
      let title := if x.titled then name ++ (if x.ends = "\x00" then x.ends else ":") else ""
      if x.counts && !x.quiet && x.names.isNone then
        let _ ← put l (title ++ toString n ++ "\n")
      match x.names with
      | some wanted => do
        if (0 < n) = wanted && !x.quiet then
          let _ ← put l (name ++ if x.ends = "\x00" then x.ends else "\n")
        return (0 < n, false)
      | none => return (0 < n, false)

def Search.files (x : Search) (l : Launch) : List String → Bool → Bool → Act Nat
  | [], found, broken => return if found && (x.quiet || !broken) then 0 else if broken then 2 else 1
  | path :: rest, found, broken => do
    if x.quiet && found then return 0
    let (here, fault) ← x.file l path
    x.files l rest (found || here) (broken || fault)

def filesBelow (v : View) (p : Parsed) (path : String) : List String :=
  let values (c : Char) : List String := (p.options.filter (·.1 == c)).map (·.2)
  let fits (patterns : List String) (name : String) : Bool := patterns.any fun pattern =>
    Shell.Pattern.fits (Shell.Pattern.ofText pattern) name.toList
  let isWanted (path : String) : Bool :=
    let name := baseName path
    !fits (values '4') name && ((values '3').isEmpty || fits (values '3') name)
  let all (root shown : String) : List String :=
    match v.status true root with
    | .ok status =>
      let enters (f : Found) : Bool := f.depth = 0 || !fits (values '5') (baseName f.path)
      ((tree v (p.has 'R') enters treeDepth ⟨shown, 0, status⟩).filter fun f =>
        f.depth = 0 && f.status.kind ≠ .directory ||
          f.status.kind = .file && isWanted f.path).map (·.path)
    | .error _ => [shown]
  all path path

def patternLines (s : String) : List String := s.splitOn "\n"

def options : Options := { letters := "EFGPe:f:iyvwxcLlm:oqsbHhnTZA:B:C:arRzUd:D:I1:2:3:4:5:", long := [
    ("extended-regexp", 'E'), ("fixed-strings", 'F'), ("basic-regexp", 'G'), ("perl-regexp", 'P'),
    ("regexp", 'e'), ("file", 'f'), ("ignore-case", 'i'), ("invert-match", 'v'), ("word-regexp", 'w'),
    ("line-regexp", 'x'), ("count", 'c'), ("files-without-match", 'L'), ("files-with-matches", 'l'),
    ("max-count", 'm'), ("only-matching", 'o'), ("quiet", 'q'), ("silent", 'q'), ("no-messages", 's'),
    ("byte-offset", 'b'), ("with-filename", 'H'), ("no-filename", 'h'), ("line-number", 'n'),
    ("null", 'Z'), ("after-context", 'A'), ("before-context", 'B'), ("context", 'C'), ("text", 'a'),
    ("recursive", 'r'), ("dereference-recursive", 'R'), ("null-data", 'z'), ("directories", 'd'),
    ("label", '2'), ("include", '3'), ("exclude", '4'), ("exclude-dir", '5'), ("binary-files", '1')] }

def readPattern (manner : Char) (s : String) : Except String Regex :=
  if manner = 'F' then .ok (Regex.literal s) else Regex.ofText (manner = 'E' || manner = 'P') s

def plainWords (ws : List String) : List String :=
  (ws.filter fun w => !(w.startsWith "--color" || w.startsWith "--colour" || w = "--line-buffered")).map
    fun w => match w.toList with
      | '-' :: c :: cs =>
        if (c :: cs).all Decimal.isDigit then "-C" ++ String.ofList (c :: cs) else w
      | _ => w

def explain (l : Launch) : Act Nat := do
  Act.complain ("Usage: " ++ l.name ++ " [OPTION]... PATTERNS [FILE]...")
  Act.complain ("Try '" ++ l.name ++ " --help' for more information.")
  return 2

def givenPatterns (l : Launch) : List (Char × String) → List String → Act (Option (List String))
  | [], done => return some done
  | (c, argument) :: rest, done => do
    if c = 'e' then givenPatterns l rest (done ++ patternLines argument)
    else
      match ← content argument with
      | .ok octets => givenPatterns l rest (done ++ ((lines (Raw.ofOctets octets)).1.map String.ofList))
      | .error e => do
        complain l (argument ++ ": " ++ e.reason)
        return none

def tool (usual : Char) : Program := fun l =>
  match options.parse (plainWords l.words) with
  | .error m => do
    complain l m
    explain l
  | .ok p => do
    let own := p.options.filter fun o => o.1 = 'e' || o.1 = 'f'
    if own.isEmpty && p.words.isEmpty then return ← explain l
    let refuse (m : String) : Act Nat := do
      complain l m
      return 2
    let count? (c : Char) : Option (Option Nat) := match p.value? c with
      | none => some none
      | some s => (number? s).map some
    match count? 'm', ['A', 'B', 'C'].find? fun c => (count? c).isNone with
    | none, _ => refuse "invalid max count"
    | _, some c => refuse ((p.value? c).getD "" ++ ": invalid context length argument")
    | some most, none => do
      match ← givenPatterns l own [] with
      | none => return 2
      | some named => do
        let texts := if own.isEmpty then patternLines (p.words.headD "") else named
        let paths := if own.isEmpty then p.words.drop 1 else p.words
        let manner := (p.last? ['E', 'F', 'G', 'P']).getD usual
        let starred (s : String) : Bool := manner = 'E' && ["*", "+", "?"].contains (String.ofList (s.toList.take 1))
        let _ ← each (fun (s : String) => do
          complain l ("warning: " ++ String.ofList (s.toList.take 1) ++ " at start of expression")
          return 0) (texts.filter starred) 0
        match texts.mapM (readPattern manner) with
        | .error m => refuse m
        | .ok patterns => do
          let recursive := p.has 'r' || p.has 'R'
          let around := ((count? 'C').getD none).getD 0
          let v ← View.now
          let files := if recursive then
              (if paths.isEmpty then ["."] else paths).flatMap fun path =>
                if path = "-" then [path] else filesBelow v p path
            else if paths.isEmpty then ["-"]
            else if p.value? 'd' = some "skip" then paths.filter fun path => !v.isDirectory path
            else paths
          -- Without a path the files have no directory in front.
          let bare (path : String) : String :=
            if recursive && paths.isEmpty && path.startsWith "./" then String.ofList (path.toList.drop 2) else path
          let many := 1 < paths.length || (recursive && !(paths.length = 1 && !v.isDirectory (paths.headD "")))
          let x : Search := {
            patterns := patterns, folds := p.has 'i' || p.has 'y', inverted := p.has 'v'
            wholeWords := p.has 'w', wholeLines := p.has 'x', onlyParts := p.has 'o', counts := p.has 'c'
            names := match p.last? ['l', 'L'] with
              | some 'l' => some true
              | some _ => some false
              | none => none
            quiet := p.has 'q', silent := p.has 's', numbers := p.has 'n', offsets := p.has 'b'
            titled := match p.last? ['H', 'h'] with
              | some 'H' => true
              | some _ => false
              | none => many
            most := most
            before := ((count? 'B').getD none).getD around
            after := ((count? 'A').getD none).getD around
            asText := p.has 'a' || p.value? '1' = some "text"
            label := (p.value? '2').getD "(standard input)"
            sign := if p.has 'z' then Char.ofNat 0 else '\n'
            ends := if p.has 'Z' then "\x00" else "" }
          if most = some 0 then return 1
          x.files l (files.map bare) false false

end Converge.Tool.Grep
