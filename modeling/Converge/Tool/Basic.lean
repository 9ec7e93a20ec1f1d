import Converge.Process.Machine
import Converge.Text.Basic

set_option autoImplicit false

namespace Converge.Tool

open Converge.Process
open Converge.Text

def complain (l : Launch) (message : String) : Act Unit := Act.complain (l.name ++ ": " ++ message)

def misused (l : Launch) (message : String) (status : Nat) : Act Nat := do
  complain l message
  Act.complain ("Try '" ++ l.name ++ " --help' for more information.")
  return status

/-- The options that a program knows: letters, with a colon behind those that take an argument, and long
names with the letters that they stand for. -/
structure Options where
  letters : String
  long : List (String × Char) := []
  stopsEarly : Bool := false

structure Parsed where
  options : List (Char × String) := []
  words : List String := []

namespace Parsed

def has (p : Parsed) (c : Char) : Bool := p.options.any (·.1 == c)

def value? (p : Parsed) (c : Char) : Option String :=
  (p.options.filter (·.1 == c)).getLast?.map (·.2)

def last? (p : Parsed) (cs : List Char) : Option Char :=
  (p.options.filter fun o => cs.contains o.1).getLast?.map (·.1)

end Parsed

namespace Options

def knows (o : Options) (c : Char) : Bool := c ≠ ':' && o.letters.toList.contains c

def takesArgument (o : Options) (c : Char) : Bool :=
  ((o.letters.toList.dropWhile (· ≠ c)).drop 1).head? == some ':'

def named (o : Options) (name : String) : List (String × Char) :=
  match o.long.filter (·.1 == name) with
  | [] => o.long.filter fun l => l.1.startsWith name
  | exact => exact

def cluster (o : Options) : List Char → List String → List (Char × String) →
    Except String (List (Char × String) × List String)
  | [], rest, done => .ok (done, rest)
  | c :: cs, rest, done =>
    if !o.knows c then .error ("invalid option -- '" ++ String.singleton c ++ "'")
    else if !o.takesArgument c then cluster o cs rest ((c, "") :: done)
    else
      match cs, rest with
      | [], [] => .error ("option requires an argument -- '" ++ String.singleton c ++ "'")
      | [], w :: rest => .ok ((c, w) :: done, rest)
      | cs, rest => .ok ((c, String.ofList cs) :: done, rest)

def longOption (o : Options) (w : String) (rest : List String) :
    Except String (List (Char × String) × List String) :=
  let body := String.ofList (w.toList.drop 2)
  let name := String.ofList (body.toList.takeWhile (· ≠ '='))
  let argument := if name.length < body.length then
      some (String.ofList (body.toList.drop (name.length + 1)))
    else none
  match o.named name with
  | [] => .error ("unrecognized option '--" ++ body ++ "'")
  | [(full, c)] =>
    match o.takesArgument c, argument, rest with
    | false, none, rest => .ok ([(c, "")], rest)
    | false, some _, _ => .error ("option '--" ++ full ++ "' doesn't allow an argument")
    | true, some a, rest => .ok ([(c, a)], rest)
    | true, none, w :: rest => .ok ([(c, w)], rest)
    | true, none, [] => .error ("option '--" ++ full ++ "' requires an argument")
  | (full, c) :: others =>
    -- Names for one thing are no choice.
    if others.all (·.2 == c) then .ok ([(c, argument.getD "")], rest)
    else
      let shown := ((full, c) :: others).map fun l => " '--" ++ l.1 ++ "'"
      .error ("option '--" ++ name ++ "' is ambiguous; possibilities:" ++ String.join shown)

def parseWithin (o : Options) : Nat → List String → Parsed → Except String Parsed
  | 0, ws, p => .ok { p with words := p.words ++ ws }
  | room + 1, ws, p =>
    match ws with
    | [] => .ok p
    | w :: rest =>
      match w.toList with
      | ['-', '-'] => .ok { p with words := p.words ++ rest }
      | '-' :: '-' :: _ =>
        match longOption o w rest with
        | .ok (found, rest) => parseWithin o room rest { p with options := p.options ++ found }
        | .error m => .error m
      | '-' :: c :: cs =>
        match cluster o (c :: cs) rest [] with
        | .ok (found, rest) =>
          parseWithin o room rest { p with options := p.options ++ found.reverse }
        | .error m => .error m
      | _ =>
        if o.stopsEarly then .ok { p with words := p.words ++ ws }
        else parseWithin o room rest { p with words := p.words ++ [w] }

def parse (o : Options) (ws : List String) : Except String Parsed :=
  parseWithin o (ws.length + 1) ws {}

end Options

def withOptions (o : Options) (status : Nat) (l : Launch) (work : Parsed → Act Nat) : Act Nat := do
  match o.parse l.words with
  | .ok p => work p
  | .error message => misused l message status

def put (l : Launch) (text : String) : Act Nat := do
  if text.isEmpty then return 0
  match ← Act.say 1 text with
  | .ok () => return 0
  | .error e => do
    complain l ("write error: " ++ e.reason)
    return 1

def quoted (s : String) : String := "'" ++ s ++ "'"

def content (path : String) : Act (Except OsError Utf8.Octets) := do
  if path = "-" then Act.readAll 0
  else
    match ← Act.openAt 3 path .reading false with
    | .error e => return .error e
    | .ok number => do
      let octets ← Act.readAll number
      Act.close number
      return octets

def each {α : Type} (work : α → Act Nat) : List α → Nat → Act Nat
  | [], status => return status
  | a :: rest, status => do
    let n ← work a
    each work rest (max status n)

def linesWithin : Nat → List Char → List (List Char) × Bool
  | 0, _ => ([], true)
  | _, [] => ([], true)
  | room + 1, s =>
    let line := s.takeWhile (· ≠ '\n')
    match s.drop line.length with
    | [] => ([line], false)
    | _ :: rest =>
      let (others, isEnded) := linesWithin room rest
      (line :: others, isEnded)

def lines (s : String) : List (List Char) × Bool := linesWithin (s.length + 1) s.toList

def joinLines (ls : List (List Char)) : String :=
  String.ofList (ls.flatMap fun l => l ++ ['\n'])

def number? (s : String) : Option Nat :=
  if s ≠ "" && s.toList.all Decimal.isDigit then some (Decimal.value s.toList) else none

def padLeft (width : Nat) (s : String) : String :=
  String.ofList (List.replicate (width - s.length) ' ') ++ s

def padRight (width : Nat) (s : String) : String :=
  s ++ String.ofList (List.replicate (width - s.length) ' ')

def baseName (path : String) : String :=
  let cs := path.toList
  let body := (cs.reverse.dropWhile (· == '/')).reverse
  if body.isEmpty then if cs.isEmpty then "" else "/"
  else String.ofList (body.reverse.takeWhile (· ≠ '/')).reverse

def directoryName (path : String) : String :=
  let cs := path.toList
  let body := (cs.reverse.dropWhile (· == '/')).reverse
  let front := (body.reverse.dropWhile (· ≠ '/')).dropWhile (· == '/')
  if !front.isEmpty then String.ofList front.reverse
  else if cs.head? == some '/' then "/" else "."

end Converge.Tool
