import Converge.Shell.Builtin.Parameters

set_option autoImplicit false
set_option maxRecDepth 2000

namespace Converge.Shell.Builtin

open Eval
open Converge.Process

def doubleQuoted (s : String) : String :=
  "\"" ++ String.ofList (s.toList.flatMap fun c =>
    if ['"', '\\', '$', Read.backquote].contains c then ['\\', c] else [c]) ++ "\""

def declaration (name : String) (v : Variable) : String :=
  let letters := (if v.isAssociative then "A" else if v.elements.isSome then "a" else "") ++
    (if v.isInteger then "i" else "") ++ (if v.isReadonly then "r" else "") ++
      if v.isExported then "x" else ""
  let front := "declare -" ++ (if letters = "" then "-" else letters) ++ " " ++ name
  match v.elements, v.value with
  | some _, _ =>
    let shown := (Expansion.elementsOf v).map fun (i, s) => "[" ++ i ++ "]=" ++ doubleQuoted s
    front ++ "=(" ++ String.intercalate " " shown ++
      (if v.isAssociative && !shown.isEmpty then " " else "") ++ ")"
  | none, some s => front ++ "=" ++ doubleQuoted s
  | none, none => front

-- Words of options at the front: the letters that are switched on, those that are switched off, and
-- the words behind.
def switches : List String → List Char → List Char → List Char × List Char × List String
  | [], on, off => (on, off, [])
  | w :: rest, on, off =>
    match w.toList with
    | ['-', '-'] => (on, off, rest)
    | '-' :: c :: cs => switches rest (on ++ c :: cs) off
    | '+' :: c :: cs => switches rest on (off ++ c :: cs)
    | _ => (on, off, w :: rest)

def withLetters (on off : List Char) (v : Variable) : Variable :=
  let flag (c : Char) (old : Bool) : Bool := (old || on.contains c) && !off.contains c
  { v with
    isExported := flag 'x' v.isExported
    isInteger := flag 'i' v.isInteger
    isAssociative := v.isAssociative || on.contains 'A'
    elements := if on.contains 'a' || on.contains 'A' then
        some (v.elements.getD ((v.value.map fun s => ("0", s)).toList))
      else v.elements }

def declareOne (on off : List Char) (isLocal : Bool) (w : String) : Eval Unit := do
  let (left, value) := parted w
  let appends := left.endsWith "+"
  let name := if appends then String.ofList left.toList.dropLast else left
  checkName name
  if isLocal then
    let isNew := match (← get).locals with
      | frame :: _ => !frame.any (·.1 == name)
      | [] => false
    makeLocal name
    if isNew then modify fun sh => sh.put name {}
  modify fun sh => sh.put name (withLetters on off ((sh.find? name).getD {}))
  match value with
  | some s => do
    let v := ((← get).find? name).getD {}
    let old := if appends then v.first.getD "" else ""
    if v.isInteger then
      let n ← Expansion.calculate (if s = "" then "0" else s)
      assign name (toString n)
    else assign name (old ++ s)
  | none => pure ()
  if on.contains 'r' then
    modify fun sh => sh.put name { (sh.find? name).getD {} with isReadonly := true }

def declare : Builtin := fun ws => do
  let (on, off, names) := switches ws [] []
  let sh ← get
  if on.contains 'f' || on.contains 'F' then
    let statuses := names.map fun n => if (sh.functions.lookup n).isSome then 0 else 1
    if on.contains 'F' then
      let _ ← putLines (names.filter fun n => (sh.functions.lookup n).isSome)
    return statuses.foldl max 0
  if on.contains 'p' then
    if names.isEmpty then
      let sorted := sh.bindings.mergeSort fun a b => !(b.1 < a.1)
      return ← putLines (sorted.map fun (name, v) => declaration name v)
    let statuses ← names.mapM fun name => do
      match sh.find? name with
      | some v => putLine (declaration name v)
      | none => do
        report (name ++ ": not found")
        return 1
    return statuses.foldl max 0
  let isLocal := 0 < sh.depth && !on.contains 'g'
  for name in names do
    declareOne on off isLocal name
  return 0

def let_ : Builtin := fun ws => do
  if ws.isEmpty then
    report "expression expected"
    return 1
  let mut last : Int := 0
  for w in ws do
    match ← caught (Expansion.calculate w) with
    | .ok n => last := n
    | .error .error => return 1
    | .error .exit => throw Leave.exit
  return if last = 0 then 1 else 0

def shopt : Builtin := fun ws => do
  let (on, _, names) := switches ws [] []
  let sh ← get
  if on.contains 's' || on.contains 'u' then
    let others := sh.extras.filter fun x => !names.contains x
    set { sh with extras := if on.contains 's' then names ++ others else others }
    return 0
  if on.contains 'q' then return if names.all sh.extras.contains then 0 else 1
  let lines := names.map fun n =>
    padded 15 n ++ "\t" ++ if sh.extras.contains n then "on" else "off"
  let _ ← putLines lines
  return if names.all sh.extras.contains then 0 else 1

def linesOf : Nat → List Char → List (List Char)
  | 0, _ => []
  | _, [] => []
  | room + 1, s =>
    let line := s.takeWhile (· ≠ '\n')
    match s.drop line.length with
    | [] => [line]
    | _ :: rest => (line ++ ['\n']) :: linesOf room rest

def mapfile : Builtin := fun ws => do
  let (taken, names) ← options "td:n:O:s:u:C:c:" ws
  let name := names.headD "MAPFILE"
  let descriptor := ((taken.lookup 'u').bind fun s => Arithmetic.count? s.toList).getD 0
  let octets := (← act (Act.readAll descriptor)).toOption.getD []
  let text := (Text.Raw.ofOctets octets).toList
  let lines := linesOf (text.length + 1) text
  let strip (l : List Char) : String :=
    String.ofList (if taken.any (·.1 == 't') && l.getLast? == some '\n' then l.dropLast else l)
  let values := lines.map strip
  let es := (List.range values.length).zip values |>.map fun (i, s) => (toString i, s)
  modify fun sh => sh.put name { (sh.find? name).getD {} with elements := some es, value := none }
  return 0

end Converge.Shell.Builtin
