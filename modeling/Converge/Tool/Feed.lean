import Converge.Tool.Stream

set_option autoImplicit false

namespace Converge.Tool

open Converge.Process
open Converge.Text

/-- What has been read through a descriptor and not yet been asked for. -/
structure Feed where
  descriptor : Nat
  lines : List (List Char) := []
  -- The start of a line whose end has not been seen.
  rest : List Char := []
  isOver : Bool := false
  sign : Char := '\n'

namespace Feed

def cut (sign : Char) : List Char → List Char → List (List Char) → List (List Char) × List Char
  | [], part, done => (done.reverse, part.reverse)
  | c :: s, part, done =>
    if c = sign then cut sign s [] (part.reverse :: done) else cut sign s (c :: part) done

def fill : Nat → Feed → Act (Except OsError Feed)
  | 0, f => return .ok { f with isOver := true }
  | room + 1, f => do
    if f.isOver || !f.lines.isEmpty then return .ok f
    match ← Act.read f.descriptor chunkSize with
    | .error e => return .error e
    | .ok [] => return .ok { f with isOver := true }
    | .ok octets => do
      let (lines, rest) := cut f.sign (octets.map fun o => Char.ofNat o.toNat) f.rest.reverse []
      fill room { f with lines := lines, rest := rest }

def next (f : Feed) : Act (Except OsError (Option (List Char × Bool) × Feed)) := do
  match ← fill manyTimes f with
  | .error e => return .error e
  | .ok f =>
    match f.lines with
    | line :: lines => return .ok (some (line, true), { f with lines := lines })
    | [] =>
      if f.rest.isEmpty then return .ok (none, f)
      else return .ok (some (f.rest, false), { f with rest := [] })

def hasMore (f : Feed) : Act (Bool × Feed) := do
  match ← fill manyTimes f with
  | .error _ => return (false, { f with isOver := true })
  | .ok f => return (!f.lines.isEmpty || !f.rest.isEmpty, f)

def giveBack (f : Feed) : Act Unit :=
  Tool.giveBack f.descriptor (f.lines.foldl (fun n line => n + line.length + 1) f.rest.length)

end Feed

end Converge.Tool
