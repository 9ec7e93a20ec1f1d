import Converge.Toml.Draft
import Converge.Toml.Scalar

set_option autoImplicit false

namespace Converge.Toml.Grammar

open Converge.Text (Reader)
open Converge.Text.Reader
open Converge.Toml.Scalar

def depthLimit : Nat := 79

def keyLimit : Nat := 79

def blanks (s : List Char) : List Char := s.dropWhile isSpace

def isBare (c : Char) : Bool := c.isAlphanum || c == '-' || c == '_'

def simpleKey : Reader String
  | '"' :: s => basicString ('"' :: s)
  | '\'' :: s => literalString ('\'' :: s)
  | s => (run1 isBare s).map fun (cs, s) => (String.ofList cs, s)

def keyPart : Reader String := fun s => do
  let (part, s) ← simpleKey (blanks s)
  some (part, blanks s)

def key : Reader (List String × String) := fun s => do
  let (first, s) ← keyPart s
  let (rest, s) := many (fun s => do
    let (_, s) ← exactly ['.'] s
    keyPart s) s
  let parts := first :: rest
  if keyLimit < parts.length then none
  else some ((parts.dropLast, parts.getLastD first), s)

def comment : Reader Unit
  | '#' :: s => some ((), s.dropWhile isPlain)
  | _ => none

def lineEnd : Reader Unit
  | [] => some ((), [])
  | s => newline s

def trailing : Reader Unit := fun s =>
  let s := blanks s
  lineEnd (((comment s).map (·.2)).getD s)

-- Blanks, line ends and comments between the items of an array.
def between (s : List Char) : List Char :=
  (many (fun s =>
    ((satisfying isSpace s).map ((), ·.2)).orElse fun _ =>
      (newline s).orElse fun _ => comment s) s).2

def withoutComma : List Char → List Char
  | ',' :: s => s
  | s => s

mutual

def value (room : Nat) : Reader Toml
  | '"' :: s => (string ('"' :: s)).map fun (content, s) => (Toml.text content, s)
  | '\'' :: s => (string ('\'' :: s)).map fun (content, s) => (Toml.text content, s)
  | '[' :: s =>
    match room with
    | 0 => none
    | room + 1 => arrayBody room s
  | '\x7b' :: s =>
    match room with
    | 0 => none
    | room + 1 => inlineBody room s
  | 't' :: s => (literal "rue" s).map fun (_, s) => (Toml.boolean true, s)
  | 'f' :: s => (literal "alse" s).map fun (_, s) => (Toml.boolean false, s)
  | s => number s
  termination_by (room, 1)

-- An item of an array with what stands around it.
def item (room : Nat) : Reader Toml := fun s => do
  let (v, s) ← value room (between s)
  some (v, between s)
  termination_by (room, 2)

-- An array after its bracket; a comma may follow the last item.
def arrayBody (room : Nat) : Reader Toml := fun s =>
  let (items, s) :=
    match item room s with
    | none => ([], s)
    | some (first, s) =>
      let (rest, s) := many (fun s => do
        let (_, s) ← exactly [','] s
        item room s) s
      (first :: rest, withoutComma s)
  (exactly [']'] (between s)).map fun (_, s) => (Toml.array items, s)
  termination_by (room, 3)

def assignment (room : Nat) : Reader (List String × String × Toml) := fun s => do
  let ((path, name), s) ← key s
  let (_, s) ← exactly ['='] s
  let (v, s) ← value room (blanks s)
  some ((path, name, v), s)
  termination_by (room, 2)

def inlineBody (room : Nat) : Reader Toml := fun s => do
  let (items, s) :=
    match assignment room s with
    | none => ([], s)
    | some (first, s) =>
      let (rest, s) := many (fun s => do
        let (_, s) ← exactly [','] s
        let (next, s) ← assignment room s
        some (next, blanks s)) (blanks s)
      (first :: rest, s)
  let (_, s) ← exactly ['\x7d'] (blanks s)
  let v ← ofAssignments items
  some (v, s)
  termination_by (room, 3)

end

def header : Reader Statement
  | '[' :: '[' :: s => do
    let ((path, name), s) ← key s
    let (_, s) ← exactly [']', ']'] s
    some (.element path name, s)
  | '[' :: s => do
    let ((path, name), s) ← key s
    let (_, s) ← exactly [']'] s
    some (.header path name, s)
  | _ => none

def statement : Reader Statement := fun s =>
  match s with
  | '[' :: _ => header s
  | _ => (assignment depthLimit s).map fun ((path, name, v), s) => (.assign path name v, s)

def line : Reader (Option Statement) := fun s =>
  let s := blanks s
  if s.isEmpty then none
  else
    match trailing s with
    | some (_, s) => some (none, s)
    | none => do
      let (found, s) ← statement s
      let (_, s) ← trailing s
      some (some found, s)

def withoutMark : List Char → List Char
  | c :: s => if c = Char.ofNat 0xFEFF then s else c :: s
  | [] => []

end Converge.Toml.Grammar

namespace Converge.Toml

def parse? (text : String) : Option Toml := do
  let (found, rest) := Text.Reader.many Grammar.line (Grammar.withoutMark text.toList)
  if !(Grammar.blanks rest).isEmpty then none
  else
    let doc ← (found.filterMap id).foldlM Document.add ⟨[], []⟩
    some doc.finish

end Converge.Toml
