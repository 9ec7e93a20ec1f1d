import Converge.Process.Status
import Converge.Shell.Format

set_option autoImplicit false

namespace Converge.Shell.Test

open Converge.Process

structure Scene where
  state : State
  self : Nat

namespace Scene

def status? (scene : Scene) (path : String) : Option Status :=
  scene.state.status? scene.self true path

def hasMode (scene : Scene) (bit : Nat) (path : String) : Bool :=
  (scene.status? path).any fun s => s.mode &&& bit ≠ 0

def isKind (scene : Scene) (kind : Kind) (path : String) : Bool :=
  (scene.status? path).any fun s => s.kind = kind

def unary? (scene : Scene) (operator operand : String) : Option Bool :=
  match operator with
  | "-n" => some (operand ≠ "")
  | "-z" => some (operand = "")
  | "-f" => some (scene.isKind .file operand)
  | "-d" => some (scene.isKind .directory operand)
  | "-c" => some (scene.isKind .characters operand)
  | "-p" => some (scene.isKind .pipe operand)
  | "-b" | "-S" => some false
  | "-e" | "-r" | "-w" | "-O" | "-G" => some (scene.status? operand).isSome
  | "-x" => some ((scene.status? operand).any fun s => s.kind = .directory || s.mode &&& 0o111 ≠ 0)
  | "-s" => some ((scene.status? operand).any fun s => 0 < s.size)
  | "-h" | "-L" =>
    some ((scene.state.status? scene.self false operand).any fun s => s.kind = .link)
  | "-u" => some (scene.hasMode 0o4000 operand)
  | "-g" => some (scene.hasMode 0o2000 operand)
  | "-k" => some (scene.hasMode 0o1000 operand)
  | "-t" => some false
  | _ => none

def isNewer (scene : Scene) (a b : String) : Bool :=
  match scene.status? a, scene.status? b with
  | some x, some y => decide (y.time < x.time)
  | _, _ => false

end Scene

def unaryOperators : List String :=
  ["-r", "-w", "-x", "-e", "-f", "-d", "-c", "-b", "-p", "-u", "-g", "-k", "-s", "-t", "-z", "-n",
    "-h", "-O", "-G", "-L", "-S"]

def binaryOperators : List String :=
  ["=", "==", "!=", "<", ">", "-eq", "-ne", "-ge", "-gt", "-le", "-lt", "-nt", "-ot", "-ef"]

/-- Why a condition has no answer: the word that it stumbled over, and what is wrong. -/
structure Fault where
  word : String
  message : String

abbrev Read := StateT (List String) (Except Fault)

inductive Sign where
  | end_
  | operand
  | unary (s : String)
  | binary (s : String)
  | not
  | and
  | or
  | open_
  | close

def isBinary (w : String) : Bool := binaryOperators.contains w && w ≠ "=="

def isOperand : List String → Bool
  | [] | [_] => true
  | [_, _] => false
  | _ :: next :: _ => isBinary next

def signOf : List String → Sign
  | [] => .end_
  | w :: rest =>
    if unaryOperators.contains w then if isOperand (w :: rest) then .operand else .unary w
    else if isBinary w then .binary w
    else if w = "!" then .not
    else if w = "-a" then .and
    else if w = "-o" then .or
    else if w = "(" then if rest.isEmpty then .operand else .open_
    else if w = ")" then .close
    else .operand

def current : Read (List String) := get

def drop (n : Nat) : Read Unit := modify (List.drop n)

def integer (s : String) : Read Int := do
  match Arithmetic.integer? false s.toList with
  | some n => return n
  | none => throw ⟨"", "Illegal number: " ++ s⟩

variable (scene : Scene)

def binary (a operator b : String) : Read Bool := do
  match operator with
  | "=" | "==" => return a = b
  | "!=" => return a ≠ b
  | "<" => return a < b
  | ">" => return b < a
  | "-eq" => return (← integer a) = (← integer b)
  | "-ne" => return (← integer a) ≠ (← integer b)
  | "-lt" => return (← integer a) < (← integer b)
  | "-le" => return (← integer a) ≤ (← integer b)
  | "-gt" => return (← integer b) < (← integer a)
  | "-ge" => return (← integer b) ≤ (← integer a)
  | "-nt" => return scene.isNewer a b
  | "-ot" => return scene.isNewer b a
  | _ => return scene.state.isSame scene.self a b

mutual

def primary (sign : Sign) : Nat → Read Bool
  | 0 => return false
  | room + 1 => do
    match sign with
    | .end_ => return false
    | .open_ => do
      drop 1
      match signOf (← current) with
      | .close => return false
      | sign => do
        let b ← anyOf sign room false
        drop 1
        match signOf (← current) with
        | .close => return b
        | _ => throw ⟨"", "closing paren expected"⟩
    | .unary operator => do
      drop 1
      match ← current with
      | [] => throw ⟨operator, "argument expected"⟩
      | w :: _ =>
        if operator = "-t" then
          let _ ← integer w
          return false
        return (scene.unary? operator w).getD false
    | _ => do
      match ← current with
      | [] => return false
      | a :: rest =>
        match signOf rest with
        | .binary operator =>
          match rest with
          | _ :: b :: _ => do
            drop 2
            binary scene a operator b
          | _ => throw ⟨operator, "argument expected"⟩
        | _ => return a ≠ ""

def negated (sign : Sign) : Nat → Read Bool
  | 0 => return false
  | room + 1 => do
    match sign with
    | .not => do
      let next := signOf ((← current).drop 1)
      match next with
      | .end_ => pure ()
      | _ => drop 1
      return !(← negated next room)
    | sign => primary sign room

def allOf (sign : Sign) : Nat → Bool → Read Bool
  | 0, result => return result
  | room + 1, result => do
    let b ← negated sign room
    match signOf ((← current).drop 1) with
    | .and => do
      drop 2
      allOf (signOf (← current)) room (result && b)
    | _ => return result && b

def anyOf (sign : Sign) : Nat → Bool → Read Bool
  | 0, result => return result
  | room + 1, result => do
    let b ← allOf sign room true
    match signOf ((← current).drop 1) with
    | .or => do
      drop 2
      anyOf (signOf (← current)) room (result || b)
    | _ => return result || b

end

-- Short rows of words are read by their number first. The first truth value tells whether the
-- answer is turned round.
def shortened : Nat → Bool → List String → Bool × Bool × List String
  | 0, result, ws => (result, false, ws)
  | room + 1, result, ws =>
    let inParens := ws.head? == some "(" && ws.getLast? == some ")"
    match ws with
    | [_, operator, _] =>
      if isBinary operator then (result, true, ws)
      else if inParens then (result, false, (ws.drop 1).dropLast)
      else if ws.head? == some "!" then shortened room true (ws.drop 1)
      else (result, false, ws)
    | [_, _, _, _] =>
      if inParens then (result, false, (ws.drop 1).dropLast)
      else if ws.head? == some "!" then shortened room true (ws.drop 1)
      else (result, false, ws)
    | ws => (result, false, ws)

def holds (words : List String) : Except Fault Bool :=
  if words.isEmpty then .ok false
  else
    let (turned, isBinary, words) := shortened 5 false words
    let work : Read Bool := do
      let sign := if isBinary then .operand else signOf words
      let b ← anyOf scene sign (4 * words.length + 8) false
      match ← current with
      | w :: _ :: _ => throw ⟨w, "unexpected operator"⟩
      | _ => return b
    match work.run words with
    | .ok (b, _) => .ok (b != turned)
    | .error e => .error e

end Converge.Shell.Test
