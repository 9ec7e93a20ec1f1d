import Converge.Shell.Expansion
import Converge.Shell.Test
import Converge.Text.Regex.Reader

set_option autoImplicit false

namespace Converge.Shell.Judgement

open Eval
open Converge.Process
open Converge.Text

def isSign (c : Char) : Bool := ".[]\\()*+?^$|\x7b\x7d".toList.contains c

def expression (marks : List Mark) : String :=
  String.ofList (marks.flatMap fun (c, isQuoted) => if isQuoted && isSign c then ['\\', c] else [c])

variable (e : Engine)

def isMatch (left : String) (right : Word) : Eval (Option Bool) := do
  let marks := Atom.marks (Expansion.atoms (← e.expand right { tilde := true }))
  match Regex.ofText true (expression marks) with
  | .error _ => return none
  | .ok r =>
    let subject : Regex.Subject := { text := left.toList.toArray }
    match Regex.find? subject r 0 with
    | none => do
      modify fun sh => sh.put "BASH_REMATCH" { elements := some [] }
      return some false
    | some (start, finish, taken) => do
      let count := taken.foldl (fun n g => max n g.1) 0
      let groups := (List.range count).map fun k =>
        (toString (k + 1), (Regex.groupText subject taken (k + 1)).getD "")
      let es := ("0", Regex.part subject start finish) :: groups
      modify fun sh => sh.put "BASH_REMATCH" { elements := some es }
      return some true

def compared (operator : String) (a b : Int) : Bool :=
  match operator with
  | "-eq" => a = b
  | "-ne" => a ≠ b
  | "-lt" => a < b
  | "-le" => a ≤ b
  | "-gt" => b < a
  | _ => b ≤ a

def isSet (sh : Interpreter) (name : String) : Bool :=
  match Expansion.found sh name with
  | .unset => false
  | _ => true

def one (operator operand : String) : Eval Bool := do
  let sh ← get
  match operator with
  | "-v" => return isSet sh operand
  | "-o" => return sh.extras.contains operand
  | operator => do
    let state ← act Act.get
    let scene : Test.Scene := ⟨state.settle, sh.self⟩
    return (scene.unary? (if operator = "-a" then "-e" else operator) operand).getD false

def holds : Condition → Eval (Option Bool)
  | .not c => do return (← holds c).map (!·)
  | .and a b => do
    match ← holds a with
    | some true => holds b
    | answer => return answer
  | .or a b => do
    match ← holds a with
    | some false => holds b
    | answer => return answer
  | .unary operator w => do
    let s ← Expansion.text e w { tilde := true }
    return some (← one operator s)
  | .binary operator left right => do
    let s ← Expansion.text e left { tilde := true }
    if operator = "=~" then isMatch e s right
    else if operator = "=" || operator = "==" || operator = "!=" then
      let items ← Expansion.pattern e right
      return some (Pattern.fits items s.toList == (operator ≠ "!="))
    else
      let t ← Expansion.text e right { tilde := true }
      if operator = "<" then return some (decide (s < t))
      else if operator = ">" then return some (decide (t < s))
      else if ["-eq", "-ne", "-lt", "-le", "-gt", "-ge"].contains operator then
        let numbers : Eval (Int × Int) := do
          let a ← Expansion.calculate (if s = "" then "0" else s)
          let b ← Expansion.calculate (if t = "" then "0" else t)
          return (a, b)
        -- An expression without a value is not equal to anything.
        match ← caught numbers with
        | .ok (a, b) => return some (compared operator a b)
        | .error .error => return some false
        | .error .exit => throw Leave.exit
      else
        let state ← act Act.get
        let sh ← get
        let scene : Test.Scene := ⟨state.settle, sh.self⟩
        return some (match operator with
          | "-nt" => scene.isNewer s t
          | "-ot" => scene.isNewer t s
          | _ => scene.state.isSame sh.self s t)

def status (c : Condition) : Eval Nat := do
  match ← holds e c with
  | some true => return 0
  | some false => return 1
  | none => return 2

end Converge.Shell.Judgement
