import Converge.Shell.Arithmetic
import Converge.Text.Regex.Reader
import Converge.Tool.Basic

set_option autoImplicit false

namespace Converge.Tool.Expr

open Converge.Process
open Converge.Text

/-- The words that are left and the last one that was read. -/
structure Place where
  rest : List String
  last : String := ""

abbrev Read := StateT Place (Except String)

def next? (w : String) : Read Bool := do
  let p ← get
  match p.rest with
  | first :: rest =>
    if first = w then
      set ({ rest := rest, last := w } : Place)
      return true
    else return false
  | [] => return false

def integer? (s : String) : Option Int :=
  let digits := match s.toList with
    | '-' :: rest => rest
    | rest => rest
  if digits.isEmpty || !digits.all Decimal.isDigit then none
  else some (if s.startsWith "-" then -Int.ofNat (Decimal.value digits) else Int.ofNat (Decimal.value digits))

def isNull (s : String) : Bool :=
  s = "" || match s.toList with
    | '-' :: rest => !rest.isEmpty && rest.all (· == '0')
    | rest => rest.all (· == '0')

def matched (s pattern : String) : Except String String :=
  match Regex.ofText false pattern with
  | .error m => .error m
  | .ok r =>
    let t : Regex.Subject := { text := s.toList.toArray }
    let hasGroups := 0 < r.groupCount
    match Regex.fitAt? t r 0 with
    | none => .ok (if hasGroups then "" else "0")
    | some (finish, taken) =>
      .ok (if hasGroups then (Regex.groupText t taken 1).getD "" else toString finish)

def operate (operator : String) (isIdle : Bool) (a b : String) : Except String String :=
  if isIdle then .ok ""
  else
    match integer? a, integer? b with
    | some m, some n =>
      match operator with
      | "+" => .ok (toString (m + n))
      | "-" => .ok (toString (m - n))
      | "*" => .ok (toString (m * n))
      | operator =>
        if n = 0 then .error "division by zero"
        else .ok (toString (if operator = "/" then m.tdiv n else m.tmod n))
    | _, _ => .error "non-integer argument"

def compared (operator a b : String) : String :=
  let order : Ordering := match integer? a, integer? b with
    | some m, some n => compare m n
    | _, _ => if a = b then .eq else if a < b then .lt else .gt
  let holds : Bool := match operator with
    | "<" => order == .lt
    | "<=" => order != .gt
    | "=" | "==" => order == .eq
    | "!=" => order != .eq
    | ">=" => order != .lt
    | _ => order == .gt
  if holds then "1" else "0"

def substring (s : String) (start count : String) : String :=
  match integer? start, integer? count with
  | some i, some n =>
    if i < 1 || n < 1 then ""
    else String.ofList ((s.toList.drop (i.toNat - 1)).take n.toNat)
  | _, _ => ""

def indexOf (s set_ : String) : Nat :=
  match s.toList.findIdx? fun c => set_.toList.contains c with
  | some k => k + 1
  | none => 0

def operator? : List String → Read (Option String)
  | [] => return none
  | w :: rest => do
    if ← next? w then return some w
    operator? rest

def needMore : Read Unit := do
  let p ← get
  if p.rest.isEmpty then throw ("syntax error: missing argument after " ++ quoted p.last)

def word : Read String := do
  needMore
  let p ← get
  match p.rest with
  | w :: rest => do
    set ({ rest := rest, last := w } : Place)
    return w
  | [] => return ""

mutual

def primary (isIdle : Bool) : Nat → Read String
  | 0 => return ""
  | room + 1 => do
    needMore
    if ← next? "(" then
      let v ← choice isIdle room
      let p ← get
      match p.rest with
      | [] => throw ("syntax error: expecting ')' after " ++ quoted p.last)
      | w :: _ =>
        if ← next? ")" then return v
        throw ("syntax error: expecting ')' instead of " ++ quoted w)
    if ← next? ")" then throw "syntax error: unexpected ')'"
    word

def function (isIdle : Bool) : Nat → Read String
  | 0 => return ""
  | room + 1 => do
    if ← next? "+" then word
    else if ← next? "length" then
      return toString (← function isIdle room).length
    else if ← next? "match" then
      let s ← function isIdle room
      let pattern ← function isIdle room
      if isIdle then return "" else matched s pattern
    else if ← next? "index" then
      let s ← function isIdle room
      let chars ← function isIdle room
      return toString (indexOf s chars)
    else if ← next? "substr" then
      let s ← function isIdle room
      let start ← function isIdle room
      let count ← function isIdle room
      return substring s start count
    else primary isIdle room

def matches_ (isIdle : Bool) : Nat → String → Read String
  | 0, v => return v
  | room + 1, v => do
    if ← next? ":" then
      let pattern ← function isIdle room
      let v ← if isIdle then pure "" else matched v pattern
      matches_ isIdle room v
    else return v

def product (isIdle : Bool) : Nat → Option String → Read String
  | 0, v => return v.getD ""
  | room + 1, none => do
    let first ← function isIdle room
    product isIdle room (some (← matches_ isIdle room first))
  | room + 1, some v => do
    match ← operator? ["*", "/", "%"] with
    | some o => do
      let first ← function isIdle room
      let right ← matches_ isIdle room first
      product isIdle room (some (← operate o isIdle v right))
    | none => return v

def sum (isIdle : Bool) : Nat → Option String → Read String
  | 0, v => return v.getD ""
  | room + 1, none => do sum isIdle room (some (← product isIdle room none))
  | room + 1, some v => do
    match ← operator? ["+", "-"] with
    | some o => do
      let right ← product isIdle room none
      sum isIdle room (some (← operate o isIdle v right))
    | none => return v

def comparison (isIdle : Bool) : Nat → Option String → Read String
  | 0, v => return v.getD ""
  | room + 1, none => do comparison isIdle room (some (← sum isIdle room none))
  | room + 1, some v => do
    match ← operator? ["<=", "<", "==", "=", "!=", ">=", ">"] with
    | some o => do
      let right ← sum isIdle room none
      comparison isIdle room (some (compared o v right))
    | none => return v

def both (isIdle : Bool) : Nat → Option String → Read String
  | 0, v => return v.getD ""
  | room + 1, none => do both isIdle room (some (← comparison isIdle room none))
  | room + 1, some v => do
    if ← next? "&" then
      let right ← comparison (isIdle || isNull v) room none
      both isIdle room (some (if isNull v || isNull right then "0" else v))
    else return v

def choice (isIdle : Bool) : Nat → Read String
  | 0 => return ""
  | room + 1 => do
    let v ← both isIdle room none
    choiceRest isIdle room v

def choiceRest (isIdle : Bool) : Nat → String → Read String
  | 0, v => return v
  | room + 1, v => do
    if ← next? "|" then
      let right ← both (isIdle || !isNull v) room none
      choiceRest isIdle room (if !isNull v then v else if isNull right then "0" else right)
    else return v

end

def value (ws : List String) : Except String String :=
  let work : Read String := do
    let v ← choice false (16 * ws.length + 16)
    match (← get).rest with
    | w :: _ => throw ("syntax error: unexpected argument " ++ quoted w)
    | [] => return v
  match work.run { rest := ws } with
  | .ok (v, _) => .ok v
  | .error m => .error m

def tool : Program := fun l => do
  let words := if l.words.head? == some "--" then l.words.drop 1 else l.words
  if words.isEmpty then return ← misused l "missing operand" 2
  match value words with
  | .error m => do
    complain l m
    return 2
  | .ok v => do
    let written ← put l (v ++ "\n")
    return if written ≠ 0 then 3 else if isNull v then 1 else 0

end Converge.Tool.Expr
