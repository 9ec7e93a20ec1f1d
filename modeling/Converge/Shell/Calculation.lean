import Converge.Shell.Arithmetic
import Converge.Shell.Source

set_option autoImplicit false
set_option maxRecDepth 2000

namespace Converge.Shell.Calculation

open Arithmetic
open Converge.Text

inductive Token where
  | finish
  | number
  | name
  | sign (s : String)
  | assignment (operation : String)
  -- One up or down, before a name or behind it.
  | step (isBefore isUp : Bool)
  | condition
  deriving DecidableEq

structure Cursor (σ : Type) where
  source : List Char
  rest : List Char
  last : List Char := []
  token : Token := .finish
  before : Token := .finish
  value : Int := 0
  name : Option String := none
  isIdle : Bool := false
  store : σ

variable {σ : Type}

abbrev Calc (σ : Type) := StateT (Cursor σ) (Except String)

def message (source last : List Char) (reason : String) : String :=
  String.ofList source ++ ": " ++ reason ++ " (error token is \"" ++ String.ofList last ++ "\")"

def fault {α : Type} (reason : String) : Calc σ α := do
  let c ← get
  throw (message c.source c.last reason)

def digit (base : Nat) (c : Char) : Nat :=
  if Decimal.isDigit c then c.toNat - 48
  else if 'a' ≤ c && c ≤ 'z' then c.toNat - 87
  else if 'A' ≤ c && c ≤ 'Z' then if base ≤ 36 then c.toNat - 55 else c.toNat - 29
  else if c = '@' then 62
  else 63

def isNumberChar (c : Char) : Bool := c.isAlphanum || c == '@' || c == '_'

def digits (base : Nat) (isGiven : Bool) (n : Nat) : List Char → Except String Nat
  | [] => .ok n
  | '#' :: s =>
    if isGiven then .error "invalid number"
    else if n < 2 || 64 < n then .error "invalid arithmetic base"
    else if s.head?.all fun c => !isNumberChar c then .error "invalid integer constant"
    else digits n true 0 s
  | c :: s =>
    if base ≤ digit base c then .error "value too great for base"
    else digits base isGiven (n * base + digit base c) s

def numeral (s : List Char) : Except String Int :=
  let n := match s with
    | '0' :: x :: rest => if x = 'x' || x = 'X' then digits 16 true 0 rest else digits 8 true 0 (x :: rest)
    | s => digits 10 false 0 s
  n.map fun n => wrap n

def subscript? : Nat → List Char → Option (List Char)
  | _, [] => none
  | depth, '[' :: s => (subscript? (depth + 1) s).map ('[' :: ·)
  | 0, ']' :: _ => some []
  | depth + 1, ']' :: s => (subscript? depth s).map (']' :: ·)
  | depth, c :: s => (subscript? depth s).map (c :: ·)

def isNameStart (c : Char) : Bool := c.isAlpha || c == '_'

def longSigns : List String := ["==", "!=", ">=", "<=", "<<", ">>", "&&", "||", "**"]

def shortSigns : List Char := "=><+-*/%!()&|^~?:,".toList

def signAt (token before : Token) (c : Char) (s : List Char) : Except String (Token × List Char) :=
  let followsName := s.drop 1 |>.dropWhile isSpace |>.head?.any isNameStart
  match s with
  | d :: rest =>
    let pair := String.ofList [c, d]
    if (pair = "<<" || pair = ">>") && rest.head? == some '=' then .ok (.assignment pair, rest.drop 1)
    else if longSigns.contains pair then .ok (.sign pair, rest)
    else if (pair = "++" || pair = "--") && token = .name then .ok (.step false (c = '+'), rest)
    else if (pair = "++" || pair = "--") && token = .number &&
        (before = .step true true || before = .step true false) then
      .error (pair ++ ": assignment requires lvalue")
    else if (pair = "++" || pair = "--") && followsName then .ok (.step true (c = '+'), rest)
    else if d = '=' && "*/%+-&^|".toList.contains c then .ok (.assignment (String.singleton c), rest)
    else single s
  | [] => single s
where
  single (s : List Char) : Except String (Token × List Char) :=
    if shortSigns.contains c then .ok (.sign (String.singleton c), s)
    else match token with
      | .number | .name => .error "syntax error: invalid arithmetic operator"
      | _ => .error "syntax error: operand expected"

-- Goes on to the next token. The value of a name is looked up unless it is going to be set.
def advance (r : Store σ) : Calc σ Unit := do
  let c ← get
  let previous := c.token
  match c.rest.dropWhile isSpace with
  | [] => set { c with before := previous, token := .finish, rest := [] }
  | x :: s =>
    let here := x :: s
    set { c with last := here }
    if isNameStart x then
      let base := here.takeWhile fun d => d.isAlphanum || d == '_'
      let behind := here.drop base.length
      let index ← match behind with
        | '[' :: inside =>
          match subscript? 0 inside with
          | some i => pure ('[' :: i ++ [']'])
          | none => fault "bad array subscript"
        | _ => pure []
      let name := String.ofList (base ++ index)
      let rest := behind.drop index.length
      let isSet := match rest.dropWhile isSpace, previous with
        | _, .step true _ => false
        | '=' :: '=' :: _, _ => false
        | '=' :: _, _ => true
        | _, _ => false
      let value ← if c.isIdle || isSet then pure 0 else
        match r.get c.store name with
        | .ok n => pure n
        | .error m => throw m
      modify fun c => { c with
        before := previous, token := .name, name := some name, value := value, rest := rest }
    else if Decimal.isDigit x then
      let written := here.takeWhile fun d => isNumberChar d || d == '#'
      let rest := here.drop written.length
      match numeral written with
      | .ok n => modify fun c => { c with before := previous, token := .number, value := n, rest := rest }
      | .error reason =>
        throw (message (c.source.take (c.source.length - rest.length)) written reason)
    else
      match signAt previous c.before x s with
      | .ok (token, rest) => modify fun c => { c with before := previous, token := token, rest := rest }
      | .error reason => fault reason

def write (r : Store σ) (name : String) (n : Int) : Calc σ Unit := do
  let c ← get
  if !c.isIdle then
    match r.set c.store name n with
    | .ok store => set { c with store := store }
    | .error m => throw m

def onlyIf {α : Type} (isWanted : Bool) (work : Calc σ α) : Calc σ α := do
  let before := (← get).isIdle
  modify fun c => { c with isIdle := before || !isWanted }
  let a ← work
  modify fun c => { c with isIdle := before }
  return a

def levels : List (List String) :=
  [["|"], ["^"], ["&"], ["==", "!="], ["<=", ">=", "<", ">"], ["<<", ">>"], ["+", "-"], ["*", "/", "%"]]

def powerWithin : Nat → Int → Nat → Int → Int
  | 0, _, _, n => n
  | room + 1, a, exponent, n =>
    if exponent = 0 then n
    else
      powerWithin room (wrap (a * a)) (exponent / 2) (if exponent % 2 = 1 then wrap (n * a) else n)

def power (a : Int) (exponent : Nat) : Int := powerWithin 64 a exponent 1

def applied (sign : String) (a b : Int) : Calc σ Int := do
  let isByZero := (sign = "/" || sign = "%") && b = 0
  if isByZero && !(← get).isIdle then fault "division by 0"
  return (apply sign a (if isByZero then 1 else b)).toOption.getD 0

mutual

def primary (r : Store σ) : Nat → Calc σ Int
  | 0 => fault "syntax error: operand expected"
  | room + 1 => do
    match (← get).token with
    | .step true isUp => do
      let step := (← get).token
      modify fun c => { c with before := step }
      advance r
      let c ← get
      let n := wrap (c.value + if isUp then 1 else -1)
      write r (c.name.getD "") n
      modify fun c => { c with token := .number }
      advance r
      return n
    | .sign "(" => do
      advance r
      let n ← several r room
      if (← get).token ≠ .sign ")" then
        fault ("missing " ++ Read.inMarks ")")
      advance r
      return n
    | .number => do
      let n := (← get).value
      advance r
      return n
    | .name => do
      let c ← get
      advance r
      match (← get).token with
      | .step false isUp => do
        write r (c.name.getD "") (wrap (c.value + if isUp then 1 else -1))
        modify fun c => { c with token := .number }
        advance r
        return c.value
      | _ => return c.value
    | _ => fault "syntax error: operand expected"

def signed (r : Store σ) : Nat → Calc σ Int
  | 0 => fault "syntax error: operand expected"
  | room + 1 => do
    let change (f : Int → Int) : Calc σ Int := do
      advance r
      let n ← signed r room
      modify fun c => { c with before := .number }
      return f n
    match (← get).token with
    | .sign "!" => change fun n => ofTruth (n = 0)
    | .sign "~" => change fun n => wrap (-n - 1)
    | .sign "-" => change fun n => wrap (-n)
    | .sign "+" => change id
    | _ => primary r room

def powered (r : Store σ) : Nat → Calc σ Int
  | 0 => fault "syntax error: operand expected"
  | room + 1 => do
    let a ← signed r room
    if (← get).token = .sign "**" then
      advance r
      let b ← powered r room
      modify fun c => { c with before := .number }
      if b < 0 then fault "exponent less than 0"
      return power a b.toNat
    return a

def operations (r : Store σ) : Nat → List (List String) → Calc σ Int
  | 0, _ => fault "syntax error: operand expected"
  | room + 1, [] => powered r room
  | room + 1, signs :: tighter => do
    let a ← operations r room tighter
    further r room signs tighter a

def further (r : Store σ) : Nat → List String → List (List String) → Int → Calc σ Int
  | 0, _, _, a => return a
  | room + 1, signs, tighter, a => do
    match (← get).token with
    | .sign sign =>
      if !signs.contains sign then return a
      let operand := (← get).rest.dropWhile isSpace
      advance r
      let b ← operations r room tighter
      let last := (← get).last
      if b = 0 then modify fun c => { c with last := operand }
      let n ← applied sign a b
      modify fun c => { c with before := .number, last := last }
      further r room signs tighter n
    | _ => return a

def conjunction (r : Store σ) : Nat → Calc σ Int
  | 0 => fault "syntax error: operand expected"
  | room + 1 => do
    let a ← operations r room levels
    conjoined r room a

def conjoined (r : Store σ) : Nat → Int → Calc σ Int
  | 0, a => return a
  | room + 1, a => do
    if (← get).token ≠ .sign "&&" then return a
    let b ← onlyIf (a ≠ 0) do
      advance r
      operations r room levels
    modify fun c => { c with before := .sign "&&" }
    conjoined r room (ofTruth (a ≠ 0 && b ≠ 0))

def disjunction (r : Store σ) : Nat → Calc σ Int
  | 0 => fault "syntax error: operand expected"
  | room + 1 => do
    let a ← conjunction r room
    disjoined r room a

def disjoined (r : Store σ) : Nat → Int → Calc σ Int
  | 0, a => return a
  | room + 1, a => do
    if (← get).token ≠ .sign "||" then return a
    let b ← onlyIf (a = 0) do
      advance r
      conjunction r room
    modify fun c => { c with before := .sign "||" }
    disjoined r room (ofTruth (a ≠ 0 || b ≠ 0))

def choice (r : Store σ) : Nat → Calc σ Int
  | 0 => fault "syntax error: operand expected"
  | room + 1 => do
    let a ← disjunction r room
    if (← get).token ≠ .sign "?" then return a
    let b ← onlyIf (a ≠ 0) do
      advance r
      if (← get).token = .finish || (← get).token = .sign ":" then fault "expression expected"
      several r room
    if (← get).token ≠ .sign ":" then
      fault (Read.inMarks ":" ++ " expected for conditional expression")
    let c ← onlyIf (a = 0) do
      advance r
      if (← get).token = .finish then fault "expression expected"
      choice r room
    modify fun c => { c with before := .condition }
    return if a ≠ 0 then b else c

def assigned (r : Store σ) : Nat → Calc σ Int
  | 0 => fault "syntax error: operand expected"
  | room + 1 => do
    let a ← choice r room
    let c ← get
    let operation? : Option String := match c.token with
      | .sign "=" => some ""
      | .assignment operation => some operation
      | _ => none
    match operation? with
    | none => return a
    | some operation => do
      if c.before ≠ .name then fault "attempted assignment to non-variable"
      advance r
      let b ← assigned r room
      let n ← if operation = "" then pure b else applied operation a b
      write r (c.name.getD "") n
      return n

def several (r : Store σ) : Nat → Calc σ Int
  | 0 => fault "syntax error: operand expected"
  | room + 1 => do
    let n ← assigned r room
    if (← get).token = .sign "," then
      advance r
      several r room
    else return n

end

def evaluate (r : Store σ) (store : σ) (s : List Char) : Except String (Int × σ) :=
  let source := s.dropWhile isSpace
  let work : Calc σ Int := do
    if source.isEmpty then return 0
    advance r
    let n ← several r (24 * source.length + 64)
    if (← get).token ≠ .finish then fault "syntax error in expression"
    return n
  (work.run { source := source, rest := source, store := store }).map fun (n, c) => (n, c.store)

end Converge.Shell.Calculation
