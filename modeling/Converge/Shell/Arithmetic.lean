import Converge.Shell.Tree
import Converge.Text.Basic

set_option autoImplicit false
set_option maxRecDepth 2000

namespace Converge.Shell.Arithmetic

open Converge.Text

def wrap (n : Int) : Int := Int.bmod n 0x10000000000000000

def largest : Int := 0x7FFFFFFFFFFFFFFF

def least : Int := -0x8000000000000000

def digitValue? (c : Char) : Option Nat :=
  if '0' ≤ c && c ≤ '9' then some (c.toNat - 48)
  else if 'a' ≤ c && c ≤ 'z' then some (c.toNat - 87)
  else if 'A' ≤ c && c ≤ 'Z' then some (c.toNat - 55)
  else none

def isDigitOf (base : Nat) (c : Char) : Bool := (digitValue? c).any (· < base)

def valueIn (base : Nat) (digits : List Char) : Nat :=
  digits.foldl (fun n c => n * base + (digitValue? c).getD 0) 0

-- The number at the front of a text without a sign, and what follows: hexadecimal behind `0x`,
-- octal behind `0`, else decimal.
def natural? (s : List Char) : Option (Nat × List Char) :=
  let taken (base : Nat) (s : List Char) : Option (Nat × List Char) :=
    let digits := s.takeWhile (isDigitOf base)
    if digits.isEmpty then none else some (valueIn base digits, s.drop digits.length)
  match s with
  | '0' :: x :: rest =>
    if (x = 'x' || x = 'X') && rest.head?.any (isDigitOf 16) then taken 16 rest
    else taken 8 s
  | s => taken 10 s

def isSpace (c : Char) : Bool := c == ' ' || ('\t' ≤ c && c ≤ '\r')

-- A number at the front of a text, with blanks and a sign before it, and what follows.
def leading? (anyBase : Bool) (s : List Char) : Option (Int × List Char) :=
  let s := s.dropWhile isSpace
  let digits (s : List Char) : Option (Nat × List Char) :=
    if anyBase then natural? s
    else
      let ds := s.takeWhile Decimal.isDigit
      if ds.isEmpty then none else some (Decimal.value ds, s.drop ds.length)
  match s with
  | '-' :: s => (digits s).map fun (n, rest) => (-(n : Int), rest)
  | '+' :: s => (digits s).map fun (n, rest) => ((n : Int), rest)
  | s => (digits s).map fun (n, rest) => ((n : Int), rest)

def whole? (anyBase : Bool) (s : List Char) : Option Int :=
  match leading? anyBase s with
  | some (n, rest) => if rest.all isSpace then some n else none
  | none => none

def integer? (anyBase : Bool) (s : List Char) : Option Int :=
  (whole? anyBase s).bind fun n => if least ≤ n && n ≤ largest then some n else none

def count? (s : List Char) : Option Nat :=
  if s.isEmpty || !s.all Decimal.isDigit || 0x80000000 ≤ Decimal.value s then none
  else some (Decimal.value s)

inductive Token where
  | number (n : Int)
  | name (s : String)
  | sign (s : String)
  | bad (s : List Char)
  deriving DecidableEq

def signs : List String :=
  ["<<=", ">>=", "<<", ">>", "<=", ">=", "==", "!=", "&&", "||", "+=", "-=", "*=", "/=", "%=", "&=",
    "|=", "^=", "<", ">", "=", "+", "-", "*", "/", "%", "&", "|", "^", "!", "~", "?", ":", "(", ")"]

def tokenAt (s : List Char) : Option (Token × List Char) :=
  match s.dropWhile isSpace with
  | [] => none
  | c :: s =>
    if Decimal.isDigit c then
      match natural? (c :: s) with
      | some (n, rest) => some (.number (min (n : Int) largest), rest)
      | none => some (.bad (c :: s), [])
    else if c.isAlpha || c == '_' then
      let name := (c :: s).takeWhile fun d => d.isAlphanum || d == '_'
      some (.name (String.ofList name), (c :: s).drop name.length)
    else
      match signs.find? fun sign => sign.toList.isPrefixOf (c :: s) with
      | some sign => some (.sign sign, (c :: s).drop sign.length)
      | none => some (.bad (c :: s), s)

structure Store (σ : Type) where
  get : σ → String → Except String Int
  set : σ → String → Int → Except String σ

inductive Fault where
  | expression (message : String)
  | variable_ (message : String)

structure Position (σ : Type) where
  rest : List Char
  store : σ

variable {σ : Type}

abbrev Calc (σ : Type) := StateT (Position σ) (Except Fault)

def strength? (sign : String) : Option Nat :=
  match sign with
  | "*" | "/" | "%" => some 0
  | "+" | "-" => some 1
  | "<<" | ">>" => some 2
  | "<" | "<=" | ">" | ">=" => some 3
  | "==" | "!=" => some 4
  | "&" => some 5
  | "^" => some 6
  | "|" => some 7
  | _ => none

def ofTruth (b : Bool) : Int := if b then 1 else 0

def bits (n : Int) : Nat := (n % 0x10000000000000000).toNat

def apply (sign : String) (a b : Int) : Except String Int :=
  let shift := (bits b) % 64
  match sign with
  | "*" => .ok (wrap (a * b))
  | "/" => if b = 0 then .error "division by zero" else .ok (wrap (a.tdiv b))
  | "%" => if b = 0 then .error "division by zero" else .ok (wrap (a.tmod b))
  | "+" => .ok (wrap (a + b))
  | "-" => .ok (wrap (a - b))
  | "<<" => .ok (wrap (a * (2 : Int).pow shift))
  | ">>" => .ok (a.fdiv ((2 : Int).pow shift))
  | "<" => .ok (ofTruth (a < b))
  | "<=" => .ok (ofTruth (a ≤ b))
  | ">" => .ok (ofTruth (b < a))
  | ">=" => .ok (ofTruth (b ≤ a))
  | "==" => .ok (ofTruth (a = b))
  | "!=" => .ok (ofTruth (a ≠ b))
  | "&" => .ok (wrap (bits a &&& bits b))
  | "^" => .ok (wrap (bits a ^^^ bits b))
  | _ => .ok (wrap (bits a ||| bits b))

def peek : Calc σ (Option Token) := do
  return (tokenAt (← get).rest).map (·.1)

def next : Calc σ (Option Token) := do
  let p ← get
  match tokenAt p.rest with
  | some (t, rest) =>
    set { p with rest := rest }
    return some t
  | none =>
    set { p with rest := [] }
    return none

def takes (sign : String) : Calc σ Bool := do
  if (← peek) = some (.sign sign) then
    let _ ← next
    return true
  return false

def read (r : Store σ) (name : String) : Calc σ Int := do
  match r.get (← get).store name with
  | .ok n => return n
  | .error e => throw (.variable_ e)

def write (r : Store σ) (name : String) (n : Int) : Calc σ Unit := do
  match r.set (← get).store name n with
  | .ok store => modify fun p => { p with store := store }
  | .error e => throw (.variable_ e)

def assignmentSign? (sign : String) : Option String :=
  if ["+=", "-=", "*=", "/=", "%=", "&=", "|=", "^=", "<<=", ">>="].contains sign then
    some (String.ofList sign.toList.dropLast)
  else if sign = "=" then some ""
  else none

def fault {α : Type} (message : String) : Calc σ α := throw (.expression message)

mutual

def operand (r : Store σ) (isIdle : Bool) : Nat → Calc σ Int
  | 0 => fault "expecting primary"
  | room + 1 => do
    match ← next with
    | some (.sign "(") => do
      let n ← assigned r isIdle room
      if !(← takes ")") then fault "expecting ')'"
      return n
    | some (.number n) => return n
    | some (.name s) => if isIdle then return 0 else read r s
    | some (.sign "+") => operand r isIdle room
    | some (.sign "-") => return wrap (-(← operand r isIdle room))
    | some (.sign "!") => return ofTruth ((← operand r isIdle room) = 0)
    | some (.sign "~") => return wrap (-(← operand r isIdle room) - 1)
    | _ => fault "expecting primary"

def operations (r : Store σ) (isIdle : Bool) (weakest : Nat) : Nat → Int → Calc σ Int
  | 0, a => return a
  | room + 1, a => do
    match ← peek with
    | some (.sign sign) =>
      match strength? sign with
      | some strength =>
        if weakest < strength then return a
        let _ ← next
        let first ← operand r isIdle room
        -- Operators that bind more tightly come first.
        let b ← if 0 < strength then operations r isIdle (strength - 1) room first else pure first
        let n ← if isIdle then pure b else
          match apply sign a b with
          | .ok n => pure n
          | .error e => fault e
        operations r isIdle weakest room n
      | none => return a
    | _ => return a

def conjunction (r : Store σ) (isIdle : Bool) : Nat → Calc σ Int
  | 0 => fault "expecting primary"
  | room + 1 => do
    let first ← operand r isIdle room
    let a ← operations r isIdle 7 room first
    if ← takes "&&" then
      let b ← conjunction r (isIdle || a = 0) room
      return ofTruth (a ≠ 0 && b ≠ 0)
    return a

def disjunction (r : Store σ) (isIdle : Bool) : Nat → Calc σ Int
  | 0 => fault "expecting primary"
  | room + 1 => do
    let a ← conjunction r isIdle room
    if ← takes "||" then
      let b ← disjunction r (isIdle || a ≠ 0) room
      return ofTruth (a ≠ 0 || b ≠ 0)
    return a

def choice (r : Store σ) (isIdle : Bool) : Nat → Calc σ Int
  | 0 => fault "expecting primary"
  | room + 1 => do
    let a ← disjunction r isIdle room
    if ← takes "?" then
      let b ← assigned r (isIdle || a = 0) room
      if !(← takes ":") then fault "expecting ':'"
      let c ← choice r (isIdle || a ≠ 0) room
      return if a ≠ 0 then b else c
    return a

def assigned (r : Store σ) (isIdle : Bool) : Nat → Calc σ Int
  | 0 => fault "expecting primary"
  | room + 1 => do
    let start ← get
    let target : Option (String × String) ← do
      match ← next with
      | some (.name s) => do
        match ← next with
        | some (.sign sign) => pure ((assignmentSign? sign).map fun sign => (s, sign))
        | _ => pure none
      | _ => pure none
    match target with
    | some (name, sign) => do
      let b ← assigned r isIdle room
      if isIdle then return b
      let n ← if sign = "" then pure b else do
        match apply sign (← read r name) b with
        | .ok n => pure n
        | .error e => fault e
      write r name n
      return n
    | none => do
      set start
      choice r isIdle room

end

def evaluate (r : Store σ) (store : σ) (s : List Char) : Except Fault (Int × σ) :=
  let work : Calc σ Int := do
    let n ← assigned r false (20 * s.length + 40)
    if (← peek).isSome then fault "expecting EOF"
    return n
  match work.run ⟨s, store⟩ with
  | .ok (n, p) => .ok (n, p.store)
  | .error e => .error e

end Converge.Shell.Arithmetic
