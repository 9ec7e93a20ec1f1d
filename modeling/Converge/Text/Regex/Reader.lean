import Converge.Text.Basic
import Converge.Text.Regex.Basic

set_option autoImplicit false

namespace Converge.Text.Regex

/-- What is left to read, and how many groups have begun and have ended. -/
structure Draft where
  rest : List Char
  isExtended : Bool
  begun : Nat := 0
  closed : List Nat := []
  depth : Nat := 0
  atFront : Bool := true

abbrev Read := StateT Draft (Except String)

def drop (n : Nat) : Read Unit := modify fun d => { d with rest := d.rest.drop n }

-- A sign with a meaning, and how long it is written.
def signAt? (isExtended : Bool) : List Char → Option (Char × Nat)
  | '\\' :: c :: _ => if !isExtended && ['(', ')', '\x7b', '\x7d', '|', '+', '?'].contains c then some (c, 2) else none
  | c :: _ =>
    if c = '*' then some ('*', 1)
    else if isExtended && ['(', ')', '\x7b', '|', '+', '?'].contains c then some (c, 1)
    else none
  | [] => none

def endpoint (s : List Char) : Read (Char × List Char) := do
  match s with
  | '[' :: k :: rest =>
    if k = '.' || k = '=' then
      match rest with
      | c :: k' :: ']' :: rest =>
        if k = k' then return (c, rest) else throw "Invalid collation character"
      | _ => throw "Invalid collation character"
    else return ('[', k :: rest)
  | c :: rest => return (c, rest)
  | [] => throw "Unmatched [, [^, [:, [., or [="

def className? (s : List Char) : Option (String × List Char) :=
  match s with
  | '[' :: ':' :: rest =>
    let name := rest.takeWhile fun c => c ≠ ':' && c ≠ ']'
    match rest.drop name.length with
    | ':' :: ']' :: rest => some (String.ofList name, rest)
    | _ => none
  | _ => none

def members : Nat → Bool → List Member → List Char → Read (List Member × List Char)
  | 0, _, _, _ => throw "Unmatched [, [^, [:, [., or [="
  | _, _, _, [] => throw "Unmatched [, [^, [:, [., or [="
  | room + 1, isFirst, done, c :: s => do
    if c = ']' && !isFirst then return (done.reverse, s)
    match className? (c :: s) with
    | some (name, rest) =>
      if Member.classNames.contains name then members room false (.class_ name :: done) rest
      else throw "Invalid character class name"
    | none =>
      let (low, rest) ← endpoint (c :: s)
      match rest with
      | '-' :: next :: after =>
        if next = ']' then members room false (.range low low :: done) rest
        else
          let (high, rest) ← endpoint (next :: after)
          if high < low then throw "Invalid range end"
          members room false (.range low high :: done) rest
      | rest => members room false (.range low low :: done) rest

def set : Read Regex := do
  let d ← get
  let isNegated := d.rest.head? == some '^'
  let s := if isNegated then d.rest.drop 1 else d.rest
  if s.isEmpty && !isNegated then throw "Invalid regular expression"
  let (ms, rest) ← members (s.length + 1) true [] s
  modify fun d => { d with rest := rest }
  return .oneOf isNegated ms

/-- Does a line's end stand here? In the basic spelling only the end of a part is one. -/
def isFinish (isExtended : Bool) (rest : List Char) : Bool :=
  isExtended || match rest with
    | [] | '\\' :: ')' :: _ | '\\' :: '|' :: _ => true
    | _ => false

def word : Regex := .oneOf false [.class_ "alnum", .range '_' '_']

def escaped (c : Char) : Read Regex := do
  match c with
  | 'w' => return word
  | 'W' => return .oneOf true [.class_ "alnum", .range '_' '_']
  | 's' => return .oneOf false [.class_ "space"]
  | 'S' => return .oneOf true [.class_ "space"]
  | '<' => return .wordStart
  | '>' => return .wordEnd
  | 'b' => return .wordEdge
  | 'B' => return .noWordEdge
  | '\'' => return .lineEnd
  | c =>
    if c = Char.ofNat 96 then return .lineStart
    else if '1' ≤ c && c ≤ '9' then
      let n := c.toNat - 48
      if (← get).closed.contains n then return .back n else throw "Invalid back reference"
    else return .char c

def largestCount : Nat := 32767

def count? (isExtended : Bool) (s : List Char) : Option (Option Nat × Option Nat × Bool × List Char) :=
  let low := s.takeWhile Decimal.isDigit
  let rest := s.drop low.length
  let (hasComma, high, rest) := match rest with
    | ',' :: rest =>
      let high := rest.takeWhile Decimal.isDigit
      (true, high, rest.drop high.length)
    | rest => (false, [], rest)
  let value (digits : List Char) : Option Nat :=
    if digits.isEmpty then none else some (Decimal.value digits)
  let ending := if isExtended then ['\x7d'] else ['\\', '\x7d']
  if ending.isPrefixOf rest then
    some (value low, value high, hasComma, rest.drop ending.length)
  else none

def repeated : Nat → Regex → Read Regex
  | 0, r => return r
  | room + 1, r => do
    let d ← get
    match signAt? d.isExtended d.rest with
    | some ('*', n) => do
      drop n
      repeated room (.times r 0 none)
    | some ('+', n) => do
      drop n
      repeated room (.times r 1 none)
    | some ('?', n) => do
      drop n
      repeated room (.times r 0 (some 1))
    | some ('\x7b', n) =>
      match count? d.isExtended (d.rest.drop n) with
      | some (low, high, hasComma, rest) => do
        if low.isNone && !hasComma then
          if d.isExtended then return r else throw "Invalid content of \\\x7b\\\x7d"
        let least := low.getD 0
        let most := if hasComma then high else some least
        if most.any (· < least) then throw "Invalid content of \\\x7b\\\x7d"
        if largestCount < least || most.any (largestCount < ·) then
          throw "Regular expression too big"
        modify fun d => { d with rest := rest }
        repeated room (.times r least most)
      | none =>
        if d.isExtended then return r
        else if (d.rest.drop n).any (· == '\x7d') then throw "Invalid content of \\\x7b\\\x7d"
        else throw "Unmatched \\\x7b"
    | _ => return r

def choice : List Regex → Regex
  | [] => .empty
  | [r] => r
  | r :: rest => .either r (choice rest)

def row : List Regex → Regex
  | [] => .empty
  | [r] => r
  | r :: rest => .sequence r (row rest)

/-- Reads parts up to the end or up to the end of a group. `branch` and `done` are backwards. -/
def body : Nat → List Regex → List Regex → Read Regex
  | 0, _, _ => throw "Regular expression too big"
  | room + 1, branch, done => do
    let d ← get
    let finished : Regex := choice ((row branch.reverse :: done).reverse)
    match d.rest with
    | [] =>
      if 0 < d.depth then throw "Unmatched ( or \\("
      return finished
    | c :: rest =>
      let isFront := branch.isEmpty
      let put (r : Regex) : Read Regex := do
        let r ← repeated (rest.length + 1) r
        body room (r :: branch) done
      match signAt? d.isExtended d.rest with
      | some ('(', n) => do
        let number := d.begun + 1
        modify fun d => { d with rest := d.rest.drop n, begun := number, depth := d.depth + 1 }
        let inside ← body room [] []
        modify fun d => { d with closed := number :: d.closed, depth := d.depth - 1 }
        put (.group number inside)
      | some (')', n) => do
        if d.depth = 0 then
          if d.isExtended then
            drop n
            put (.char ')')
          else throw "Unmatched ) or \\)"
        else
          drop n
          return finished
      | some ('|', n) => do
        drop n
        body room [] (row branch.reverse :: done)
      | some (sign, n) => do
        -- With nothing to repeat, the sign stands for itself, or for nothing.
        drop n
        if sign = '\x7b' && d.isExtended then
          match isFront, count? true rest with
          | true, some (_, _, _, rest) => do
            modify fun d => { d with rest := rest }
            body room branch done
          | _, _ => put (.char sign)
        else if d.isExtended then body room branch done
        else if sign = '\x7b' then throw "Invalid preceding regular expression"
        else put (.char sign)
      | none => do
        drop 1
        match c with
        | '.' => put .any
        | '[' => do put (← set)
        | '^' =>
          if d.isExtended then body room (.lineStart :: branch) done
          else if isFront then body room [.lineStart] done
          else put (.char '^')
        | '$' => if isFinish d.isExtended rest then put .lineEnd else put (.char '$')
        | '\\' =>
          match rest with
          | [] => throw "Trailing backslash"
          | c :: _ => do
            drop 1
            put (← escaped c)
        | c => put (.char c)

-- Reads a whole expression, or tells what is wrong with it.
def ofText (isExtended : Bool) (s : String) : Except String Regex :=
  let cs := s.toList
  match (body (2 * cs.length + 2) [] []).run { rest := cs, isExtended := isExtended } with
  | .ok (r, _) => .ok r
  | .error e => .error e

def literal (s : String) : Regex := row (s.toList.map .char)

end Converge.Text.Regex
