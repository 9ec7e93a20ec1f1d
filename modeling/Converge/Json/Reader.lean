import Converge.Json.Value
import Converge.Text.Reader

set_option autoImplicit false

namespace Converge.Json

structure Scaled where
  significand : Nat
  exponent : Int
  deriving DecidableEq, Repr

def significandLimit : Nat := 0x10000000000000000

def Scaled.fits (x : Scaled) (digit : Char) : Bool :=
  x.significand * 10 + Text.Decimal.digitValue digit < significandLimit

def Scaled.push (x : Scaled) (digit : Char) : Nat :=
  x.significand * 10 + Text.Decimal.digitValue digit

def Scaled.addWhole : Scaled → List Char → Scaled
  | x, [] => x
  | x, d :: ds =>
    if x.exponent = 0 && x.fits d then addWhole ⟨x.push d, 0⟩ ds
    else ⟨x.significand, x.exponent + (ds.length + 1)⟩

def Scaled.addFraction : Scaled → List Char → Scaled
  | x, [] => x
  | x, d :: ds => if x.fits d then addFraction ⟨x.push d, x.exponent - 1⟩ ds else x

-- Keeps the 53 leading bits, rounding to the nearest, a tie to the even neighbour.
def round53 (n : Nat) : Nat :=
  let excess := n.log2 + 1 - 53
  let unit := 1 <<< excess
  let low := n / unit
  let twice := 2 * (n % unit)
  let up := unit < twice || (twice == unit && low % 2 == 1)
  (if up then low + 1 else low) * unit

def rangeEnd : Nat := (1 <<< 1024) - (1 <<< 970)

def Scaled.inRange (x : Scaled) : Bool :=
  if x.significand = 0 || x.exponent ≤ 0 then true
  else if 308 < x.exponent then false
  else round53 x.significand * round53 (Nat.pow 10 x.exponent.toNat) < rangeEnd

end Converge.Json

namespace Converge.Json.Grammar

open Converge.Text (Reader)
open Converge.Text.Reader

def depthLimit : Nat := 127

def isSpace (c : Char) : Bool := c == ' ' || c == '\n' || c == '\t' || c == '\r'

def skip (s : List Char) : List Char := s.dropWhile isSpace

def mark (c : Char) : Reader Unit := fun s => exactly [c] (skip s)

def fourHex : Reader Nat := fun s => do
  let (digits, s) ← count isHex 4 s
  some (inBase 16 digits, s)

-- The character of an escape after its `u`; two halves of a pair make one.
def unicodeEscape : Reader Char := fun s => do
  let (first, s) ← fourHex s
  if 0xD800 ≤ first && first < 0xDC00 then
    let (_, s) ← exactly ['\\', 'u'] s
    let (second, s) ← fourHex s
    if 0xDC00 ≤ second && second < 0xE000 then
      some (Char.ofNat (0x10000 + (first - 0xD800) * 0x400 + (second - 0xDC00)), s)
    else none
  else
    let c ← charAt? first
    some (c, s)

def simpleEscape? : Char → Option Char
  | '"' => some '"'
  | '\\' => some '\\'
  | '/' => some '/'
  | 'b' => some '\x08'
  | 'f' => some '\x0c'
  | 'n' => some '\n'
  | 'r' => some '\r'
  | 't' => some '\t'
  | _ => none

def textChar : Reader Char
  | [] => none
  | '\\' :: 'u' :: rest => unicodeEscape rest
  | '\\' :: c :: rest => (simpleEscape? c).map (·, rest)
  | c :: rest => if c = '"' || c = '\\' || c.toNat < 0x20 then none else some (c, rest)

def textBody : Reader String := fun s => do
  let (cs, s) := many textChar s
  let (_, s) ← exactly ['"'] s
  some (String.ofList cs, s)

def wholePart : Reader (List Char) := fun s => do
  let (digits, s) ← run1 Text.Decimal.isDigit s
  if digits.head? == some '0' && digits ≠ ['0'] then none else some (digits, s)

-- The digits after a point, or none without a point.
def fractionPart : Reader (List Char)
  | '.' :: s => run1 Text.Decimal.isDigit s
  | s => some ([], s)

def exponentPart : Reader Int
  | c :: s =>
    if c = 'e' || c = 'E' then
      let (negative, s) :=
        match s with
        | '-' :: s => (true, s)
        | '+' :: s => (false, s)
        | s => (false, s)
      do
        let (digits, s) ← run1 Text.Decimal.isDigit s
        let n : Int := Text.Decimal.value digits
        some (if negative then -n else n, s)
    else some (0, c :: s)
  | [] => some (0, [])

def unsignedNumber (negative : Bool) : Reader Json := fun s => do
  let (whole, s) ← wholePart s
  let (fraction, s) ← fractionPart s
  let (exponent, s) ← exponentPart s
  let scaled := (Scaled.addWhole ⟨0, 0⟩ whole).addFraction fraction
  if { scaled with exponent := scaled.exponent + exponent : Scaled }.inRange then
    let n : Int := Text.Decimal.value (whole ++ fraction)
    some (Json.number (if negative then -n else n) (exponent - fraction.length), s)
  else none

def number : Reader Json
  | '-' :: s => unsignedNumber true s
  | s => unsignedNumber false s

/-- Members in which a later one has taken the place of an earlier one of its name. -/
def putMember (members : List (String × Json)) (member : String × Json) : List (String × Json) :=
  if members.any (·.1 == member.1) then
    members.map fun old => if old.1 == member.1 then member else old
  else members ++ [member]

mutual

-- A value after blanks; `room` more arrays and objects may be opened.
def value (room : Nat) : Reader Json := fun s =>
  match skip s with
  | 'n' :: s => (exactly "ull".toList s).map (Json.null, ·.2)
  | 't' :: s => (exactly "rue".toList s).map (Json.bool true, ·.2)
  | 'f' :: s => (exactly "alse".toList s).map (Json.bool false, ·.2)
  | '"' :: s => (textBody s).map fun (content, s) => (Json.text content, s)
  | '[' :: s =>
    match room with
    | 0 => none
    | room + 1 => arrayBody room s
  | '\x7b' :: s =>
    match room with
    | 0 => none
    | room + 1 => objectBody room s
  | s => number s
  termination_by (room, 1)

def arrayBody (room : Nat) : Reader Json := fun s =>
  match mark ']' s with
  | some (_, s) => some (Json.array [], s)
  | none => do
    let (first, s) ← value room s
    let (rest, s) := many (fun s => do
      let (_, s) ← mark ',' s
      value room s) s
    let (_, s) ← mark ']' s
    some (Json.array (first :: rest), s)
  termination_by (room, 3)

def memberOf (room : Nat) : Reader (String × Json) := fun s => do
  let (_, s) ← mark '"' s
  let (key, s) ← textBody s
  let (_, s) ← mark ':' s
  let (member, s) ← value room s
  some ((key, member), s)
  termination_by (room, 2)

def objectBody (room : Nat) : Reader Json := fun s =>
  match mark '\x7d' s with
  | some (_, s) => some (Json.object [], s)
  | none => do
    let (first, s) ← memberOf room s
    let (rest, s) := many (fun s => do
      let (_, s) ← mark ',' s
      memberOf room s) s
    let (_, s) ← mark '\x7d' s
    some (Json.object ((first :: rest).foldl putMember []), s)
  termination_by (room, 3)

end

end Converge.Json.Grammar

namespace Converge.Json

def parse? (text : String) : Option Json := do
  let (v, rest) ← Grammar.value Grammar.depthLimit text.toList
  if (Grammar.skip rest).isEmpty then some v else none

end Converge.Json
