import Converge.Text.Reader
import Converge.Toml.Draft

set_option autoImplicit false

namespace Converge.Toml.Scalar

open Converge.Text (Reader)
open Converge.Text.Reader
open Converge.Text.Decimal (isDigit)

def isSpace (c : Char) : Bool := c == ' ' || c == '\t'

def isPlain (c : Char) : Bool := c == '\t' || (0x20 ≤ c.toNat && c.toNat ≠ 0x7F)

def newline : Reader Unit
  | '\n' :: rest => some ((), rest)
  | '\r' :: '\n' :: rest => some ((), rest)
  | _ => none

def escape : Reader Char
  | 'b' :: rest => some ('\x08', rest)
  | 't' :: rest => some ('\t', rest)
  | 'n' :: rest => some ('\n', rest)
  | 'f' :: rest => some ('\x0c', rest)
  | 'r' :: rest => some ('\r', rest)
  | '"' :: rest => some ('"', rest)
  | '\\' :: rest => some ('\\', rest)
  | 'u' :: rest => do
    let (digits, rest) ← count isHex 4 rest
    (charAt? (inBase 16 digits)).map (·, rest)
  | 'U' :: rest => do
    let (digits, rest) ← count isHex 8 rest
    (charAt? (inBase 16 digits)).map (·, rest)
  | _ => none

def basicChar : Reader Char
  | '\\' :: rest => escape rest
  | c :: rest => if isPlain c && c ≠ '"' then some (c, rest) else none
  | [] => none

def basicString : Reader String := fun s => do
  let (_, s) ← exactly ['"'] s
  let (cs, s) := many basicChar s
  let (_, s) ← exactly ['"'] s
  some (String.ofList cs, s)

def literalString : Reader String := fun s => do
  let (_, s) ← exactly ['\''] s
  let (cs, s) := run (fun c => isPlain c && c ≠ '\'') s
  let (_, s) ← exactly ['\''] s
  some (String.ofList cs, s)

/-- The end of a line that a backslash joins to the next text: blanks and line ends. -/
def joinedLines : Reader Unit := fun s => do
  let (_, s) ← newline (s.dropWhile isSpace)
  let (_, s) := many (fun s => (newline s).orElse fun _ => (satisfying isSpace s).map ((), ·.2)) s
  some ((), s)

def multilineBasicPart : Reader (List Char)
  | '\\' :: rest =>
    match joinedLines rest with
    | some (_, s) => some ([], s)
    | none => (escape rest).map fun (c, s) => ([c], s)
  | s =>
    match newline s with
    | some (_, s) => some (['\n'], s)
    | none => (satisfying (fun c => isPlain c && c ≠ '"') s).map fun (c, s) => ([c], s)

def multilineLiteralPart : Reader (List Char) := fun s =>
  match newline s with
  | some (_, s) => some (['\n'], s)
  | none => (satisfying (fun c => isPlain c && c ≠ '\'') s).map fun (c, s) => ([c], s)

-- Quotes that do not end the string: one or two.
def innerQuotes (quote : Char) : Reader (List Char) := fun s =>
  let quotes := s.takeWhile (· == quote)
  if quotes.isEmpty || 3 ≤ quotes.length then none else some (quotes, s.dropWhile (· == quote))

-- The three quotes at the end, with up to two more before them.
def closingQuotes (quote : Char) : Reader (List Char) := fun s =>
  let found := (s.takeWhile (· == quote)).length
  if found < 3 then none
  else
    let inner := min (found - 3) 2
    some (List.replicate inner quote, s.drop (inner + 3))

/-- A string between three quotes; a line end right after the first three is left out. -/
def multilineString (quote : Char) (part : Reader (List Char)) : Reader String := fun s => do
  let (_, s) ← exactly [quote, quote, quote] s
  let s := ((newline s).map (·.2)).getD s
  let (parts, s) := many (fun s => (part s).orElse fun _ => innerQuotes quote s) s
  let (last, s) ← closingQuotes quote s
  some (String.ofList (parts.flatten ++ last), s)

def string : Reader String
  | '"' :: '"' :: '"' :: s => multilineString '"' multilineBasicPart ('"' :: '"' :: '"' :: s)
  | '\'' :: '\'' :: '\'' :: s => multilineString '\'' multilineLiteralPart ('\'' :: '\'' :: '\'' :: s)
  | '"' :: s => basicString ('"' :: s)
  | s => literalString s

def digitRun (isDigit : Char → Bool) : Reader (List Char) := fun s => do
  let (first, s) ← satisfying isDigit s
  let (rest, s) := many (fun s =>
    match s with
    | '_' :: s => satisfying isDigit s
    | s => satisfying isDigit s) s
  match s with
  | '_' :: _ => none
  | s => some (first :: rest, s)

def sign : List Char → Bool × List Char
  | '-' :: s => (true, s)
  | '+' :: s => (false, s)
  | s => (false, s)

def wholeDigits : Reader (List Char)
  | '0' :: s => some (['0'], s)
  | s => digitRun isDigit s

-- Whether a number fits in 64 bits with a sign.
def inRange (n : Int) : Bool := -0x8000000000000000 ≤ n && n < 0x8000000000000000

def based (base : Nat) (isDigit : Char → Bool) : Reader Toml := fun s => do
  let (digits, s) ← digitRun isDigit s
  let n : Int := inBase base digits
  if inRange n then some (.integer n, s) else none

def integer : Reader Toml
  | '0' :: 'x' :: s => based 16 isHex s
  | '0' :: 'o' :: s => based 8 (fun c => '0' ≤ c && c ≤ '7') s
  | '0' :: 'b' :: s => based 2 (fun c => c == '0' || c == '1') s
  | s => do
    let (negative, s) := sign s
    let (digits, s) ← wholeDigits s
    let n : Int := Text.Decimal.value digits
    let n := if negative then -n else n
    if inRange n then some (.integer n, s) else none

-- Whether `digits · 10 ^ exponent` rounds to infinity in binary floating point.
def overflows (digits : List Char) (exponent : Int) : Bool :=
  let significant := digits.dropWhile (· == '0')
  let places : Int := significant.length + exponent
  let rangeEnd := (1 <<< 1024) - (1 <<< 970)
  let n := Text.Decimal.value significant
  if significant.isEmpty || places < 300 then false
  else if 320 < places then true
  else if 0 ≤ exponent then rangeEnd ≤ n * Nat.pow 10 exponent.toNat
  else rangeEnd * Nat.pow 10 (-exponent).toNat ≤ n

def fraction : Reader (List Char)
  | '.' :: s => digitRun isDigit s
  | _ => none

def exponent : Reader Int
  | c :: s =>
    if c = 'e' || c = 'E' then do
      let (negative, s) := sign s
      let (digits, s) ← digitRun isDigit s
      let n : Int := Text.Decimal.value digits
      some (if negative then -n else n, s)
    else none
  | [] => none

def special : Reader Unit := fun s =>
  (literal "inf" (sign s).2).orElse fun _ => literal "nan" (sign s).2

def spelling (before after : List Char) : String :=
  String.ofList (before.take (before.length - after.length))

-- A whole part with a fraction, an exponent or both. A positive overflow is refused.
def float : Reader Toml := fun start =>
  let ordinary : Option (Toml × List Char) := do
    let (negative, s) := sign start
    let (whole, s) ← wholeDigits s
    let (places, tenths, s) ←
      match fraction s with
      | some (tenths, s) =>
        match s with
        | 'e' :: _ | 'E' :: _ => (exponent s).map fun (e, s) => (e, tenths, s)
        | s => some (0, tenths, s)
      | none => (exponent s).map fun (e, s) => (e, [], s)
    if !negative && overflows (whole ++ tenths) (places - tenths.length) then none
    else some (.float (spelling start s), s)
  ordinary.orElse fun _ => (special start).map fun (_, s) => (.float (spelling start s), s)

def twoDigits (low high : Nat) : Reader Nat := fun s => do
  let (digits, s) ← count isDigit 2 s
  let n := Text.Decimal.value digits
  if low ≤ n && n ≤ high then some (n, s) else none

def isLeap (year : Nat) : Bool := year % 4 == 0 && (year % 100 != 0 || year % 400 == 0)

def daysIn (year month : Nat) : Nat :=
  if month = 2 then (if isLeap year then 29 else 28)
  else if month = 4 || month = 6 || month = 9 || month = 11 then 30
  else 31

def date : Reader Unit := fun s => do
  let (year, s) ← count isDigit 4 s
  let (_, s) ← exactly ['-'] s
  let (month, s) ← twoDigits 1 12 s
  let (_, s) ← exactly ['-'] s
  let (day, s) ← twoDigits 1 31 s
  if day ≤ daysIn (Text.Decimal.value year) month then some ((), s) else none

def time : Reader Unit := fun s => do
  let (_, s) ← twoDigits 0 23 s
  let (_, s) ← exactly [':'] s
  let (_, s) ← twoDigits 0 59 s
  let (_, s) ← exactly [':'] s
  let (_, s) ← twoDigits 0 60 s
  match s with
  | '.' :: s => (run1 isDigit s).map ((), ·.2)
  | s => some ((), s)

def offset : Reader Unit
  | 'Z' :: s => some ((), s)
  | 'z' :: s => some ((), s)
  | c :: s =>
    if c = '+' || c = '-' then do
      let (_, s) ← twoDigits 0 23 s
      let (_, s) ← exactly [':'] s
      let (_, s) ← twoDigits 0 59 s
      some ((), s)
    else none
  | [] => none

-- The time after a date, and the offset after that time.
def timeAfterDate : Reader Unit
  | c :: s =>
    if c = 'T' || c = 't' || c = ' ' then do
      let (_, s) ← time s
      some ((), ((offset s).map (·.2)).getD s)
    else none
  | [] => none

def datetime : Reader Toml := fun start =>
  let read : Option (List Char) :=
    match date start with
    | some (_, s) => some (((timeAfterDate s).map (·.2)).getD s)
    | none => (time start).map (·.2)
  read.map fun s => (.datetime (spelling start s), s)

def number : Reader Toml := fun s =>
  (datetime s).orElse fun _ => (float s).orElse fun _ => integer s

end Converge.Toml.Scalar
