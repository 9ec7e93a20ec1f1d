import Converge.Text.Basic

set_option autoImplicit false

namespace Converge.Text

abbrev Reader (α : Type) := List Char → Option (α × List Char)

namespace Reader

variable {α : Type}

def satisfying (test : Char → Bool) : Reader Char
  | c :: rest => if test c then some (c, rest) else none
  | [] => none

def exactly : List Char → Reader Unit
  | [], s => some ((), s)
  | c :: cs, d :: rest => if c = d then exactly cs rest else none
  | _ :: _, [] => none

def literal (text : String) : Reader Unit := exactly text.toList

def many (item : Reader α) (s : List Char) : List α × List Char :=
  match item s with
  | none => ([], s)
  | some (a, rest) =>
    if rest.length < s.length then
      let (items, left) := many item rest
      (a :: items, left)
    else ([a], rest)
  termination_by s.length

def run (test : Char → Bool) (s : List Char) : List Char × List Char :=
  (s.takeWhile test, s.dropWhile test)

def run1 (test : Char → Bool) : Reader (List Char) := fun s =>
  if (s.takeWhile test).isEmpty then none else some (run test s)

-- A fixed number of characters that all pass the test.
def count (test : Char → Bool) (n : Nat) : Reader (List Char) := fun s =>
  let taken := s.take n
  if taken.length = n && taken.all test then some (taken, s.drop n) else none

def isHex (c : Char) : Bool :=
  Decimal.isDigit c || ('a' ≤ c && c ≤ 'f') || ('A' ≤ c && c ≤ 'F')

def hexDigitValue (c : Char) : Nat :=
  if Decimal.isDigit c then Decimal.digitValue c
  else if 'a' ≤ c then c.toNat - 'a'.toNat + 10
  else c.toNat - 'A'.toNat + 10

def inBase (base : Nat) (digits : List Char) : Nat :=
  digits.foldl (fun n c => n * base + hexDigitValue c) 0

def charAt? (n : Nat) : Option Char :=
  if n < 0xD800 || (0xDFFF < n && n < 0x110000) then some (Char.ofNat n) else none

end Reader

end Converge.Text
