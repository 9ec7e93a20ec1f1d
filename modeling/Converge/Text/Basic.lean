set_option autoImplicit false

namespace Converge.Text

def isBlank (c : Char) : Bool :=
  let n := c.toNat
  (0x9 ≤ n && n ≤ 0xD) || n == 0x20 || n == 0x85 || n == 0xA0 || n == 0x1680 ||
    (0x2000 ≤ n && n ≤ 0x200A) || n == 0x2028 || n == 0x2029 || n == 0x202F || n == 0x205F ||
    n == 0x3000

-- The characters left when `drop` holds no more at either end.
def stripBy (drop : Char → Bool) (s : List Char) : List Char :=
  ((s.dropWhile drop).reverse.dropWhile drop).reverse

def trim (s : List Char) : List Char := stripBy isBlank s

-- The word under way is kept backwards.
def wordsAfter : List Char → List Char → List (List Char)
  | word, [] => if word.isEmpty then [] else [word.reverse]
  | word, c :: rest =>
    if isBlank c then
      if word.isEmpty then wordsAfter [] rest else word.reverse :: wordsAfter [] rest
    else wordsAfter (c :: word) rest

-- The longest runs of characters without a blank, in order.
def words (s : List Char) : List (List Char) := wordsAfter [] s

def quoteChar : Char → List Char
  | '"' => ['\\', '"']
  | '\\' => ['\\', '\\']
  | '\n' => ['\\', 'n']
  | '\r' => ['\\', 'r']
  | '\t' => ['\\', 't']
  | c => [c]

def quoted (s : List Char) : List Char := '"' :: s.flatMap quoteChar ++ ['"']

def bracketed (items : List (List Char)) : List Char :=
  '[' :: (items.intersperse [',', ' ']).flatten ++ [']']

def quotedList (items : List String) : String :=
  String.ofList (bracketed (items.map fun item => quoted item.toList))

namespace Decimal

def isDigit (c : Char) : Bool := '0' ≤ c && c ≤ '9'

def digitValue (c : Char) : Nat := c.toNat - '0'.toNat

def ofNat (n : Nat) : List Char := Nat.toDigits 10 n

def ofInt (n : Int) : List Char :=
  if n < 0 then '-' :: ofNat n.natAbs else ofNat n.natAbs

def value (digits : List Char) : Nat := digits.foldl (fun n c => n * 10 + digitValue c) 0

-- Digits with as many zeros in front as the width asks for.
def padded (width n : Nat) : List Char :=
  let digits := ofNat n
  List.replicate (width - digits.length) '0' ++ digits

end Decimal

-- A finished line, given backwards, without the carriage return of its ending.
def closeLine : List Char → List Char
  | '\r' :: line => line.reverse
  | line => line.reverse

-- The line under way is kept backwards.
def linesAfter : List Char → List Char → List (List Char)
  | line, [] => if line.isEmpty then [] else [line.reverse]
  | line, c :: rest =>
    if c = '\n' then closeLine line :: linesAfter [] rest else linesAfter (c :: line) rest

def lines (s : List Char) : List (List Char) := linesAfter [] s

end Converge.Text
