import Converge.Text.Basic

set_option autoImplicit false

namespace Converge.Text

/-- A number with so many binary digits at most, or something beyond all numbers. -/
inductive Floating where
  -- A whole number times a power of two, in absolute value.
  | finite (isNegative : Bool) (mantissa : Nat) (exponent : Int)
  | infinite (isNegative : Bool)
  | notNumber (isNegative : Bool)
  deriving DecidableEq, Repr

namespace Floating

def roundedQuotient (num den : Nat) : Nat :=
  let q := num / den
  let r := num % den
  if 2 * r < den then q else if den < 2 * r then q + 1 else if q % 2 = 0 then q else q + 1

def powerOf (base : Nat) : Nat → Nat
  | 0 => 1
  | n + 1 => powerOf base n * base

-- The quotient times a power of two, as numerator and denominator.
def scaled (num den : Nat) (e : Int) : Nat × Nat :=
  if 0 ≤ e then (num * powerOf 2 e.toNat, den) else (num, den * powerOf 2 (-e).toNat)

/-- How the digits of a kind of number are counted: how many it has and the least exponent. -/
structure Precision where
  digits : Nat
  leastExponent : Int
  greatestExponent : Int

def Precision.double : Precision := ⟨53, -1074, 971⟩

def Precision.extended : Precision := ⟨64, -16445, 16320⟩

def ofQuotient (p : Precision) (isNegative : Bool) (num den : Nat) : Floating :=
  if num = 0 then .finite isNegative 0 0
  else
    -- The exponent is right or one too small.
    let estimate : Int := (Nat.log2 num : Int) - Nat.log2 den - p.digits
    let e := max estimate p.leastExponent
    let (n, d) := scaled num den (-e)
    let m := roundedQuotient n d
    let (m, e) :=
      if powerOf 2 p.digits ≤ m then
        let (n, d) := scaled num den (-(e + 1))
        (roundedQuotient n d, e + 1)
      else (m, e)
    if p.greatestExponent < e then .infinite isNegative else .finite isNegative m e

def quotient (mantissa : Nat) (exponent : Int) : Nat × Nat := scaled mantissa 1 exponent

def lowered (s : List Char) : List Char := s.map Char.toLower

-- The digits of a number, with one point among them, and what follows.
def pointDigits (isDigit : Char → Bool) (s : List Char) : List Char × List Char × List Char :=
  let whole := s.takeWhile isDigit
  match s.drop whole.length with
  | '.' :: rest =>
    let part := rest.takeWhile isDigit
    if whole.isEmpty && part.isEmpty then ([], [], s) else (whole, part, rest.drop part.length)
  | rest => (whole, [], rest)

-- A signed exponent behind its letter, if there is one.
def exponentAt (letter : Char) (s : List Char) : Int × List Char :=
  match s with
  | c :: rest =>
    if c.toLower = letter then
      let (isNegative, digits) := match rest with
        | '-' :: t => (true, t)
        | '+' :: t => (false, t)
        | t => (false, t)
      let ds := digits.takeWhile Decimal.isDigit
      if ds.isEmpty then (0, s)
      else
        let n : Int := min (Decimal.value ds) 100000
        (if isNegative then -n else n, digits.drop ds.length)
    else (0, s)
  | [] => (0, [])

def hexDigit? (c : Char) : Option Nat :=
  if Decimal.isDigit c then some (c.toNat - 48)
  else if 'a' ≤ c && c ≤ 'f' then some (c.toNat - 87)
  else if 'A' ≤ c && c ≤ 'F' then some (c.toNat - 55)
  else none

def hexValue (s : List Char) : Nat := s.foldl (fun n c => n * 16 + (hexDigit? c).getD 0) 0

-- The number at the front of a text, and what follows.
def leading? (p : Precision) (s : List Char) : Option (Floating × List Char) :=
  let s := s.dropWhile fun c => c == ' ' || ('\t' ≤ c && c ≤ '\r')
  let (isNegative, body) := match s with
    | '-' :: t => (true, t)
    | '+' :: t => (false, t)
    | t => (false, t)
  let low := lowered body
  if "infinity".toList.isPrefixOf low then some (.infinite isNegative, body.drop 8)
  else if "inf".toList.isPrefixOf low then some (.infinite isNegative, body.drop 3)
  else if "nan".toList.isPrefixOf low then some (.notNumber isNegative, body.drop 3)
  else if "0x".toList.isPrefixOf low &&
      (body.drop 2 |>.find? (· ≠ '.') |>.any fun c => (hexDigit? c).isSome) then
    let (whole, part, rest) := pointDigits (fun c => (hexDigit? c).isSome) (body.drop 2)
    let (e, rest) := exponentAt 'p' rest
    let (n, d) := scaled (hexValue (whole ++ part)) 1 (e - 4 * part.length)
    some (ofQuotient p isNegative n d, rest)
  else
    let (whole, part, rest) := pointDigits Decimal.isDigit body
    if whole.isEmpty && part.isEmpty then none
    else
      let (e, rest) := exponentAt 'e' rest
      let digits := Decimal.value (whole ++ part)
      let ten : Int := e - part.length
      if digits = 0 then some (.finite isNegative 0 0, rest)
      else if 6000 < ten then some (.infinite isNegative, rest)
      else if ten < -12000 then some (.finite isNegative 0 0, rest)
      else if 0 ≤ ten then
        some (ofQuotient p isNegative (digits * powerOf 10 ten.toNat) 1, rest)
      else some (ofQuotient p isNegative digits (powerOf 10 (-ten).toNat), rest)

-- A whole number with so many of its last digits behind a point.
def withPoint (places : Nat) (n : Nat) (keepPoint : Bool) : List Char :=
  let digits := Decimal.padded (places + 1) n
  let front := digits.take (digits.length - places)
  let back := digits.drop (digits.length - places)
  if places = 0 then (if keepPoint then front ++ ['.'] else front) else front ++ '.' :: back

def fixed (places : Nat) (keepPoint : Bool) (num den : Nat) : List Char :=
  withPoint places (roundedQuotient (num * powerOf 10 places) den) keepPoint

/-- The first `places + 1` digits of a quotient, rounded, and the power of ten of the first one. -/
def firstDigits (places : Nat) (num den : Nat) : Nat × Int :=
  if num = 0 then (0, 0)
  else
    let estimate : Int := ((Decimal.ofNat num).length : Int) - (Decimal.ofNat den).length
    -- The power of the first digit is the estimate or one less.
    let atLeast (e : Int) : Bool :=
      if 0 ≤ e then decide (den * powerOf 10 e.toNat ≤ num)
      else decide (den ≤ num * powerOf 10 (-e).toNat)
    let e := if atLeast estimate then estimate else estimate - 1
    let shift : Int := places - e
    let n :=
      if 0 ≤ shift then roundedQuotient (num * powerOf 10 shift.toNat) den
      else roundedQuotient num (den * powerOf 10 (-shift).toNat)
    if powerOf 10 (places + 1) ≤ n then (n / 10, e + 1) else (n, e)

def writtenExponent (letter : Char) (e : Int) : List Char :=
  letter :: (if e < 0 then '-' else '+') :: Decimal.padded 2 e.natAbs

def scientific (places : Nat) (keepPoint : Bool) (letter : Char) (num den : Nat) : List Char :=
  let (n, e) := firstDigits places num den
  withPoint places n keepPoint ++ writtenExponent letter e

-- Without the zeros at the end of what stands behind a point.
def withoutZeros (s : List Char) : List Char :=
  if s.contains '.' then
    let back := s.reverse.dropWhile (· == '0')
    (match back with
      | '.' :: front => front
      | back => back).reverse
  else s

-- So many digits in all, with an exponent only where it is short of room.
def general (digits : Nat) (keepPoint : Bool) (letter : Char) (num den : Nat) : List Char :=
  let p := if digits = 0 then 1 else digits
  let (n, e) := firstDigits (p - 1) num den
  if e < -4 || (p : Int) ≤ e then
    let body := withPoint (p - 1) n keepPoint
    (if keepPoint then body else withoutZeros body) ++ writtenExponent letter e
  else
    let body := fixed ((p : Int) - 1 - e).toNat keepPoint num den
    if keepPoint then body else withoutZeros body

def hexadecimal (p : Precision) (mantissa : Nat) (exponent : Int) : List Char :=
  let lead := if p.digits = 53 then 1 else 4
  if mantissa = 0 then "0x0p+0".toList
  else
    -- Room for the leading digits, then whole hexadecimal digits.
    let used := Nat.log2 mantissa + 1
    let m := mantissa * powerOf 2 (p.digits - used)
    let e := exponent - (p.digits - used : Nat)
    let places := (p.digits - lead) / 4
    let head := m / powerOf 16 places
    let tail := (Nat.toDigits 16 (m % powerOf 16 places + powerOf 16 places)).drop 1
    let tail := (tail.reverse.dropWhile (· == '0')).reverse
    let power := e + 4 * places
    "0x".toList ++ Nat.toDigits 16 head ++ (if tail.isEmpty then [] else '.' :: tail) ++
      'p' :: (if power < 0 then '-' else '+') :: Decimal.ofNat power.natAbs

end Floating

end Converge.Text
