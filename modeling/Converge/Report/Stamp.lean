import Converge.Json.Value
import Converge.Text.Basic

set_option autoImplicit false

namespace Converge

/-- An identifier in 122 free bits; the version and the variant are written for it. -/
structure RunId where
  bits : BitVec 122
  deriving DecidableEq, Repr

namespace RunId

-- The last hexadecimal digits of a number, so many of them.
def hexDigits : Nat → Nat → List Char
  | 0, _ => []
  | width + 1, n => hexDigits width (n / 16) ++ [Json.hexDigit (n % 16)]

/-- Groups of 8, 4, 4, 4 and 12 digits; the third starts with the version 4, the fourth with the
variant and two bits. -/
def render (id : RunId) : List Char :=
  let n := id.bits.toNat
  hexDigits 8 (n >>> 90) ++ '-' ::
    hexDigits 4 (n >>> 74) ++ '-' ::
    '4' :: hexDigits 3 (n >>> 62) ++ '-' ::
    hexDigits 4 (0x8000 + (n >>> 48) % 0x4000) ++ '-' ::
    hexDigits 12 n

def toString (id : RunId) : String := String.ofList id.render

def ofNat (n : Nat) : RunId := ⟨BitVec.ofNat 122 n⟩

end RunId

/-- Nanoseconds since the start of 1970, in universal time. -/
structure Timestamp where
  nanoseconds : Nat
  deriving DecidableEq, Repr

namespace Timestamp

structure Date where
  year : Nat
  month : Nat
  day : Nat
  deriving DecidableEq, Repr

/-- The date of a day counted from the start of 1970. Days are counted from a first of March, so
that the leap day ends a year, in eras of 400 years. -/
def dateOf (days : Nat) : Date :=
  let n := days + 719468
  let era := n / 146097
  let dayOfEra := n % 146097
  let yearOfEra := (dayOfEra - dayOfEra / 1460 + dayOfEra / 36524 - dayOfEra / 146096) / 365
  let dayOfYear := dayOfEra - (365 * yearOfEra + yearOfEra / 4 - yearOfEra / 100)
  let shifted := (5 * dayOfYear + 2) / 153
  let month := if shifted < 10 then shifted + 3 else shifted - 9
  { year := yearOfEra + era * 400 + if month ≤ 2 then 1 else 0
    month := month
    day := dayOfYear - (153 * shifted + 2) / 5 + 1 }

-- The part of a second in as few groups of three digits as it needs.
def fraction (nanoseconds : Nat) : List Char :=
  if nanoseconds = 0 then []
  else if nanoseconds % 1000000 = 0 then '.' :: Text.Decimal.padded 3 (nanoseconds / 1000000)
  else if nanoseconds % 1000 = 0 then '.' :: Text.Decimal.padded 6 (nanoseconds / 1000)
  else '.' :: Text.Decimal.padded 9 nanoseconds

def year (y : Nat) : List Char :=
  if 9999 < y then '+' :: Text.Decimal.ofNat y else Text.Decimal.padded 4 y

def render (t : Timestamp) : List Char :=
  let seconds := t.nanoseconds / 1000000000
  let date := dateOf (seconds / 86400)
  let two (n : Nat) := Text.Decimal.padded 2 n
  year date.year ++ '-' :: two date.month ++ '-' :: two date.day ++
    'T' :: two (seconds / 3600 % 24) ++ ':' :: two (seconds / 60 % 60) ++
    ':' :: two (seconds % 60) ++ fraction (t.nanoseconds % 1000000000) ++ ['Z']

def toString (t : Timestamp) : String := String.ofList t.render

end Timestamp

end Converge
