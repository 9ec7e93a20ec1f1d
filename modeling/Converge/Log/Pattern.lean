import Converge.Text.Basic
import Converge.Text.Reader

set_option autoImplicit false

namespace Converge.Log.Pattern

open Converge.Text

-- Text that a sign may stand before and that is a number then.
def isUnsignedNumber (s : List Char) : Bool :=
  let lower := String.ofList (s.map Char.toLower)
  if lower = "inf" || lower = "infinity" || lower = "nan" then true
  else
    let whole := s.takeWhile Decimal.isDigit
    let s := s.drop whole.length
    let (fraction, s) := match s with
      | '.' :: rest => (rest.takeWhile Decimal.isDigit, rest.dropWhile Decimal.isDigit)
      | rest => ([], rest)
    let exponent (s : List Char) : Bool := !s.isEmpty && s.all Decimal.isDigit
    !(whole.isEmpty && fraction.isEmpty) &&
      match s with
      | [] => true
      | e :: '+' :: rest | e :: '-' :: rest => (e == 'e' || e == 'E') && exponent rest
      | e :: rest => (e == 'e' || e == 'E') && exponent rest

/-- What one character of a class is, if it is a character by itself. -/
inductive Member where
  | single (c : Char)
  | many

/-- One escaped character or class, and what follows. Without `inClass`, the ends of words are
refused: they depend on more than one octet. -/
def escape? : List Char → Option (Member × List Char)
  | 'x' :: a :: b :: rest =>
    if Reader.isHex a && Reader.isHex b then
      some (.single (Char.ofNat (Reader.inBase 16 [a, b])), rest)
    else none
  | 'u' :: rest => hex 4 rest
  | 'U' :: rest => hex 8 rest
  | 'p' :: c :: rest | 'P' :: c :: rest =>
    if "CLMNPSZ".toList.contains c then some (.many, rest) else none
  | c :: rest =>
    if "dDsSwW".toList.contains c then some (.many, rest)
    else if "aftnrv".toList.contains c then some (.single (control c), rest)
    else if c.isAlphanum || c == '<' || c == '>' || 0x80 ≤ c.toNat then none
    else some (.single c, rest)
  | [] => none
where
  hex (n : Nat) (s : List Char) : Option (Member × List Char) :=
    let digits := s.take n
    if digits.length = n && digits.all Reader.isHex && (Reader.inBase 16 digits).isValidChar then
      some (.single (Char.ofNat (Reader.inBase 16 digits)), s.drop n)
    else none
  control : Char → Char
    | 'a' => '\x07'
    | 'f' => '\x0c'
    | 't' => '\t'
    | 'n' => '\n'
    | 'r' => '\r'
    | _ => '\x0b'

-- A class may begin with the sign that turns it around.
def withoutCaret : List Char → List Char
  | '^' :: rest => rest
  | s => s

def classNames : List String :=
  ["alnum", "alpha", "ascii", "blank", "cntrl", "digit", "graph", "lower", "print", "punct", "space",
    "upper", "word", "xdigit"]

def namedClass? (s : List Char) : Option (List Char) :=
  let s := withoutCaret s
  let name := s.takeWhile Char.isAlpha
  match s.drop name.length with
  | ':' :: ']' :: rest => if classNames.contains (String.ofList name) then some rest else none
  | _ => none

/-- The end of a class whose opening bracket is behind us. A bracket right at the start is a
character of the class. -/
def classEnd : Nat → Bool → List Char → Option (List Char)
  | 0, _, _ => none
  | room + 1, first, s =>
    match s with
    | [] => none
    | ']' :: rest => if first then classItem room rest ']' else some rest
    | '[' :: ':' :: rest =>
      match namedClass? rest with
      | some rest => classEnd room false rest
      | none => (classEnd room true (':' :: rest)).bind (classEnd room false)
    | '[' :: rest => (classEnd room true (withoutCaret rest)).bind (classEnd room false)
    | '\\' :: rest =>
      match escape? rest with
      | some (.single c, rest) => classItem room rest c
      | some (.many, rest) => classEnd room false rest
      | none => none
    | c :: rest => classItem room rest c
where
  -- After a character, perhaps the sign of a range and its other end.
  classItem (room : Nat) (s : List Char) (low : Char) : Option (List Char) :=
    match room with
    | 0 => none
    | room + 1 =>
      match s with
      | '-' :: ']' :: _ | '-' :: '-' :: _ => classEnd room false (s.drop 1)
      | '-' :: '\\' :: rest =>
        match escape? rest with
        | some (.single high, rest) => if low ≤ high then classEnd room false rest else none
        | _ => none
      | '-' :: high :: rest => if low ≤ high then classEnd room false rest else none
      | rest => classEnd room false rest

def groupFlags : List Char := "imsUuxR".toList

/-- What may stand behind the opening of a group: a name, or flags. The truth value tells whether
the group has a body. -/
def groupHead (s : List Char) : Option (Bool × List Char) :=
  let named (s : List Char) : Option (Bool × List Char) :=
    let name := s.takeWhile fun c => c.isAlphanum || c == '_' || c == '.'
    match name, s.drop name.length with
    | c :: _, '>' :: rest => if c.isAlpha || c == '_' then some (true, rest) else none
    | _, _ => none
  match s with
  | '?' :: 'P' :: '<' :: rest | '?' :: '<' :: rest => named rest
  | '?' :: rest =>
    let flags := rest.takeWhile fun c => groupFlags.contains c || c == '-'
    match rest.drop flags.length with
    | ':' :: rest => some (true, rest)
    | ')' :: rest => if flags.isEmpty then none else some (false, rest)
    | _ => none
  | rest => some (true, rest)

-- Reads on inside some open groups. `operand` tells whether there is something to repeat.
def wellFormed : Nat → Nat → Bool → List Char → Bool
  | 0, _, _, _ => false
  | room + 1, depth, operand, s =>
    match s with
    | [] => depth == 0
    | '*' :: rest | '+' :: rest | '?' :: rest => operand && wellFormed room depth true rest
    | '\x7b' :: _ => false
    | '|' :: rest => wellFormed room depth false rest
    | ')' :: rest => depth != 0 && wellFormed room (depth - 1) true rest
    | '(' :: rest =>
      match groupHead rest with
      | some (true, rest) => wellFormed room (depth + 1) false rest
      | some (false, rest) => wellFormed room depth false rest
      | none => false
    | '[' :: rest =>
      match classEnd (2 * rest.length + 2) true (withoutCaret rest) with
      | some rest => wellFormed room depth true rest
      | none => false
    | '\\' :: 'A' :: rest | '\\' :: 'z' :: rest => wellFormed room depth true rest
    | '\\' :: rest =>
      match escape? rest with
      | some (_, rest) => wellFormed room depth true rest
      | none => false
    | _ :: rest => wellFormed room depth true rest

def accepts (s : List Char) : Bool :=
  (match s with
    | '+' :: rest => isUnsignedNumber rest
    | _ => false) || wellFormed (s.length + 1) 0 false s

end Converge.Log.Pattern
