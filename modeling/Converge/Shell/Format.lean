import Converge.Path
import Converge.Shell.Arithmetic
import Converge.Text.Floating

set_option autoImplicit false
set_option maxRecDepth 2000

namespace Converge.Shell.Format

open Converge.Text

def isOctal (c : Char) : Bool := '0' ≤ c && c < '8'

def octal (digits : List Char) : Char :=
  Char.ofNat (digits.foldl (fun n d => n * 8 + (d.toNat - 48)) 0 % 256)

def controlOf : Char → Option Char
  | 'a' => some '\x07'
  | 'b' => some '\x08'
  | 'e' => some '\x1b'
  | 'f' => some '\x0c'
  | 'n' => some '\n'
  | 'r' => some '\r'
  | 't' => some '\t'
  | 'v' => some '\x0b'
  | '\\' => some '\\'
  | _ => none

def octalDigits (limit : Nat) (s : List Char) : List Char × List Char :=
  let digits := (s.take limit).takeWhile isOctal
  (digits, s.drop digits.length)

-- What an escape stands for, from the character behind the backslash on. `hex` tells whether
-- hexadecimal digits may stand for a character.
def escaped (hex : Bool) (s : List Char) : List Char × List Char :=
  match s with
  | [] => (['\\'], [])
  | c :: rest =>
    if isOctal c then
      let (digits, rest) := octalDigits 3 s
      ([octal digits], rest)
    else if hex && c = 'x' then
      let digits := (rest.take 2).takeWhile (Arithmetic.isDigitOf 16)
      if digits.isEmpty then (['\\', 'x'], rest)
      else ([Char.ofNat (Arithmetic.valueIn 16 digits)], rest.drop digits.length)
    else if hex && (c = 'u' || c = 'U') then
      let digits := (rest.take (if c = 'u' then 4 else 8)).takeWhile (Arithmetic.isDigitOf 16)
      if digits.isEmpty then (['\\', c], rest)
      else
        let text := String.singleton (Char.ofNat (Arithmetic.valueIn 16 digits))
        ((Raw.ofText text).toList, rest.drop digits.length)
    else if hex && (c = '"' || c = '\'' || c = '?') then ([c], rest)
    else if hex && c = 'E' then (['\x1b'], rest)
    else
      match controlOf c with
      | some d => ([d], rest)
      | none => (['\\', c], rest)

/-- A text with escapes, where a zero may stand before octal digits. The truth value tells whether
the text asks for an end of all output. -/
def unescapedWithin (hex : Bool) : Nat → List Char → List Char → List Char × Bool
  | 0, done, _ => (done.reverse, false)
  | _, done, [] => (done.reverse, false)
  | _, done, '\\' :: 'c' :: _ => (done.reverse, true)
  | room + 1, done, '\\' :: s =>
    let s := match s with
      | '0' :: c :: rest => if isOctal c then c :: rest else s
      | s => s
    let (shown, rest) := escaped hex s
    unescapedWithin hex room (shown.reverse ++ done) rest
  | room + 1, done, c :: s => unescapedWithin hex room (c :: done) s

def unescaped (hex : Bool) (s : String) : List Char × Bool :=
  unescapedWithin hex (s.length + 1) [] s.toList

inductive Style where
  | plain
  | extended
  -- The program that is no part of a shell.
  | apart
  deriving DecidableEq

structure Field where
  left : Bool := false
  zeros : Bool := false
  plus : Bool := false
  blank : Bool := false
  alternate : Bool := false
  width : Nat := 0
  precision : Option Nat := none

def Field.pad (f : Field) (s : List Char) : List Char :=
  let gap := List.replicate (f.width - s.length) ' '
  if f.left then s ++ gap else gap ++ s

-- A sign, a mark of the base and digits, with zeros between them up to the width.
def Field.padNumber (f : Field) (front digits : List Char) (zeros : Bool) : List Char :=
  if zeros && !f.left then
    front ++ List.replicate (f.width - front.length - digits.length) '0' ++ digits
  else f.pad (front ++ digits)

def Field.sign (f : Field) (isNegative : Bool) : List Char :=
  if isNegative then ['-'] else if f.plus then ['+'] else if f.blank then [' '] else []

def upperCase (s : List Char) : List Char := s.map Char.toUpper

def Field.integer (f : Field) (n : Int) : List Char :=
  let digits := if n = 0 && f.precision = some 0 then [] else Decimal.ofNat n.natAbs
  let zeros := List.replicate (f.precision.getD 0 - digits.length) '0'
  f.padNumber (f.sign (n < 0)) (zeros ++ digits) (f.zeros && f.precision.isNone)

def Field.natural (f : Field) (kind : Char) (n : Nat) : List Char :=
  let plain := match kind with
    | 'o' => Nat.toDigits 8 n
    | 'x' => Nat.toDigits 16 n
    | 'X' => upperCase (Nat.toDigits 16 n)
    | _ => Decimal.ofNat n
  let digits := if n = 0 && f.precision = some 0 then [] else plain
  let zeros := List.replicate (f.precision.getD 0 - digits.length) '0'
  let body := zeros ++ digits
  let body := if kind = 'o' && f.alternate && body.head? ≠ some '0' then '0' :: body else body
  let front := if f.alternate && n ≠ 0 && kind = 'x' then ['0', 'x']
    else if f.alternate && n ≠ 0 && kind = 'X' then ['0', 'X'] else []
  f.padNumber front body (f.zeros && f.precision.isNone)

def Field.floating (f : Field) (p : Floating.Precision) (kind : Char) (x : Floating) :
    List Char :=
  let isUpper := kind.isUpper
  let cased (s : List Char) : List Char := if isUpper then upperCase s else s
  let places := f.precision.getD 6
  match x with
  | .infinite isNegative => f.pad (f.sign isNegative ++ cased "inf".toList)
  | .notNumber isNegative => f.pad (f.sign isNegative ++ cased "nan".toList)
  | .finite isNegative m e =>
    let (num, den) := Floating.quotient m e
    let body := match kind.toLower with
      | 'f' => Floating.fixed places f.alternate num den
      | 'e' => Floating.scientific places f.alternate 'e' num den
      | 'g' => Floating.general places f.alternate 'e' num den
      | _ => Floating.hexadecimal p m e
    f.padNumber (f.sign isNegative) (cased body) f.zeros

structure Formatted where
  shown : List Char := []
  notes : List String := []
  left : List String := []
  status : Nat := 0
  isOver : Bool := false

def Formatted.add (f : Formatted) (s : List Char) : Formatted :=
  { f with shown := s.reverse ++ f.shown }

def Formatted.note (f : Formatted) (message : String) : Formatted :=
  { f with notes := message :: f.notes, status := 1 }

def Formatted.take (f : Formatted) : Option String × Formatted :=
  match f.left with
  | [] => (none, f)
  | w :: left => (some w, { f with left := left })

def quoted (style : Style) (s : String) : String :=
  if style = .apart then "'" ++ s ++ "'" else s

def notNumeric (style : Style) (s : String) : String :=
  match style with
  | .plain => s ++ ": expected numeric value"
  | .extended => s ++ ": invalid number"
  | .apart => quoted style s ++ ": expected a numeric value"

def partlyNumeric (style : Style) (s : String) : String :=
  match style with
  | .plain => s ++ ": not completely converted"
  | .extended => s ++ ": invalid number"
  | .apart => quoted style s ++ ": value not completely converted"

def outOfRange (style : Style) (s : String) : String :=
  (if style = .extended then "warning: " else "") ++ quoted style s ++
    ": Numerical result out of range"

def Formatted.check (f : Formatted) (style : Style) (s : String) (found : Bool)
    (rest : List Char) (fits : Bool) : Formatted :=
  if !rest.isEmpty then
    f.note (if found then partlyNumeric style s else notNumeric style s)
  else if !fits then f.note (outOfRange style s)
  else if !found && style ≠ .plain && s ≠ "" then f.note (notNumeric style s)
  else f

def character? (s : String) : Option Nat :=
  match s.toList with
  | c :: rest => if c = '"' || c = '\'' then some ((rest.head?.map Char.toNat).getD 0) else none
  | [] => none

def Formatted.integer (f : Formatted) (style : Style) (isSigned : Bool) : Int × Formatted :=
  match f.take with
  | (none, f) => (0, f)
  | (some s, f) =>
    match character? s with
    | some n => (n, f)
    | none =>
      match Arithmetic.leading? true s.toList with
      | none => (0, f.check style s false s.toList true)
      | some (n, rest) =>
        let low := if isSigned then Arithmetic.least else -0xFFFFFFFFFFFFFFFF
        let high := if isSigned then Arithmetic.largest else 0xFFFFFFFFFFFFFFFF
        let f := f.check style s true rest (low ≤ n && n ≤ high)
        let kept := if isSigned then max low (min n high)
          else if high < n || n < low then high else n % 0x10000000000000000
        (kept, f)

def Formatted.floating (f : Formatted) (style : Style) (p : Floating.Precision) :
    Floating × Formatted :=
  match f.take with
  | (none, f) => (.finite false 0 0, f)
  | (some s, f) =>
    match character? s with
    | some n => (Floating.ofQuotient p false n 1, f)
    | none =>
      match Floating.leading? p s.toList with
      | none => (.finite false 0 0, f.check style s false s.toList true)
      | some (x, rest) => (x, f.check style s true rest true)

def starred (f : Formatted) (style : Style) (s : List Char) : Option Int × List Char × Formatted :=
  match s with
  | '*' :: rest =>
    let (n, f) := f.integer style true
    (some n, rest, f)
  | s =>
    let digits := s.takeWhile Decimal.isDigit
    ((if digits.isEmpty then none else some (Decimal.value digits : Int)), s.drop digits.length, f)

def shellQuoted (s : String) : List Char :=
  let isPlain (c : Char) : Bool :=
    c.isAlphanum || "@%_-+=:,./".toList.contains c
  if s = "" then ['\'', '\'']
  else if s.toList.any fun c => c.toNat < 32 || 126 < c.toNat then
    "$'".toList ++ (s.toList.flatMap fun c =>
      if c = '\'' || c = '\\' then ['\\', c]
      else if c = '\n' then "\\n".toList
      else if c = '\t' then "\\t".toList
      else if c = '\r' then "\\r".toList
      else if c = '\x1b' then "\\E".toList
      else if c = '\x07' then "\\a".toList
      else if c.toNat < 32 || 126 < c.toNat then
        '\\' :: (Nat.toDigits 8 (c.toNat + 512)).drop 1
      else [c]) ++ ['\'']
  else s.toList.flatMap fun c => if isPlain c then [c] else ['\\', c]

def Formatted.refuse (f : Formatted) (status : Nat) (message : String) : Formatted :=
  { f with notes := message :: f.notes, status := status, isOver := true }

def directive (style : Style) (written : List Char) (f : Formatted) : Formatted × List Char :=
  let flags := written.takeWhile ("#-+ 0".toList.contains ·)
  let (width, s, f) := starred f style (written.drop flags.length)
  let (precision, s, f) := match s with
    | '.' :: s =>
      let (n, s, f) := starred f style s
      (some (n.getD 0), s, f)
    | s => (none, s, f)
  let width := width.getD 0
  let field : Field := {
    left := flags.contains '-' || width < 0, zeros := flags.contains '0'
    plus := flags.contains '+', blank := flags.contains ' ', alternate := flags.contains '#'
    width := width.natAbs
    precision := precision.bind fun p => if p < 0 then none else some p.toNat }
  let s := if style = .plain then s else s.dropWhile ("hlLjzt".toList.contains ·)
  let p := if style = .plain then Floating.Precision.double else .extended
  match s with
  | [] =>
    (match style with
      | .plain => f.refuse 2 "missing format character"
      | .extended =>
        f.refuse 1 (String.singleton (Char.ofNat 96) ++
          String.ofList (written.getLast?.toList) ++ "': missing format character")
      | .apart => f.refuse 1 ("%" ++ String.ofList written ++ ": invalid conversion specification"),
      [])
  | kind :: rest =>
    let text (shown : List Char) : List Char :=
      field.pad (match field.precision with
        | some n => shown.take n
        | none => shown)
    if kind = 's' then
      let (word, f) := f.take
      (f.add (text (word.getD "").toList), rest)
    else if kind = 'b' then
      let (word, f) := f.take
      let (shown, stops) := unescaped (style ≠ .plain) (word.getD "")
      let f := f.add (text shown)
      ({ f with isOver := stops }, rest)
    else if kind = 'q' && style ≠ .plain then
      let (word, f) := f.take
      (f.add (text (shellQuoted (word.getD ""))), rest)
    else if kind = 'c' then
      let (word, f) := f.take
      (f.add (field.pad [((word.getD "").toList.head?).getD '\x00']), rest)
    else if kind = 'd' || kind = 'i' then
      let (n, f) := f.integer style true
      (f.add (field.integer n), rest)
    else if "ouxX".toList.contains kind then
      let (n, f) := f.integer style false
      (f.add (field.natural kind n.toNat), rest)
    else if "aAeEfFgG".toList.contains kind then
      let (x, f) := f.floating style p
      (f.add (field.floating p kind x), rest)
    else
      let whole := '%' :: written.take (written.length - rest.length)
      (match style with
        | .plain => f.refuse 2 (String.ofList whole ++ ": invalid directive")
        | .extended =>
          f.refuse 1 (String.singleton (Char.ofNat 96) ++ String.singleton kind ++
            "': invalid format character")
        | .apart =>
          f.refuse 1 (String.ofList whole ++ ": invalid conversion specification"), [])

def once (style : Style) : Nat → List Char → Formatted → Formatted
  | 0, _, f => f
  | _, [], f => f
  | room + 1, c :: s, f =>
    if f.isOver then f
    else if c = '\\' then
      if style = .apart && s.head? == some 'c' then { f with isOver := true }
      else
        let (shown, rest) := escaped (style ≠ .plain) s
        once style room rest (f.add shown)
    else if c = '%' then
      match s with
      | '%' :: rest => once style room rest (f.add ['%'])
      | s =>
        let (f, rest) := directive style s f
        once style room rest f
    else once style room s (f.add [c])

def again (style : Style) (format : List Char) : Nat → Formatted → Formatted
  | 0, f => f
  | room + 1, f =>
    let after := once style (format.length + 1) format f
    if after.isOver || after.left.isEmpty || after.left.length = f.left.length then after
    else again style format room after

def formatted (style : Style) (format : String) (args : List String) : Formatted :=
  again style format.toList (args.length + 1) { left := args }

end Converge.Shell.Format
