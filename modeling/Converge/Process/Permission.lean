set_option autoImplicit false

namespace Converge.Process.Permission

def all : Nat := 0o7777

def letters (bits : Nat) : String :=
  (if bits &&& 4 ≠ 0 then "r" else "") ++ (if bits &&& 2 ≠ 0 then "w" else "") ++
    if bits &&& 1 ≠ 0 then "x" else ""

def row (mode : Nat) : String :=
  let one (bits special : Nat) (mark : Char) : List Char :=
    let runs := bits &&& 1 ≠ 0
    [if bits &&& 4 ≠ 0 then 'r' else '-', if bits &&& 2 ≠ 0 then 'w' else '-',
      if mode &&& special ≠ 0 then if runs then mark else mark.toUpper else if runs then 'x' else '-']
  String.ofList (one (mode / 64 % 8) 0o4000 's' ++ one (mode / 8 % 8) 0o2000 's' ++
    one (mode % 8) 0o1000 't')

def isOctal (c : Char) : Bool := '0' ≤ c && c ≤ '7'

def octal (digits : List Char) : Nat := digits.foldl (fun n c => n * 8 + (c.toNat - 48)) 0

def digits (mode : Nat) : String :=
  let ds := Nat.toDigits 8 mode
  String.ofList (List.replicate (4 - ds.length) '0' ++ ds)

def bitsOf : Char → Nat
  | 'u' => 0o4700
  | 'g' => 0o2070
  | 'o' => 0o1007
  | 'a' => all
  | _ => 0

def allowed (isDirectory : Bool) (mode : Nat) (cs : List Char) : Nat :=
  let everybody (bits : Nat) : Nat := bits * 0o111
  cs.foldl (fun n c => n ||| (match c with
    | 'r' => 0o444
    | 'w' => 0o222
    | 'x' => 0o111
    | 'X' => if isDirectory || mode &&& 0o111 ≠ 0 then 0o111 else 0
    | 's' => 0o6000
    | 't' => 0o1000
    | 'u' => everybody (mode / 64 % 8)
    | 'g' => everybody (mode / 8 % 8)
    | 'o' => everybody (mode % 8)
    | _ => 0)) 0

-- Signs with letters behind them, one after another. `affected` is 0 if nobody is named; then what
-- the mask takes away stays as it is.
def actions (isDirectory : Bool) (mask affected : Nat) : Nat → Nat → List Char → Option Nat
  | 0, _, _ => none
  | _, mode, [] => some mode
  | room + 1, mode, sign :: rest =>
    let numbers := rest.takeWhile isOctal
    let cs := rest.takeWhile ("rwxXstugo".toList.contains ·)
    let isNumber := !numbers.isEmpty && affected = 0
    let value := if isNumber then octal numbers else allowed isDirectory mode cs
    let limit := if isNumber then all else if affected = 0 then all &&& (all ^^^ (mask &&& all)) else affected
    -- A directory keeps the marks that nobody speaks of.
    let omitted := if isDirectory && !isNumber then 0o6000 &&& (all ^^^ (value &&& 0o6000)) else 0
    let changed := value &&& limit &&& (all ^^^ omitted)
    let kept := (if affected = 0 then 0 else all ^^^ affected) ||| omitted
    let next : Option Nat := match sign with
      | '+' => some (mode ||| changed)
      | '-' => some (mode &&& (all ^^^ changed))
      | '=' => some ((mode &&& kept) ||| changed)
      | _ => none
    match next with
    | some mode => actions isDirectory mask affected room mode (rest.drop (if isNumber then numbers else cs).length)
    | none => none

def symbolic (isDirectory : Bool) (mask mode : Nat) (s : String) : Option Nat :=
  let clause (mode : Option Nat) (text : String) : Option Nat := do
    let start ← mode
    let cs := text.toList
    let who := cs.takeWhile ("ugoa".toList.contains ·)
    let affected := who.foldl (fun n c => n ||| bitsOf c) 0
    let rest := cs.drop who.length
    if rest.isEmpty then none else actions isDirectory mask affected (rest.length + 1) start rest
  (s.splitOn ",").foldl clause (some mode)

def applied (isDirectory : Bool) (mask mode : Nat) (s : String) : Option Nat :=
  let cs := s.toList
  if !cs.isEmpty && cs.all isOctal then
    let n := octal cs
    if all < n then none
    else if isDirectory && cs.length < 5 then some (n ||| (mode &&& 0o6000))
    else some n
  else symbolic isDirectory mask mode s

end Converge.Process.Permission
