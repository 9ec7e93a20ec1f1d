import Converge.Shell.Arithmetic
import Converge.Shell.Tree

set_option autoImplicit false

namespace Converge.Shell.Brace

/-- A word character by character; what is quoted or stands for something else is one part. -/
inductive Part where
  | char (c : Char)
  | piece (p : Piece)

def parts : Bool → Word → List Part
  | _, [] => []
  | inQuotes, .mark :: rest => .piece .mark :: parts (!inQuotes) rest
  | inQuotes, .text s isQuoted :: rest =>
    (if inQuotes || isQuoted then [.piece (.text s isQuoted)] else s.toList.map .char) ++
      parts inQuotes rest
  | inQuotes, p :: rest => .piece p :: parts inQuotes rest

def word : List Part → Word
  | [] => []
  | .piece p :: rest => p :: word rest
  | .char c :: rest =>
    match word rest with
    | .text s false :: others => .text (String.singleton c ++ s) false :: others
    | others => .text (String.singleton c) false :: others

-- The alternatives up to the closing brace, and what follows it. `current` is the one under way,
-- backwards.
def alternatives : Nat → Nat → List Part → List (List Part) → List Part →
    Option (List (List Part) × List Part)
  | 0, _, _, _, _ => none
  | _, _, _, _, [] => none
  | room + 1, depth, current, done, part :: rest =>
    match part with
    | .char '\x7b' => alternatives room (depth + 1) (part :: current) done rest
    | .char '\x7d' =>
      match depth with
      | 0 => some ((current.reverse :: done).reverse, rest)
      | depth + 1 => alternatives room depth (part :: current) done rest
    | .char ',' =>
      if depth = 0 then alternatives room depth [] (current.reverse :: done) rest
      else alternatives room depth (part :: current) done rest
    | part => alternatives room depth (part :: current) done rest

def plain? : List Part → Option (List Char)
  | [] => some []
  | .char c :: rest => (plain? rest).map (c :: ·)
  | .piece _ :: _ => none

def row (start goal step : Int) : List Int :=
  let stride := if step = 0 then 1 else step.natAbs
  let count := (goal - start).natAbs / stride + 1
  (List.range (min count 100000)).map fun k =>
    if start ≤ goal then start + Int.ofNat (k * stride) else start - Int.ofNat (k * stride)

def padded (width : Nat) (n : Int) : List Char :=
  let digits := (toString n.natAbs).toList
  let signs := if n < 0 then ['-'] else []
  signs ++ List.replicate (width - digits.length - signs.length) '0' ++ digits

def range? (s : List Char) : Option (List (List Char)) :=
  let texts := (String.ofList s).splitOn ".."
  let bounds (a b : String) (step : Int) : Option (List (List Char)) :=
    match Arithmetic.integer? false a.toList, Arithmetic.integer? false b.toList with
    | some m, some n =>
      let hasZero (t : String) : Bool :=
        let digits := t.toList.filter (· ≠ '-')
        1 < digits.length && digits.head? == some '0'
      let width := if hasZero a || hasZero b then max a.length b.length else 0
      some ((row m n step).map (padded width))
    | _, _ =>
      match a.toList, b.toList with
      | [x], [y] =>
        if x.isAlpha && y.isAlpha then
          some ((row x.toNat y.toNat step).map fun n => [Char.ofNat n.toNat])
        else none
      | _, _ => none
  match texts with
  | [a, b] => bounds a b 1
  | [a, b, c] => (Arithmetic.integer? false c.toList).bind (bounds a b)
  | _ => none

def expandParts : Nat → List Part → List (List Part)
  | 0, parts => [parts]
  | _, [] => [[]]
  | room + 1, .char '\x7b' :: rest =>
    match alternatives (rest.length + 1) 0 [] [] rest with
    | none => (expandParts room rest).map (.char '\x7b' :: ·)
    | some (found, after) =>
      let choices : Option (List (List Part)) := match found with
        | [one] => ((plain? one).bind range?).map fun texts => texts.map fun t => t.map .char
        | many => some (many.flatMap (expandParts room))
      match choices with
      | some choices =>
        let tails := expandParts room after
        choices.flatMap fun choice => tails.map (choice ++ ·)
      | none =>
        (expandParts room rest).map (.char '\x7b' :: ·)
  | room + 1, part :: rest => (expandParts room rest).map (part :: ·)

def hasBrace : Word → Bool
  | [] => false
  | .text s false :: rest => s.toList.contains '\x7b' || hasBrace rest
  | _ :: rest => hasBrace rest

def expand (w : Word) : List Word :=
  if !hasBrace w then [w]
  else
    let ps := parts false w
    (expandParts (ps.length + 1) ps).map word

end Converge.Shell.Brace
