import Converge.Text.CharSet

set_option autoImplicit false

namespace Converge.Shell

open Converge.Text

abbrev Mark := Char × Bool

inductive Item where
  | char (c : Char)
  | any
  | star
  | oneOf (isNegated : Bool) (members : List Member)
  deriving DecidableEq, Repr

namespace Pattern

-- The class whose name begins behind a bracket and a colon, and how long it is written.
def classAt? (s : List Mark) : Option (String × Nat) :=
  Member.classNames.findSome? fun name =>
    let written := ':' :: name.toList ++ [':', ']']
    if written.isPrefixOf (s.map (·.1)) then some (name, written.length) else none

def oneChar : List Mark → Option (Char × List Mark)
  | ('\\', false) :: (c, _) :: s => some (c, s)
  | (c, _) :: s => some (c, s)
  | [] => none

def members : Nat → Bool → List Member → List Mark → Option (List Member × List Mark)
  | 0, _, _, _ => none
  | room + 1, isFirst, done, s =>
    match s with
    | [] => none
    | (c, isQuoted) :: rest =>
      if c = ']' && !isQuoted && !isFirst then some (done.reverse, rest)
      else
        match if c = '[' && !isQuoted then classAt? rest else none with
        | some (name, n) => members room false (.class_ name :: done) (rest.drop n)
        | none =>
          match oneChar s with
          | none => none
          | some (low, rest) =>
            let isRange := match rest with
              | ('-', false) :: (next, nextQuoted) :: _ => next ≠ ']' || nextQuoted
              | _ => false
            match if isRange then oneChar (rest.drop 1) else none with
            | some (high, rest) => members room false (.range low high :: done) rest
            | none => members room false (.range low low :: done) rest

-- The meaning of a pattern. A bracket that nothing closes stands for itself. With `caret`, two
-- signs negate what stands between brackets.
def itemsWithin (caret : Bool) : Nat → List Mark → List Item
  | 0, _ => []
  | _, [] => []
  | room + 1, (c, true) :: s => .char c :: itemsWithin caret room s
  | room + 1, ('*', false) :: s => .star :: itemsWithin caret room s
  | room + 1, ('?', false) :: s => .any :: itemsWithin caret room s
  | room + 1, ('\\', false) :: (c, _) :: s => .char c :: itemsWithin caret room s
  | room + 1, ('[', false) :: s =>
    let isNegated := match s with
      | ('!', false) :: _ => true
      | ('^', false) :: _ => caret
      | _ => false
    match members (s.length + 1) true [] (if isNegated then s.drop 1 else s) with
    | some (ms, rest) => .oneOf isNegated ms :: itemsWithin caret room rest
    | none => .char '[' :: itemsWithin caret room s
  | room + 1, (c, false) :: s => .char c :: itemsWithin caret room s

def items (caret : Bool) (s : List Mark) : List Item := itemsWithin caret (s.length + 1) s

def fitsChar (c : Char) : Item → Bool
  | .char d => c = d
  | .any | .star => true
  | .oneOf isNegated ms => ms.any (Member.covers c) != isNegated

-- A text, and what is left of it when more and more of its front is dropped.
def endings : List Char → List (List Char)
  | [] => [[]]
  | c :: s => (c :: s) :: endings s

def fits : List Item → List Char → Bool
  | [], s => s.isEmpty
  | .star :: rest, s => (endings s).any (fits rest)
  | item :: rest, s =>
    match s with
    | [] => false
    | c :: s => fitsChar c item && fits rest s

def ofText (s : String) : List Item := items true (s.toList.map fun c => (c, false))

def isPattern (caret : Bool) (s : List Mark) : Bool :=
  (items caret s).any fun item => match item with
    | .char _ => false
    | _ => true

def front? (longest : Bool) (pattern : List Item) (s : List Char) : Option Nat :=
  let counts := List.range (s.length + 1)
  (if longest then counts.reverse else counts).find? fun n => fits pattern (s.take n)

def dropFront (longest : Bool) (pattern : List Item) (s : List Char) : List Char :=
  s.drop ((front? longest pattern s).getD 0)

def dropBack (longest : Bool) (pattern : List Item) (s : List Char) : List Char :=
  let counts := List.range (s.length + 1)
  let found := (if longest then counts else counts.reverse).find? fun n => fits pattern (s.drop n)
  s.take (found.getD s.length)

end Pattern

end Converge.Shell
