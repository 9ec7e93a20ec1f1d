import Converge.Shell.Pattern

set_option autoImplicit false

namespace Converge.Shell

inductive Atom where
  | char (c : Char) (isQuoted : Bool)
  -- A quotation mark: there is a field here even if nothing else is.
  | mark
  deriving DecidableEq

inductive Region where
  | none
  | split
  | parted
  deriving DecidableEq

structure Segment where
  atoms : List Atom
  region : Region := .none

namespace Atom

def text (isQuoted : Bool) (s : String) : List Atom := s.toList.map (.char · isQuoted)

def marks (atoms : List Atom) : List Mark :=
  atoms.filterMap fun a => match a with
    | .char c q => some (c, q)
    | .mark => Option.none

end Atom

def markText (s : List Mark) : String := String.ofList (s.map (·.1))

namespace Field

def nul : Char := Char.ofNat 0

def isStandardBlank (c : Char) : Bool := c == ' ' || c == '\t' || c == '\n' || c == nul

structure Splitting where
  done : List (List Atom) := []
  current : List Atom := []
  afterBlank : Bool := false
  isParted : Bool := false
  limit : Option Nat := none
  -- What may be dropped at the end, backwards, once the last field has been reached.
  trailing : List Atom := []

namespace Splitting

def addLast (s : Splitting) (a : Atom) (isBlank isSeparator : Bool) : Splitting :=
  if isBlank then { s with trailing := a :: s.trailing }
  else if isSeparator && s.afterBlank then
    { s with trailing := a :: s.trailing, afterBlank := false }
  else { s with current := a :: (s.trailing ++ s.current), trailing := [], afterBlank := false }

def close (s : Splitting) : Splitting :=
  { s with done := s.current.reverse :: s.done, current := [] }

def take (separators : List Char) (afterParted : Bool) (s : Splitting) (a : Atom) : Splitting :=
  match a with
  | .mark => { s with current := a :: s.current }
  | .char c isQuoted =>
    let isSeparator := !isQuoted && (c = nul || (!s.isParted && separators.contains c))
    let isBlank := isSeparator && isStandardBlank c
    if s.limit = some 0 then s.addLast a isBlank isSeparator
    else if s.afterBlank && isBlank then s
    else if s.afterBlank && isSeparator then { s with afterBlank := false }
    else if isSeparator then
      let endsInBlank := if afterParted || s.isParted then false else isBlank
      if s.current.isEmpty && endsInBlank then { s with afterBlank := false }
      else
        match s.limit with
        | some 1 =>
          { s with limit := some 0, trailing := [a], afterBlank := endsInBlank }
        | limit => { s.close with limit := limit.map (· - 1), afterBlank := endsInBlank }
    else { s with current := a :: s.current, afterBlank := false }

def segment (separators : List Char) (s : Splitting) (g : Segment) : Splitting :=
  match g.region with
  | .none =>
    if s.limit = some 0 then
      { s with current := g.atoms.reverse ++ (s.trailing ++ s.current), trailing := [] }
    else { s with current := g.atoms.reverse ++ s.current }
  | region =>
    let after := s.isParted
    g.atoms.foldl (take separators after)
      { s with isParted := region = .parted, afterBlank := false }

def fields (s : Splitting) : List (List Atom) :=
  (if s.isParted || !s.current.isEmpty then s.close else s).done.reverse

end Splitting

def split (separators : List Char) (limit : Option Nat) (segments : List Segment) :
    List (List Atom) :=
  (segments.foldl (Splitting.segment separators) { limit := limit }).fields

end Field

end Converge.Shell
