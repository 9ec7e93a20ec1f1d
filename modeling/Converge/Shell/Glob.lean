import Converge.Process.Status
import Converge.Shell.Field
import Converge.Shell.Tree

set_option autoImplicit false

namespace Converge.Shell.Glob

open Converge.Process

def parts : Nat → List Mark → List (List Mark × List Mark)
  | 0, _ => []
  | _, [] => []
  | room + 1, s =>
    let slashes := s.takeWhile fun m => m.1 == '/'
    let rest := s.drop slashes.length
    let part := rest.takeWhile fun m => m.1 ≠ '/'
    (slashes, part) :: parts room (rest.drop part.length)

def literal : List Mark → String
  | ('\\', false) :: (c, _) :: s => String.singleton c ++ literal s
  | (c, _) :: s => String.singleton c ++ literal s
  | [] => ""

def matching (state : State) (self : Nat) (dialect : Dialect) :
    String → List (List Mark × List Mark) → List String
  | front, [] => [front]
  | front, (slashes, part) :: rest =>
    let caret := decide (dialect = .extended)
    let front := front ++ literal slashes
    if !Pattern.isPattern caret part then
      let path := front ++ literal part
      if rest.isEmpty then if (state.status? self false path).isSome then [path] else []
      else matching state self dialect path rest
    else
      let items := Pattern.items caret part
      let found := (state.names self (if front = "" then "." else front)).toOption.getD []
      let found := if dialect = .plain then "." :: ".." :: found else found
      let showsHidden := match items with
        | .char '.' :: _ => true
        | _ => false
      let fitting := found.filter fun name =>
        (showsHidden || name.toList.head? ≠ some '.') && Pattern.fits items name.toList
      fitting.flatMap fun name =>
        if rest.isEmpty then [front ++ name]
        else if state.status? self true (front ++ name) |>.any (·.kind = .directory) then
          matching state self dialect (front ++ name) rest
        else []

def sorted (names : List String) : List String := names.mergeSort fun a b => !(b < a)

def expand (state : State) (self : Nat) (dialect : Dialect) (field : List Mark) : List String :=
  if !Pattern.isPattern (dialect = .extended) field then [markText field]
  else
    match sorted (matching state self dialect "" (parts (field.length + 1) field)) with
    | [] => [markText field]
    | found => found

end Converge.Shell.Glob
