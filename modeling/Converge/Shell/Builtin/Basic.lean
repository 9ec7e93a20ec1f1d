import Converge.Process.Image
import Converge.Shell.Expansion

set_option autoImplicit false

namespace Converge.Shell

abbrev Builtin := List String → Eval Nat

namespace Builtin

open Eval

-- Options in front of other words: each one with its argument. Those that take one are followed by
-- a colon.
def optionsWithin (allowed : List Char) (taken : List (Char × String)) :
    Nat → List String → Eval (List (Char × String) × List String)
  | 0, ws => return (taken.reverse, ws)
  | room + 1, ws =>
    match ws with
    | [] => return (taken.reverse, [])
    | w :: rest =>
      match w.toList with
      | ['-', '-'] => return (taken.reverse, rest)
      | '-' :: c :: more =>
        if c = ':' || !allowed.contains c then
          fail ("Illegal option -" ++ String.singleton c)
        else
          let wants := ((allowed.dropWhile (· ≠ c)).drop 1).head? == some ':'
          if !wants then
            let rest := if more.isEmpty then rest else String.ofList ('-' :: more) :: rest
            optionsWithin allowed ((c, "") :: taken) room rest
          else
            match more, rest with
            | [], [] => fail ("No arg for -" ++ String.singleton c ++ " option")
            | [], a :: rest => optionsWithin allowed ((c, a) :: taken) room rest
            | more, rest => optionsWithin allowed ((c, String.ofList more) :: taken) room rest
      | _ => return (taken.reverse, ws)

def options (allowed : String) (ws : List String) : Eval (List (Char × String) × List String) :=
  optionsWithin allowed.toList [] ((ws.map String.length).foldl (· + ·) ws.length + 1) ws

def number (s : String) : Eval Nat := do
  match Arithmetic.count? s.toList with
  | some n => return n
  | none => fail ("Illegal number: " ++ s)

def put (text : String) : Eval Nat := do
  if ← say text then return 0
  let command := ((← get).builtin.map (· ++ ": ")).getD ""
  report (if (← get).isExtended then "write error: No space left on device" else command ++ "I/O error")
  return 1

def putLine (text : String) : Eval Nat := put (text ++ "\n")

def putLines (lines : List String) : Eval Nat := put (String.join (lines.map (· ++ "\n")))

def quotedWithin : Nat → List Char → List Char
  | 0, _ => []
  | room + 1, s =>
    let front := s.takeWhile (· ≠ '\'')
    let rest := s.drop front.length
    let signs := rest.takeWhile (· == '\'')
    let after := rest.drop signs.length
    '\'' :: front ++ ['\''] ++
      (if signs.isEmpty then [] else '"' :: signs ++ ['"']) ++
        (if after.isEmpty then [] else quotedWithin room after)

def quoted (s : String) : String := String.ofList (quotedWithin (s.length + 1) s.toList)

def listing (front : String) (keep : Variable → Bool) : Eval (List String) := do
  let sh ← get
  let kept := sh.bindings.filter fun v => keep v.2
  let sorted := kept.mergeSort fun a b => !(b.1 < a.1)
  let sign (s : String) : String :=
    if sh.isExtended then
      "=\"" ++ String.ofList (s.toList.flatMap fun c =>
        if c = '"' || c = '\\' || c = '$' then ['\\', c] else [c]) ++ "\""
    else "=" ++ quoted s
  return sorted.map fun (name, v) => front ++ name ++ ((v.first.map sign).getD "")

def parted (w : String) : String × Option String :=
  let name := w.toList.takeWhile (· ≠ '=')
  (String.ofList name,
    if name.length = w.length then none
    else some (String.ofList (w.toList.drop (name.length + 1))))

def checkName (name : String) : Eval Unit := do
  if !Read.isName name.toList then
    if (← get).isExtended then
      report (String.singleton Read.backquote ++ name ++ "': not a valid identifier")
      setStatus 1
      throw Leave.error
    else fail (name ++ ": bad variable name")

end Builtin

end Converge.Shell
