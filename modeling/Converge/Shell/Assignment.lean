import Converge.Shell.Expansion

set_option autoImplicit false

namespace Converge.Shell.Assigning

open Eval

variable (e : Engine)

-- An index in brackets at the front of an element of an array, and the rest of the element.
def indexed? : Word → Option (Word × Word)
  | .text s false :: rest =>
    match s.toList with
    | '[' :: inside =>
      match Word.splitAt (· == ']') (.text (String.ofList inside) false :: rest) with
      | (index, some (.text after isQuoted :: rest)) =>
        match after.toList with
        | '=' :: value => some (index, .text (String.ofList value) isQuoted :: rest)
        | _ => none
      | _ => none
    | _ => none
  | _ => none

def elements (v : Variable) : List Word → Int → List (String × String) →
    Eval (List (String × String))
  | [], _, done => return done
  | w :: rest, next, done => do
    match indexed? w with
    | some (index, value) => do
      let i ← Expansion.index e (some v) index
      let s ← Expansion.text e value { tilde := true }
      let number := (Arithmetic.integer? false i.toList).getD 0
      elements v rest (number + 1) (done.filter (·.1 ≠ i) ++ [(i, s)])
    | none => do
      let fields ← Expansion.fields e w
      let numbered := (List.range fields.length).zip fields |>.map fun (k, s) =>
        (toString (next + Int.ofNat k), s)
      let others := done.filter fun d => !numbered.any (·.1 == d.1)
      elements v rest (next + Int.ofNat fields.length) (others ++ numbered)

def changeable (name : String) : Eval Variable := do
  let sh ← get
  let v := (sh.find? name).getD {}
  if v.isReadonly then
    report (name ++ if sh.isExtended then ": readonly variable" else ": is read only")
    setStatus 1
    throw Leave.error
  return v

def array (name : String) (appends : Bool) (words : List Word) : Eval Unit := do
  let v ← changeable name
  let before := if appends then Expansion.elementsOf v else []
  let next := if !appends || v.isAssociative then 0
    else (before.getLast?.bind fun p => Arithmetic.integer? false p.1.toList).getD (-1) + 1
  let es ← elements e v words next before
  modify fun sh => sh.put name { v with elements := some es, value := none }

def asValue (v : Variable) (s : String) : Eval String := do
  if v.isInteger then return toString (← Expansion.calculate (if s = "" then "0" else s))
  else return s

def appended (v : Variable) (old s : String) : Eval String := do
  if v.isInteger then
    return toString (← Expansion.calculate ((if old = "" then "0" else old) ++ "+(" ++ s ++ ")"))
  else return old ++ s

def element (name : String) (index : Word) (appends : Bool) (value : Word) : Eval Unit := do
  let v ← changeable name
  let i ← Expansion.index e (some v) index
  let es := Expansion.elementsOf v
  let s ← Expansion.text e value { assignment := true }
  let old := (es.lookup i).getD ""
  let s ← if appends then appended v old s else asValue v s
  -- The order of indices that are texts is that in which they were set.
  let es := if es.any (·.1 == i) then es.map fun p => if p.1 = i then (i, s) else p else es ++ [(i, s)]
  modify fun sh => sh.put name { v with elements := some es, value := none }

def elementsIn? : Word → Option (List Word)
  | [] => none
  | .array words :: _ => some words
  | _ :: rest => elementsIn? rest

def value (name : String) (appends : Bool) (w : Word) : Eval String := do
  let s ← Expansion.text e w { assignment := true }
  let v := ((← get).find? name).getD {}
  if appends then appended v (v.first.getD "") s else asValue v s

def perform : Assignment → Eval String
  | .mk name index appends w => do
    let sign := if appends then "+=" else "="
    match index, elementsIn? w with
    | some i, _ => do
      element e name i appends w
      return name ++ sign
    | none, some words => do
      array e name appends words
      return name ++ sign ++ "()"
    | none, none => do
      let s ← value e name appends w
      assign name s
      return name ++ sign ++ s

end Converge.Shell.Assigning
