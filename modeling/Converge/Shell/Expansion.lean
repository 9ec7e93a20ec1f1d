import Converge.Shell.Basic
import Converge.Shell.Calculation
import Converge.Shell.Format
import Converge.Shell.Glob

set_option autoImplicit false
set_option maxRecDepth 2000

namespace Converge.Shell

open Converge.Process

structure Purpose where
  isFull : Bool := false
  -- A tilde at the front stands for a directory.
  tilde : Bool := false
  -- So it does behind the signs of an assignment.
  assignment : Bool := false
  -- It is the word of an operator: what is written in it may be split.
  isInner : Bool := false
  isQuoted : Bool := false

/-- What one part of the shell needs of the others. -/
structure Engine where
  run : Command → Mode → Eval Nat
  -- Reads a text as a program and runs it.
  text : String → Mode → Eval Nat
  expand : List Piece → Purpose → Eval (List Segment)
  -- Goes on with a loop, given the status so far.
  loop : Bool → Command → Command → Mode → Nat → Eval Nat
  arithmeticLoop : String → String → Command → Mode → Nat → Eval Nat

namespace Expansion

open Eval

inductive Found where
  | unset
  | text (s : String)
  -- Many values, which a star joins when it is quoted.
  | many (values : List String) (isStar : Bool)

def optionLetters (sh : Interpreter) : String :=
  if sh.isExtended then
    let options := 'h' :: 'B' :: sh.options
    String.ofList ("abefhimnpuvxBCEV".toList.filter options.contains) ++
      (if sh.isArgument then "c" else "") ++ (if sh.options.contains 's' then "s" else "")
  else String.ofList ("ubaCEVvxsnmiIfe".toList.filter sh.options.contains)

def inOrder (v : Variable) (es : List (String × String)) : List (String × String) :=
  if v.isAssociative then es
  else es.mergeSort fun a b => decide
    ((Arithmetic.integer? false a.1.toList).getD 0 ≤ (Arithmetic.integer? false b.1.toList).getD 0)

def elementsOf (v : Variable) : List (String × String) :=
  match v.elements with
  | some es => inOrder v es
  | none => (v.value.map fun s => ("0", s)).toList

def found (sh : Interpreter) (name : String) : Found :=
  let ofOption : Option String → Found
    | some s => .text s
    | none => .unset
  match name.toList with
  | ['@'] => .many sh.positional false
  | ['*'] => .many sh.positional true
  | ['#'] => .text (toString sh.positional.length)
  | ['?'] => .text (toString sh.status)
  | ['-'] => .text (optionLetters sh)
  | ['$'] => .text (toString sh.root)
  | ['!'] => if sh.background = 0 then .unset else .text (toString sh.background)
  | c :: rest =>
    if Text.Decimal.isDigit c then
      let n := Text.Decimal.value (c :: rest)
      if n = 0 then .text sh.name else ofOption (sh.positional[n - 1]?)
    else if name = "PIPESTATUS" && sh.isExtended then
      ofOption (sh.pipeStatuses.head?.map toString)
    else ofOption (sh.value? name)
  | [] => .unset

def joint (sh : Interpreter) : String :=
  match sh.value? "IFS" with
  | some s => String.ofList (s.toList.take 1)
  | none => " "

def joined (sh : Interpreter) : Found → String
  | .unset => ""
  | .text s => s
  | .many values _ => String.intercalate (joint sh) values

def parted (isQuoted : Bool) (sign : Char) (values : List String) : List Atom :=
  ((values.map (Atom.text isQuoted)).intersperse [.char sign false]).flatten

def valueAtoms (sh : Interpreter) (p : Purpose) : Found → List Atom
  | .unset => []
  | .text s => Atom.text p.isQuoted s
  | .many values isStar =>
    if p.isFull && !p.isQuoted then
      parted false (if (sh.value? "IFS").isSome then Field.nul else ' ') values
    else if p.isFull && !isStar then parted true Field.nul values
    else Atom.text p.isQuoted (String.intercalate (joint sh) values)

def valueRegion (p : Purpose) : Found → Region
  | .many values isStar =>
    if !p.isQuoted then .split
    else if !isStar && !values.isEmpty && p.isFull then .parted else .none
  | _ => if p.isQuoted then .none else .split

def valueSegment (sh : Interpreter) (p : Purpose) (f : Found) : Segment :=
  ⟨valueAtoms sh p f, valueRegion p f⟩

def size (sh : Interpreter) : Found → Nat
  | .unset => 0
  | .text s => s.length
  | .many values isStar =>
    (joined sh (.many values isStar)).length

def isNull (sh : Interpreter) (f : Found) : Bool := size sh f = 0

def Found.map (f : String → String) : Found → Found
  | .unset => .unset
  | .text s => .text (f s)
  | .many values isStar => .many (values.map f) isStar

def atoms (segments : List Segment) : List Atom := segments.flatMap (·.atoms)

variable (e : Engine)

def text (w : Word) (p : Purpose) : Eval String := do
  return markText (Atom.marks (atoms (← e.expand w p)))

def pattern (w : Word) : Eval (List Item) := do
  let sh ← get
  return Pattern.items sh.isExtended (Atom.marks (atoms (← e.expand w { tilde := true })))

def fields (w : Word) : Eval (List String) := do
  let segments ← e.expand w { isFull := true, tilde := true }
  let sh ← get
  let fields := Field.split sh.separators.toList none segments
  if sh.options.contains 'f' then return fields.map fun f => markText (Atom.marks f)
  let marks := fields.map Atom.marks
  if marks.any (Pattern.isPattern sh.isExtended) then
    let state ← act Act.get
    return marks.flatMap (Glob.expand state sh.self sh.dialect)
  else return marks.map markText

def number (sh : Interpreter) (name : String) : Except String Int :=
  match sh.value? name with
  | none | some "" => .ok 0
  | some s =>
    match Arithmetic.integer? true s.toList with
    | some n => .ok n
    | none => .error ("Illegal number: " ++ s)

def setNumber (sh : Interpreter) (name : String) (n : Int) : Except String Interpreter :=
  let old := (sh.find? name).getD {}
  if old.isReadonly then
    .error (name ++ if sh.isExtended then ": readonly variable" else ": is read only")
  else .ok (sh.put name { old with value := some (toString n) })

def indexed (name : String) : String × Option String :=
  let base := name.toList.takeWhile (· ≠ '[')
  match name.toList.drop base.length with
  | _ :: inside => (String.ofList base, some (String.ofList inside.dropLast))
  | [] => (name, none)

def elementKey (calculate : Interpreter → String → Except String Int) (sh : Interpreter) (v : Option Variable)
    (index : String) : Except String String := do
  if v.any (·.isAssociative) then return index
  let n ← calculate sh index
  if 0 ≤ n then return toString n
  let last := ((v.map elementsOf).getD []).getLast?.bind fun p => Arithmetic.integer? false p.1.toList
  return toString ((last.getD (-1)) + 1 + n)

-- Reads a variable, or an element of one, whose text may be an expression itself, to a certain
-- depth.
def operand : Nat → Interpreter → String → Except String Int
  | 0, _, name =>
    .error (Calculation.message name.toList name.toList "expression recursion level exceeded")
  | depth + 1, sh, name => do
    let calculate (sh : Interpreter) (s : String) : Except String Int :=
      (Calculation.evaluate { get := operand depth, set := setNumber } sh s.toList).map (·.1)
    let text ← match indexed name with
      | (base, none) => do
        if (sh.value? base).isNone && sh.options.contains 'u' then throw (base ++ ": unbound variable")
        pure (sh.value? base)
      | (base, some index) => do
        let v := sh.find? base
        let key ← elementKey calculate sh v index
        pure (((v.map elementsOf).getD []).lookup key)
    calculate sh (text.getD "")

def operandDepth : Nat := 1024

def setOperand (sh : Interpreter) (name : String) (n : Int) : Except String Interpreter := do
  match indexed name with
  | (_, none) => setNumber sh name n
  | (base, some index) => do
    let v := (sh.find? base).getD {}
    let calculate (sh : Interpreter) (s : String) : Except String Int :=
      (Calculation.evaluate { get := operand operandDepth, set := setNumber } sh s.toList).map (·.1)
    let key ← elementKey calculate sh (some v) index
    let es := elementsOf v
    let es := if es.any (·.1 == key) then
        es.map fun x => if x.1 = key then (key, toString n) else x
      else es ++ [(key, toString n)]
    return sh.put base { v with elements := some es }

def calculation (sh : Interpreter) (source : String) : Except String (Int × Interpreter) :=
  if sh.isExtended then
    Calculation.evaluate { get := operand operandDepth, set := setOperand } sh source.toList
  else
    match Arithmetic.evaluate { get := number, set := setNumber } sh source.toList with
    | .ok found => .ok found
    | .error (.variable_ m) => .error m
    | .error (.expression m) => .error ("arithmetic expression: " ++ m ++ ": \"" ++ source ++ "\"")

def calculate (source : String) : Eval Int := do
  let sh ← get
  match calculation sh source with
  | .ok (n, sh) =>
    set sh
    return n
  | .error message => fail message

def calculated (w : Word) : Eval Int := do
  calculate (← text e w { isQuoted := true })

def withoutLineEnds (s : List Char) : List Char := (s.reverse.dropWhile (· == '\n')).reverse

def finish : Eval Unit := do
  let sh ← get
  match sh.traps.lookup 0 with
  | some program =>
    if program ≠ "" then
      set { sh with traps := sh.traps.filter (·.1 ≠ 0), skip := .none }
      let r ← caught (e.text program {})
      -- Only an end that the program asks for itself changes the status.
      match r with
      | .error .exit => pure ()
      | _ => setStatus sh.status
  | none => pure ()

def asChild (work : Eval Nat) : Eval Unit := do
  match ← caught work with
  | .ok n => setStatus n
  | .error _ => pure ()
  finish e

def output (body : Command) : Eval String := do
  let (input, out) ← act Act.pipe
  let child ← fork (asChild e do
    act do
      Act.close input
      if out ≠ 1 then
        let _ ← Act.duplicate out 1
        Act.close out
    e.run body { isLast := true })
  act (Act.close out)
  let octets := (← act (Act.readAll input)).toOption.getD []
  act (Act.close input)
  let ending ← act (Act.waitFor child)
  let status := match ending with
    | .exited n => n
    | .killed n => 128 + n
  match ending with
  | .killed n =>
    if n ≠ Signal.interrupt && n ≠ Signal.brokenPipe && !(← get).isExtended then
      act (Act.complain ((Signal.words.lookup n).getD ""))
  | _ => pure ()
  modify fun sh => { sh with substituted := status }
  if (← get).isExtended then setStatus status
  return String.ofList (withoutLineEnds ((Text.Raw.ofOctets octets).toList.filter (· ≠ Field.nul)))

def refuseUnset {α : Type} (name : String) : Eval α := do
  let sh ← get
  if sh.isExtended then
    report (name ++ ": unbound variable")
    setStatus 1
    throw Leave.exit
  else fail (name ++ ": parameter not set")

def index (v : Option Variable) (w : Word) : Eval String := do
  if v.any (·.isAssociative) then text e w {}
  else
    let n ← calculate (← text e w { isQuoted := true })
    if n < 0 then
      let last := ((v.map elementsOf).getD []).getLast?.bind fun p =>
        Arithmetic.integer? false p.1.toList
      return toString ((last.getD (-1)) + 1 + n)
    return toString n

def foundAt (name : String) (w : Word) : Eval Found := do
  let sh ← get
  let variable_ := if name = "PIPESTATUS" then
      some { elements := some ((List.range sh.pipeStatuses.length).zip sh.pipeStatuses |>.map
        fun (i, n) => (toString i, toString n)) : Variable }
    else sh.find? name
  let es := (variable_.map elementsOf).getD []
  match Word.bare? w with
  | some "@" => return if variable_.isNone then .unset else .many (es.map (·.2)) false
  | some "*" => return if variable_.isNone then .unset else .many (es.map (·.2)) true
  | _ =>
    let i ← index e variable_ w
    match es.lookup i with
    | some s => return .text s
    | none => return .unset

def sliced (program name : String) (f : Found) (offset : Int) (length : Option Int) : Found :=
  let bounds (n : Nat) : Nat × Nat :=
    let start := if offset < 0 then (n : Int) + offset else offset
    if start < 0 || n < start then (0, 0)
    else
      match length with
      | none => (start.toNat, n - start.toNat)
      | some l =>
        if l < 0 then (start.toNat, ((n : Int) + l - start).toNat) else (start.toNat, l.toNat)
  match f with
  | .unset => .unset
  | .text s =>
    let (start, n) := bounds s.length
    .text (String.ofList ((s.toList.drop start).take n))
  | .many values isStar =>
    -- Positional parameters are counted from the program's name.
    let values := if name = "@" || name = "*" then program :: values else values
    let (start, n) := bounds values.length
    .many ((values.drop start).take n) isStar

def longestFront? (items : List Item) (s : List Char) : Option Nat :=
  ((List.range (s.length + 1)).reverse).find? fun n => Pattern.fits items (s.take n)

def replaced (items : List Item) (replacement : List Char) (everywhere : Bool) :
    Nat → List Char → List Char
  | 0, s => s
  | _, [] => []
  | room + 1, c :: s =>
    match longestFront? items (c :: s) with
    | some (n + 1) =>
      let rest := (c :: s).drop (n + 1)
      replacement ++ if everywhere then replaced items replacement everywhere room rest else rest
    | _ => c :: replaced items replacement everywhere room s

def replacedAt (anchor : Char) (items : List Item) (replacement : List Char) (everywhere : Bool)
    (s : String) : String :=
  let cs := s.toList
  String.ofList (
    if anchor = '#' then
      match longestFront? items cs with
      | some n => replacement ++ cs.drop n
      | none => cs
    else if anchor = '%' then
      match (List.range (cs.length + 1)).find? fun n => Pattern.fits items (cs.drop n) with
      | some n => cs.take n ++ replacement
      | none => cs
    else replaced items replacement everywhere (cs.length + 1) cs)

def recased (change : Char → Char) (items : List Item) (everywhere : Bool) (s : String) : String :=
  let one (c : Char) : Char := if items.isEmpty || Pattern.fits items [c] then change c else c
  match s.toList with
  | [] => ""
  | c :: rest => String.ofList (one c :: if everywhere then rest.map one else rest)

def extended (name : String) (p : Purpose) (operator : ParameterOperator) (words : List Word)
    (f : Found) : Eval (List Segment) := do
  let sh ← get
  let shown (f : Found) : List Segment := [valueSegment sh p f]
  let first := words.headD []
  match operator with
  | .slice => do
    let offset ← calculated e first
    let length ← match words.drop 1 with
      | w :: _ => do pure (some (← calculated e w))
      | [] => pure none
    return shown (sliced sh.name name f offset length)
  | .replace everywhere anchor => do
    let items ← pattern e first
    let replacement ← text e ((words.drop 1).headD []) {}
    return shown (Found.map (replacedAt anchor items replacement.toList everywhere) f)
  | .upper everywhere => do
    let items ← pattern e first
    return shown (Found.map (recased Char.toUpper items everywhere) f)
  | .lower everywhere => do
    let items ← pattern e first
    return shown (Found.map (recased Char.toLower items everywhere) f)
  | .indirect =>
    match f with
    | .text s => return shown (found sh s)
    | _ => return shown .unset
  | .keys =>
    let keys := ((sh.find? name).map elementsOf).getD [] |>.map (·.1)
    return shown (.many keys false)
  | .names =>
    let names := (sh.bindings.map (·.1)).filter fun n => n.startsWith name
    return shown (.many (Glob.sorted names) false)
  | .quoted =>
    let quote (s : String) : String :=
      "'" ++ String.intercalate "'\\''" (s.splitOn "'") ++ "'"
    return shown (Found.map quote f)
  | _ => return shown f

def parameter (name : String) (at_ : Option Word) (operator : ParameterOperator) (orEmpty : Bool)
    (words : List Word) (p : Purpose) : Eval (List Segment) := do
  if operator = .bad then
    if (← get).isExtended then
      fail ("$\x7b" ++ name ++ String.join (words.map Read.Word.plainText) ++ "\x7d: bad substitution")
    else fail "Bad substitution"
  let f ← match at_ with
    | some w => if operator = .keys then pure (.text "") else foundAt e name w
    | none => do pure (found (← get) name)
  let sh ← get
  let isMany := match f with
    | .many _ _ => true
    | _ => false
  let isUnset := match f with
    | .unset => true
    | .many [] _ => sh.isExtended
    | _ => false
  let isMissing := isUnset || (orEmpty && isNull sh f)
  let word := words.headD []
  let inner : Purpose := { p with tilde := true, isInner := true }
  let shown : List Segment := [valueSegment sh p f]
  match operator with
  | .alternate => if isMissing then return [⟨[], valueRegion p f⟩] else e.expand word inner
  | .default_ => if isMissing then e.expand word inner else return shown
  | .assign =>
    if !isMissing then return shown
    let value ← text e word { tilde := true }
    if !Read.isName name.toList then
      if sh.isExtended then fail ("$" ++ name ++ ": cannot assign in this way")
      else fail (name ++ ": bad variable name")
    assign name value
    let sh ← get
    return [valueSegment sh p (found sh name)]
  | .require =>
    if !isMissing then return shown
    if word.isEmpty then
      let tail := if sh.isExtended then
          (if orEmpty then "parameter null or not set" else "parameter not set")
        else "parameter not set" ++ (if orEmpty then " or null" else "")
      if sh.isExtended then
        report (name ++ ": " ++ tail)
        setStatus 127
        throw Leave.exit
      else fail (name ++ ": " ++ tail)
    else
      let message ← text e word { tilde := true }
      if sh.isExtended then
        report (name ++ ": " ++ message)
        setStatus 127
        throw Leave.exit
      else fail (name ++ ": " ++ message)
  | operator =>
    if isUnset && !isMany && sh.options.contains 'u' then refuseUnset name
    match operator with
    | .value => return shown
    | .length =>
      let n := match f with
        | .many values _ => if sh.isExtended then values.length else size sh f
        | f => size sh f
      return [⟨Atom.text p.isQuoted (toString n), if p.isQuoted then .none else .split⟩]
    | .trimFront longest => do
      let items ← pattern e word
      let change (s : String) : String :=
        String.ofList (Pattern.dropFront longest items s.toList)
      match f with
      | .many _ _ =>
        if sh.isExtended then return [valueSegment sh p (Found.map change f)]
        return [valueSegment sh p (.text (change (joined sh f)))]
      | f => return [valueSegment sh p (Found.map change f)]
    | .trimBack longest => do
      let items ← pattern e word
      let change (s : String) : String :=
        String.ofList (Pattern.dropBack longest items s.toList)
      match f with
      | .many _ _ =>
        if sh.isExtended then return [valueSegment sh p (Found.map change f)]
        return [valueSegment sh p (.text (change (joined sh f)))]
      | f => return [valueSegment sh p (Found.map change f)]
    | operator => extended e name p operator words f

def home? (name : String) : Eval (Option String) := do
  let sh ← get
  if name = "" then return sh.value? "HOME"
  let state ← act Act.get
  let accounts := (state.settle.files.readText "/etc/passwd").toOption.getD ""
  return (accounts.splitOn "\n").findSome? fun line =>
    match line.splitOn ":" with
    | user :: _ :: _ :: _ :: _ :: directory :: _ => if user = name then some directory else none
    | _ => none

def tilde? (p : Purpose) (isWhole : Bool) (s : List Char) : Eval (Option (String × List Char)) := do
  match s with
  | '~' :: rest =>
    let name := rest.takeWhile fun c => c ≠ '/' && !(p.assignment && c == ':')
    if name.length = rest.length && !isWhole then return none
    match ← home? (String.ofList name) with
    | some directory => return some (directory, rest.drop name.length)
    | none => return none
  | _ => return none

-- A written text: tildes in it stand for directories where they may. `before` is what was passed
-- already, backwards.
def written (p : Purpose) (region : Region) (isWhole : Bool) :
    Nat → List Char → Bool → List Char → Eval (List Segment)
  | 0, before, _, s => return [⟨Atom.text false (String.ofList (before.reverse ++ s)), region⟩]
  | room + 1, before, mayTilde, s => do
    let front : List Segment :=
      if before.isEmpty then [] else [⟨Atom.text false (String.ofList before.reverse), region⟩]
    match s with
    | [] => return front
    | c :: rest =>
      let expanded ← if mayTilde && c == '~' then tilde? p isWhole s else pure none
      match expanded with
      | some (directory, rest) =>
        return front ++ [⟨Atom.text true directory, .none⟩] ++
          (← written p region isWhole room [] false rest)
      | none => written p region isWhole room (c :: before) (p.assignment && c == ':') rest

def pieces (p : Purpose) : Nat → Bool → Bool → List Piece → Eval (List Segment)
  | 0, _, _, _ => return []
  | _, _, _, [] => return []
  | room + 1, isFirst, inQuotes, piece :: rest => do
    let here : Purpose := { p with isQuoted := p.isQuoted || inQuotes, tilde := false }
    let writtenRegion : Region := if p.isInner && !p.isQuoted && !inQuotes then .split else .none
    match piece, rest with
    | .mark, .parameter "@" none .value false [] :: .mark :: rest =>
      if inQuotes then
        return ⟨[.mark], .none⟩ :: (← pieces p room false false (.parameter "@" none .value false [] :: .mark :: rest))
      else
        let first ← parameter e "@" none .value false [] { here with isQuoted := true }
        return first ++ (← pieces p room false inQuotes rest)
    | .mark, .parameter name (some w) .value false [] :: .mark :: rest =>
      -- All elements of an array may be no field at all.
      if !inQuotes && Word.bare? w = some "@" then
        let first ← parameter e name (some w) .value false [] { here with isQuoted := true }
        return first ++ (← pieces p room false inQuotes rest)
      else
        return ⟨[.mark], .none⟩ ::
          (← pieces p room false (!inQuotes) (.parameter name (some w) .value false [] :: .mark :: rest))
    | .mark, rest =>
      return ⟨[.mark], .none⟩ :: (← pieces p room false (!inQuotes) rest)
    | piece, rest => do
      let segments ← match piece with
        | .text s true => pure [⟨Atom.text true s, .none⟩]
        | .text s false =>
          if inQuotes then pure [⟨Atom.text false s, .none⟩]
          else
            written p writtenRegion rest.isEmpty (s.length + 1) []
              (isFirst && (p.tilde || p.assignment)) s.toList
        | .parameter name at_ operator orEmpty words =>
          parameter e name at_ operator orEmpty words here
        | .command none => pure []
        | .command (some body) => do
          let s ← output e body
          let q := here.isQuoted
          pure [⟨Atom.text q s, if q then .none else .split⟩]
        | .arithmetic w => do
          let n ← calculated e w
          let q := here.isQuoted
          pure [⟨Atom.text q (toString n), if q then .none else .split⟩]
        | .process none _ => pure []
        | .process (some body) isInput => do
          let (input, out) ← act Act.pipe
          let kept := if isInput then input else out
          let given := if isInput then out else input
          let goal := if isInput then 1 else 0
          let _ ← fork (asChild e do
            act do
              Act.close kept
              let _ ← Act.duplicate given goal
              Act.close given
            e.run body { isLast := true })
          act (Act.close given)
          let number := (← act (Act.duplicateFrom 63 kept)).getD kept
          act do
            Act.close kept
            let _ ← Act.duplicate number number
          pure [⟨Atom.text true ("/dev/fd/" ++ toString number), .none⟩]
        | .array _ => pure []
        | .mark => pure []
      return segments ++ (← pieces p room false inQuotes rest)

def expandWith (w : Word) (p : Purpose) : Eval (List Segment) :=
  pieces e p (w.length + 1) true false w

end Expansion

end Converge.Shell
