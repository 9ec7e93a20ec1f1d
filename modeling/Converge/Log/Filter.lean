import Converge.Log.Event
import Converge.Log.Pattern
import Converge.Text.Alphanumeric
import Converge.Text.Basic
import Converge.Text.Utf8

set_option autoImplicit false

namespace Converge.Log

open Converge.Text

-- The lowest rank that passes; beyond the highest rank nothing does.
abbrev Threshold := Nat

def silence : Threshold := 6

-- A whole number in decimal digits, perhaps with a plus sign.
def count? (word : List Char) : Option Nat :=
  let digits := match word with
    | '+' :: rest => rest
    | rest => rest
  if digits.isEmpty || !digits.all Decimal.isDigit then none else some (Decimal.value digits)

-- Levels by how much is shown, or by name in any case.
def threshold? (word : List Char) : Option Threshold :=
  match count? word with
  | some 0 => some silence
  | some n => if n ≤ 5 then some (6 - n) else none
  | none =>
    match String.ofList (word.map Char.toLower) with
    | "off" => some silence
    | "error" => some Level.error.rank
    | "warn" => some Level.warn.rank
    | "info" => some Level.info.rank
    | "debug" => some Level.debug.rank
    | "trace" => some Level.trace.rank
    | _ => none

/-- A field that a directive names, perhaps with a value. -/
structure FieldMatch where
  name : List Char
  hasValue : Bool
  deriving DecidableEq, Repr

/-- A field with its value behind an equals sign. A value is a number, or a pattern that can be
read. -/
def FieldMatch.parse? (text : List Char) : Option FieldMatch :=
  let name := text.takeWhile (· ≠ '=')
  match text.drop name.length with
  | _ :: rest =>
    let value := rest.takeWhile (· ≠ '=')
    if Pattern.accepts value then some ⟨name, true⟩ else none
  | [] => some ⟨name, false⟩

structure Directive where
  threshold : Threshold := Level.trace.rank
  target : Option (List Char) := none
  -- It is about what happens during work of this name.
  span : Option (List Char) := none
  fields : List FieldMatch := []
  deriving DecidableEq, Repr

/-- How far the reading of a directive has come, and where the part under way began. -/
inductive Stage where
  | opening
  | levelOrTarget (start : Nat)
  | span (start : Nat)
  | field (start : Nat)
  | fields
  | target
  | level (start : Nat)
  deriving DecidableEq, Repr

def cut (text : List Char) (start stop : Nat) : List Char := (text.take stop).drop start

-- A target begins with a letter, a number or one of three signs.
def beginsTarget (c : Char) : Bool := c == '-' || c == ':' || c == '_' || isAlphanumeric c

-- One character of a directive, at a position. `text` is what parts are cut from.
def Stage.next (text : List Char) (stage : Stage) (d : Directive) (position : Nat) (c : Char) :
    Option (Stage × Directive) :=
  let part (start : Nat) := cut text start position
  match stage with
  | .opening =>
    if c = '[' then some (.span (position + 1), d)
    else if beginsTarget c then some (.levelOrTarget position, d)
    else none
  | .levelOrTarget start =>
    if c = '=' then some (.level (position + 1), { d with target := some (part start) })
    else if c = '[' then some (.span (position + 1), { d with target := some (part start) })
    else some (stage, d)
  | .span start =>
    if c = ']' then some (.target, { d with span := some (part start) })
    else if c = '\x7b' then
      let span := if (part start).isEmpty then none else some (part start)
      some (.field (position + 1), { d with span := span })
    else some (stage, d)
  | .field start =>
    if c = '\x7d' then
      if (part start).isEmpty then none
      else (FieldMatch.parse? (part start)).map fun f => (.fields, { d with fields := [f] })
    else some (stage, d)
  | .fields => if c = ']' then some (.target, d) else none
  | .target => if c = '=' then some (.level (position + 1), d) else none
  | .level _ => some (stage, d)

/-- A word that is no level names a target, all of whose events pass unless a level follows. -/
def Stage.finish (text : List Char) (d : Directive) : Stage → Option Directive
  | .levelOrTarget start =>
    match threshold? (text.drop start) with
    | some t => some { d with threshold := t }
    | none => some { d with target := some (text.drop start) }
  | .level start =>
    if (text.drop start).isEmpty then some d
    else (threshold? (text.drop start)).map fun t => { d with threshold := t }
  | .target => some d
  | _ => none

def Directive.readFrom (text : List Char) : Stage → Directive → Nat → List Char → Option Directive
  | stage, d, _, [] => stage.finish text d
  | stage, d, position, c :: rest =>
    match stage.next text d position c with
    | some (stage, d) => readFrom text stage d (position + 1) rest
    | none => none

/-- Blanks around a directive are passed over, but positions count from the first character that is
none, so that blanks in front shift every part. -/
def Directive.parse? (text : List Char) : Option Directive :=
  readFrom text .opening {} 0 (trim text)

def splitComma : List Char → List Char → List (List Char)
  | part, [] => [part.reverse]
  | part, c :: rest =>
    if c = ',' then part.reverse :: splitComma [] rest else splitComma (c :: part) rest

def directives? (text : String) : Option (List Directive) :=
  ((splitComma [] text.toList).filter (! ·.isEmpty)).mapM Directive.parse?

structure Rule where
  target : Option (List Char) := none
  fields : List (List Char) := []
  threshold : Threshold
  deriving DecidableEq, Repr

-- Events happen during no named work and are not asked for values.
def Directive.rule? (d : Directive) : Option Rule :=
  if d.span.isSome || d.fields.any (·.hasValue) then none
  else some ⟨d.target, d.fields.map (·.name), d.threshold⟩

/-- How much of an event a rule fixes: its target's octets, one more than none for having a target
at all, and then its fields. -/
def Rule.weight (r : Rule) : Nat × Nat :=
  (match r.target with
    | some target => Utf8.size target + 1
    | none => 0, r.fields.length)

def Rule.fits (r : Rule) (event : LogEvent) : Bool :=
  (r.target.getD []).isPrefixOf event.source.path.toList &&
    r.fields.all fun name => event.fieldNames.contains (String.ofList name)

def heavier (a b : Nat × Nat) : Bool := b.1 < a.1 || b.1 == a.1 && b.2 < a.2

/-- Which of two rules counts, where the second came later: the heavier one, else the later of two
for the same, else the one whose words come later in the order of words. -/
def Rule.closer (best next : Rule) : Rule :=
  if heavier best.weight next.weight then best
  else if heavier next.weight best.weight then next
  else if String.ofList (next.fields.flatten) < String.ofList (best.fields.flatten) then best
  else next

structure Filter where
  rules : List Rule
  deriving DecidableEq, Repr

-- Without any directive only errors pass. Directives without fields come before those with fields.
def Filter.ofDirectives (ds : List Directive) : Filter :=
  if ds.isEmpty then ⟨[{ threshold := Level.error.rank }]⟩
  else
    let parts := ds.partition fun d => d.span.isNone && d.fields.isEmpty
    ⟨(parts.1 ++ parts.2).filterMap Directive.rule?⟩

/-- What the user asks for counts if it can be read, else the level of the settings. -/
def Filter.choose (asked : Option String) (level : String) : Filter :=
  match asked.bind directives? with
  | some ds => .ofDirectives ds
  | none => ⟨[{ threshold := (threshold? level.toList).getD Level.error.rank }]⟩

def Filter.passes (filter : Filter) (event : LogEvent) : Bool :=
  match filter.rules.filter (·.fits event) with
  | [] => false
  | r :: rest => (rest.foldl Rule.closer r).threshold ≤ event.level.rank

end Converge.Log
