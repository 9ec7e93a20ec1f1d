import Converge.Text.CharSet

set_option autoImplicit false

namespace Converge.Text

inductive Regex where
  | empty
  | char (c : Char)
  | any
  | oneOf (isNegated : Bool) (members : List Member)
  | lineStart
  | lineEnd
  | wordStart
  | wordEnd
  | wordEdge
  | noWordEdge
  | group (number : Nat) (r : Regex)
  -- What a group took, once more.
  | back (number : Nat)
  | sequence (a b : Regex)
  | either (a b : Regex)
  | times (r : Regex) (least : Nat) (most : Option Nat)
  deriving Repr

instance : Inhabited Regex := ⟨.empty⟩

namespace Regex

structure Subject where
  text : Array Char
  folds : Bool := false
  -- The text's first place is not the start of a line.
  isInside : Bool := false
  -- Lines inside the text start and end too.
  byLines : Bool := false

abbrev Taken := List (Nat × Nat × Nat)

def isWordChar (c : Char) : Bool := c.isAlphanum || c == '_'

variable (t : Subject)

def charAt? (p : Nat) : Option Char := t.text[p]?

def isSame (a b : Char) : Bool := a == b || (t.folds && a.toLower == b.toLower)

def isMember (c : Char) (isNegated : Bool) (members : List Member) : Bool :=
  let has (c : Char) : Bool := members.any (Member.covers c)
  (has c || (t.folds && (has c.toLower || has c.toUpper))) != isNegated

-- Is there a word's character right before a place, and right at it?
def isWordBefore (p : Nat) : Bool := 0 < p && (charAt? t (p - 1)).any isWordChar

def isWordAt (p : Nat) : Bool := (charAt? t p).any isWordChar

-- Does something that takes no character hold at a place?
def holdsAt (r : Regex) (p : Nat) : Bool :=
  match r with
  | .lineStart => (p = 0 && !t.isInside) || (t.byLines && 0 < p && charAt? t (p - 1) == some '\n')
  | .lineEnd => p = t.text.size || (t.byLines && charAt? t p == some '\n')
  | .wordStart => !isWordBefore t p && isWordAt t p
  | .wordEnd => isWordBefore t p && !isWordAt t p
  | .wordEdge => isWordBefore t p != isWordAt t p
  | .noWordEdge => isWordBefore t p == isWordAt t p
  | _ => true

def merge : List Nat → List Nat → List Nat
  | [], qs => qs
  | p :: ps, qs => insert p (merge ps qs)
where
  insert (p : Nat) : List Nat → List Nat
    | [] => [p]
    | q :: qs => if p < q then p :: q :: qs else if p = q then q :: qs else q :: insert p qs

-- Does a step again and again, at most so often, and collects where it leads.
def closure (step : List Nat → List Nat) : Nat → List Nat → List Nat → List Nat
  | 0, _, all => all
  | room + 1, fresh, all =>
    match (step fresh).filter fun p => !all.contains p with
    | [] => all
    | found => closure step room found (merge found all)

def iterate (step : List Nat → List Nat) : Nat → List Nat → List Nat
  | 0, ps => ps
  | n + 1, ps => if ps.isEmpty then [] else iterate step n (step ps)

/-- The ends of all fits that begin at some places. What groups took is not looked at. -/
def ends : Regex → List Nat → List Nat
  | .empty, ps => ps
  | .char c, ps => (ps.filter fun p => (charAt? t p).any (isSame t c)).map (· + 1)
  | .any, ps => (ps.filter fun p => p < t.text.size).map (· + 1)
  | .oneOf isNegated members, ps =>
    (ps.filter fun p => (charAt? t p).any fun c => isMember t c isNegated members).map (· + 1)
  | .group _ r, ps => ends r ps
  | .back _, ps => ps
  | .sequence a b, ps =>
    let middle := ends a ps
    if middle.isEmpty then [] else ends b middle
  | .either a b, ps => merge (ends a ps) (ends b ps)
  | .times r least most, ps =>
    let start := iterate (ends r) least ps
    let room := (most.map (· - least)).getD (t.text.size + 1)
    closure (ends r) room start start
  | r, ps => ps.filter (holdsAt t r)

def note (number start finish : Nat) (taken : Taken) : Taken :=
  (number, start, finish) :: taken.filter (·.1 ≠ number)

-- Goes through the rounds of a repetition between two places.
def rounds (step : List Nat → List Nat) (inside : Nat → Nat → Taken → Taken) :
    Nat → Nat → Option Nat → Nat → Nat → Taken → Taken
  | 0, _, _, _, _, taken => taken
  | room + 1, least, most, start, finish, taken =>
    let limit := (most.map (· - least)).getD (room + 1)
    let after (p : Nat) (least : Nat) (limit : Nat) : Bool :=
      (closure step limit (iterate step least [p]) (iterate step least [p])).contains finish
    if start = finish && least = 0 then taken
    else
      let candidates := ((step [start]).filter fun p => start < p || 0 < least).reverse
      let left := if least = 0 then limit - 1 else limit
      match candidates.find? fun p => after p (least - 1) left with
      | some p =>
        rounds step inside room (least - 1) (most.map (· - 1)) p finish (inside start p taken)
      | none => taken

-- What the groups take when a fit begins and ends at two places.
def groups : Regex → Nat → Nat → Taken → Taken
  | .group number r, start, finish, taken =>
    groups r start finish (note number start finish taken)
  | .sequence a b, start, finish, taken =>
    let middle := (ends t a [start]).reverse.find? fun p => (ends t b [p]).contains finish
    match middle with
    | some p => groups b p finish (groups a start p taken)
    | none => taken
  | .either a b, start, finish, taken =>
    if (ends t a [start]).contains finish then groups a start finish taken
    else groups b start finish taken
  | .times r least most, start, finish, taken =>
    rounds (ends t r) (groups r) (finish - start + least + 1) least most start finish taken
  | _, _, _, taken => taken

def hasBack : Regex → Bool
  | .back _ => true
  | .group _ r | .times r _ _ => hasBack r
  | .sequence a b | .either a b => hasBack a || hasBack b
  | _ => false

def groupCount : Regex → Nat
  | .group _ r => groupCount r + 1
  | .times r _ _ => groupCount r
  | .sequence a b | .either a b => groupCount a + groupCount b
  | _ => 0

-- The ends of a repetition with what the groups took, the longer ones first.
def roundPaths (step : Nat × Taken → List (Nat × Taken)) :
    Nat → Nat → Option Nat → Nat × Taken → List (Nat × Taken)
  | 0, _, _, here => [here]
  | room + 1, least, most, here =>
    let further := if most = some 0 then [] else
      ((step here).filter fun next => here.1 < next.1 || 0 < least).flatMap
        (roundPaths step room (least - 1) (most.map (· - 1)))
    further ++ if least = 0 then [here] else []

-- The ends of all fits from a place with what the groups took.
def paths : Regex → Nat × Taken → List (Nat × Taken)
  | .back number, (p, taken) =>
    match taken.lookup number with
    | none => []
    | some (start, finish) =>
      let part := (List.range (finish - start)).map fun k => charAt? t (start + k)
      let here := (List.range (finish - start)).map fun k => charAt? t (p + k)
      let fits := (part.zip here).all fun (a, b) =>
        match a, b with
        | some a, some b => isSame t a b
        | _, _ => false
      if fits then [(p + (finish - start), taken)] else []
  | .group number r, (p, taken) =>
    (paths r (p, taken)).map fun (finish, taken) => (finish, note number p finish taken)
  | .sequence a b, here => (paths a here).flatMap (paths b)
  | .either a b, here => paths a here ++ paths b here
  | .times r least most, here =>
    roundPaths (paths r) (t.text.size - here.1 + least + 1) least most here
  | r, (p, taken) => (ends t r [p]).map fun finish => (finish, taken)

-- The longest fit from a place: its end and what the groups took.
def fitAt? (r : Regex) (p : Nat) : Option (Nat × Taken) :=
  if hasBack r then
    (paths t r (p, [])).foldl (fun best found => match best with
      | some b => if b.1 < found.1 then some found else some b
      | none => some found) none
  else
    match (ends t r [p]).getLast? with
    | some finish => some (finish, groups t r p finish [])
    | none => none

/-- The first fit from a place on: where it begins, where it ends, and what the groups took. -/
def find? (r : Regex) (p : Nat) : Option (Nat × Nat × Taken) :=
  let room := t.text.size + 1 - p
  (List.range room).findSome? fun k =>
    (fitAt? t r (p + k)).map fun (finish, taken) => (p + k, finish, taken)

def fitsAnywhere (r : Regex) : Bool :=
  if hasBack r then (find? t r 0).isSome
  else !(ends t r (List.range (t.text.size + 1))).isEmpty

def part (start finish : Nat) : String :=
  String.ofList ((t.text.toList.drop start).take (finish - start))

def groupText (taken : Taken) (number : Nat) : Option String :=
  (taken.lookup number).map fun (start, finish) => part t start finish

end Regex

end Converge.Text
