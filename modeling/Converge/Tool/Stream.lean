import Converge.Process.Status
import Converge.Text.CharSet
import Converge.Tool.Basic

set_option autoImplicit false
set_option maxRecDepth 2000

namespace Converge.Tool

open Converge.Process
open Converge.Text

def chunkSize : Nat := 65536

def manyTimes : Nat := 10000000

-- Hands on what is read, piece by piece. `change` may keep something in mind between the pieces.
def pump {σ : Type} (l : Launch) (descriptor : Nat) (change : σ → Utf8.Octets → σ × Utf8.Octets) :
    Nat → σ → Act (Except OsError (Nat × σ))
  | 0, s => return .ok (0, s)
  | room + 1, s => do
    match ← Act.read descriptor chunkSize with
    | .error e => return .error e
    | .ok [] => return .ok (0, s)
    | .ok octets => do
      let (s, out) := change s octets
      let written ← if out.isEmpty then pure (.ok ()) else Act.write 1 out
      match written with
      | .ok () => pump l descriptor change room s
      | .error e => do
        complain l ("write error: " ++ e.reason)
        return .ok (1, s)

def opened (l : Launch) (path : String) (message : String → String) : Act (Option Nat) := do
  if path = "-" then return some 0
  match ← Act.openAt 3 path .reading false with
  | .ok number => return some number
  | .error e => do
    complain l (message path ++ ": " ++ e.reason)
    return none

def closed (number : Nat) : Act Unit := if number = 0 then pure () else Act.close number

structure Display where
  numbers : Bool := false
  numbersFilled : Bool := false
  squeezes : Bool := false
  ends : Bool := false
  tabs : Bool := false
  controls : Bool := false

def Display.isPlain (d : Display) : Bool :=
  !(d.numbers || d.numbersFilled || d.squeezes || d.ends || d.tabs || d.controls)

def Display.char (d : Display) (c : Char) : List Char :=
  let n := c.toNat
  if c = '\t' then if d.tabs then ['^', 'I'] else [c]
  else if !d.controls then [c]
  else
    let low (n : Nat) : List Char :=
      if n < 32 then ['^', Char.ofNat (n + 64)] else if n = 127 then ['^', '?'] else [Char.ofNat n]
    if n < 128 then low n else 'M' :: '-' :: low (n - 128)

/-- Where a display stands: the number of the last line, how many empty lines it has just seen, and
whether a line has begun. -/
structure Shown where
  line : Nat := 0
  blanks : Nat := 0
  isInside : Bool := false

def Display.step (d : Display) (s : Shown) (c : Char) : Shown × List Char :=
  if c = '\n' then
    if s.isInside then ({ s with isInside := false, blanks := 0 }, if d.ends then ['$', '\n'] else ['\n'])
    else if d.squeezes && 0 < s.blanks then ({ s with blanks := s.blanks + 1 }, [])
    else
      let counts := d.numbers && !d.numbersFilled
      let line := if counts then s.line + 1 else s.line
      let front := if counts then (padLeft 6 (toString line)).toList ++ ['\t'] else []
      ({ s with line := line, blanks := s.blanks + 1 },
        front ++ if d.ends then ['$', '\n'] else ['\n'])
  else if s.isInside then (s, d.char c)
  else
    let counts := d.numbers || d.numbersFilled
    let line := if counts then s.line + 1 else s.line
    let front := if counts then (padLeft 6 (toString line)).toList ++ ['\t'] else []
    ({ line := line, blanks := 0, isInside := true }, front ++ d.char c)

def Display.change (d : Display) (s : Shown) (octets : Utf8.Octets) : Shown × Utf8.Octets :=
  if d.isPlain then (s, octets)
  else
    let (s, out) := octets.foldl (fun (s, out) o =>
      let (s, shown) := d.step s (Char.ofNat o.toNat)
      (s, shown.reverse ++ out)) (s, ([] : List Char))
    (s, Raw.toOctets (String.ofList out.reverse))

def catEach (l : Launch) (d : Display) : List String → Shown → Nat → Act Nat
  | [], _, status => return status
  | path :: rest, s, status => do
    match ← opened l path id with
    | none => catEach l d rest s 1
    | some number => do
      let result ← pump l number d.change manyTimes s
      closed number
      match result with
      | .ok (0, s) => catEach l d rest s status
      | .ok (n, _) => return n
      | .error e => do
        complain l (path ++ ": " ++ e.reason)
        catEach l d rest s 1

def cat : Program := fun l =>
  withOptions { letters := "benstuvAET", long := [("show-all", 'A'), ("number-nonblank", 'b'),
    ("show-ends", 'E'), ("number", 'n'), ("squeeze-blank", 's'), ("show-tabs", 'T'),
    ("show-nonprinting", 'v')] } 1 l fun p => do
    let all := p.has 'A'
    let d : Display := {
      numbers := p.has 'n', numbersFilled := p.has 'b', squeezes := p.has 's'
      ends := all || p.has 'E' || p.has 'e', tabs := all || p.has 'T' || p.has 't'
      controls := all || p.has 'v' || p.has 'e' || p.has 't' }
    catEach l d (if p.words.isEmpty then ["-"] else p.words) {} 0

def amount? (s : String) : Option Nat :=
  let digits := s.toList.takeWhile Decimal.isDigit
  if digits.isEmpty then none
  else
    let n := Decimal.value digits
    match String.ofList (s.toList.drop digits.length) with
    | "" => some n
    | "b" => some (n * 512)
    | "kB" => some (n * 1000)
    | "K" | "k" | "KiB" => some (n * 1024)
    | "MB" => some (n * 1000000)
    | "M" | "MiB" => some (n * 1048576)
    | "GB" => some (n * 1000000000)
    | "G" | "GiB" => some (n * 1073741824)
    | _ => none

/-- What part of a file is asked for: so many lines or octets, from the front or from the end. -/
structure Extent where
  count : Nat := 10
  ofOctets : Bool := false
  turned : Bool := false
  headers : Bool := false

def withCount (ws : List String) : List String :=
  ws.map fun w =>
    match w.toList with
    | '-' :: c :: cs => if Decimal.isDigit c && cs.all Decimal.isDigit then "-n" ++ String.ofList (c :: cs) else w
    | _ => w

def firstLines : Nat → Utf8.Octets → Utf8.Octets × Nat
  | 0, _ => ([], 0)
  | n, [] => ([], n)
  | n + 1, o :: rest =>
    let (taken, left) := firstLines (if o = 10 then n else n + 1) rest
    (o :: taken, left)

def giveBack (descriptor n : Nat) : Act Unit :=
  Act.doing fun self s =>
    ((), match s.descriptor? self descriptor with
      | some (number, o) =>
        match o.target with
        | .file _ => s.changeOpening number fun o => { o with position := o.position - n }
        | _ => s
      | none => s)

def frontPart (l : Launch) (descriptor : Nat) (ofOctets : Bool) : Nat → Nat → Act (Except OsError Nat)
  | 0, _ => return .ok 0
  | _, 0 => return .ok 0
  | room + 1, count => do
    match ← Act.read descriptor (if ofOctets then min count 8192 else 8192) with
    | .error e => return .error e
    | .ok [] => return .ok 0
    | .ok octets => do
      let (taken, left) := if ofOctets then (octets, count - octets.length)
        else firstLines count octets
      if taken.length < octets.length then giveBack descriptor (octets.length - taken.length)
      match ← Act.write 1 taken with
      | .ok () => frontPart l descriptor ofOctets room left
      | .error e => do
        complain l ("write error: " ++ e.reason)
        return .ok 1

def linesOfOctets (octets : Utf8.Octets) : Nat :=
  octets.countP (· == 10) + (if octets.getLast?.any (· ≠ 10) then 1 else 0)

def withoutLines : Nat → Utf8.Octets → Utf8.Octets
  | 0, octets => octets
  | _, [] => []
  | n + 1, o :: rest => withoutLines (if o = 10 then n else n + 1) rest

def Extent.part (x : Extent) (isEnd : Bool) (octets : Utf8.Octets) : Utf8.Octets :=
  let size := if x.ofOctets then octets.length else linesOfOctets octets
  let skipped := if isEnd then if x.turned then x.count - 1 else size - x.count else 0
  if isEnd then if x.ofOctets then octets.drop skipped else withoutLines skipped octets
  else
    let kept := if x.turned then size - x.count else x.count
    if x.ofOctets then octets.take kept else (firstLines kept octets).1

def underHeaders (l : Launch) (x : Extent) (message : String → String)
    (work : String → Nat → Act Nat) : List String → Bool → Nat → Act Nat
  | [], _, status => return status
  | path :: rest, isFirst, status => do
    match ← opened l path message with
    | none => underHeaders l x message work rest isFirst 1
    | some number => do
      let name := if path = "-" then "standard input" else path
      if x.headers then
        let _ ← put l ((if isFirst then "" else "\n") ++ "==> " ++ name ++ " <==\n")
      let n ← work path number
      closed number
      underHeaders l x message work rest false (max status n)

def extentOptions : Options := { letters := "n:c:qvzfFs:", long := [("lines", 'n'), ("bytes", 'c'),
  ("quiet", 'q'), ("silent", 'q'), ("verbose", 'v'), ("zero-terminated", 'z'), ("follow", 'f'),
  ("pid", 's'), ("retry", 'F')] }

def extentOf (l : Launch) (p : Parsed) (sign : Char) (files : Nat) : Act (Option Extent) := do
  let headers := match p.last? ['q', 'v'] with
    | some 'q' => false
    | some _ => true
    | none => 1 < files
  match (p.options.filter fun o => o.1 = 'n' || o.1 = 'c').getLast? with
  | none => return some { headers := headers }
  | some (letter, argument) =>
    let turned := argument.toList.head? == some sign
    let digits := match argument.toList with
      | '-' :: cs | '+' :: cs => String.ofList cs
      | cs => String.ofList cs
    match amount? digits with
    | some n =>
      return some { count := n, ofOctets := letter = 'c', turned := turned, headers := headers }
    | none => do
      complain l ("invalid number of " ++ (if letter = 'c' then "bytes" else "lines") ++ ": " ++
        quoted digits)
      return none

def head : Program := fun l =>
  withOptions extentOptions 1 { l with words := withCount l.words } fun p => do
    let files := if p.words.isEmpty then ["-"] else p.words
    match ← extentOf l p '-' files.length with
    | none => return 1
    | some x =>
      let message (path : String) : String := "cannot open " ++ quoted path ++ " for reading"
      underHeaders l x message (fun path number => do
        let result ← if x.turned then do
            match ← Act.readAll number with
            | .error e => pure (.error e)
            | .ok octets => do pure (.ok (← put l (Raw.ofOctets (x.part false octets))))
          else frontPart l number x.ofOctets manyTimes x.count
        match result with
        | .ok n => return n
        | .error e => do
          complain l ("error reading " ++ quoted (if path = "-" then "standard input" else path) ++
            ": " ++ e.reason)
          return 1) files true 0

def tail : Program := fun l =>
  let words := match withCount l.words with
    | w :: rest =>
      match w.toList with
      | '+' :: c :: cs =>
        if (c :: cs).all Decimal.isDigit then ("-n+" ++ String.ofList (c :: cs)) :: rest else w :: rest
      | _ => w :: rest
    | [] => []
  withOptions extentOptions 1 { l with words := words } fun p => do
    let files := if p.words.isEmpty then ["-"] else p.words
    match ← extentOf l p '+' files.length with
    | none => return 1
    | some x => do
      let message (path : String) : String := "cannot open " ++ quoted path ++ " for reading"
      let status ← underHeaders l x message (fun path number => do
        match ← Act.readAll number with
        | .ok octets => put l (Raw.ofOctets (x.part true octets))
        | .error e => do
          complain l ("error reading " ++ quoted (if path = "-" then "standard input" else path) ++
            ": " ++ e.reason)
          return 1) files true 0
      if p.has 'f' || p.has 'F' then
        Act.await (fun _ _ => false) none
      return status

abbrev SetReader := Except String

def setChar : List Char → Option (Char × List Char)
  | '\\' :: c :: rest =>
    let octal := (c :: rest).take 3 |>.takeWhile fun d => '0' ≤ d && d ≤ '7'
    if !octal.isEmpty then
      let n := octal.foldl (fun n d => n * 8 + (d.toNat - 48)) 0
      some (Char.ofNat (n % 256), (c :: rest).drop octal.length)
    else
      some (match c with
        | 'a' => '\x07'
        | 'b' => '\x08'
        | 'f' => '\x0c'
        | 'n' => '\n'
        | 'r' => '\x0d'
        | 't' => '\t'
        | 'v' => '\x0b'
        | c => c, rest)
  | c :: rest => some (c, rest)
  | [] => none

def allChars : List Char := (List.range 256).map Char.ofNat

-- The characters of a set in their order. A repetition without a count is noted as a place to fill.
def setWithin : Nat → List Char → SetReader (List (Char × Option Nat))
  | 0, _ => .ok []
  | _, [] => .ok []
  | room + 1, s =>
    let plain : SetReader (List (Char × Option Nat)) :=
      match setChar s with
      | none => .ok []
      | some (low, '-' :: more) =>
        match if more.isEmpty then none else setChar more with
        | some (high, rest) =>
          if high < low then
            .error ("range-endpoints of '" ++ String.ofList [low, '-', high] ++
              "' are in reverse collating sequence order")
          else do
            let others ← setWithin room rest
            .ok (((List.range (high.toNat - low.toNat + 1)).map fun k =>
              (Char.ofNat (low.toNat + k), some 1)) ++ others)
        | none => do
          let others ← setWithin room ('-' :: more)
          .ok ((low, some 1) :: others)
      | some (c, rest) => do
        let others ← setWithin room rest
        .ok ((c, some 1) :: others)
    match s with
    | '[' :: ':' :: more =>
      let name := more.takeWhile (· ≠ ':')
      match more.drop name.length with
      | ':' :: ']' :: rest =>
        let name := String.ofList name
        if !Member.classNames.contains name then
          .error ("invalid character class " ++ quoted name)
        else do
          let others ← setWithin room rest
          .ok ((allChars.filter (Member.isInClass name)).map (·, some 1) ++ others)
      | _ => plain
    | '[' :: '=' :: c :: '=' :: ']' :: rest => do
      let others ← setWithin room rest
      .ok ((c, some 1) :: others)
    | '[' :: more =>
      match setChar more with
      | some (c, '*' :: after) =>
        let digits := after.takeWhile Decimal.isDigit
        match after.drop digits.length with
        | ']' :: rest => do
          let others ← setWithin room rest
          let n := Decimal.value digits
          .ok ((c, if n = 0 then none else some n) :: others)
        | _ => plain
      | _ => plain
    | _ => plain

def setParts (s : String) : SetReader (List (Char × Option Nat)) := setWithin (s.length + 1) s.toList

def filled (size : Nat) (parts : List (Char × Option Nat)) : List Char :=
  let known := parts.foldl (fun n p => n + p.2.getD 0) 0
  parts.flatMap fun p => List.replicate (p.2.getD (size - known)) p.1

def lengthened (size : Nat) (s : List Char) : List Char :=
  match s.getLast? with
  | some c => s ++ List.replicate (size - s.length) c
  | none => s

structure Change where
  -- What each character becomes; `none` for those that are dropped.
  table : Array (Option Char)
  squeezed : List Char := []

def Change.apply (t : Change) (last : Option Char) (octets : Utf8.Octets) :
    Option Char × Utf8.Octets :=
  let (last, out) := octets.foldl (fun (last, out) o =>
    match (t.table[o.toNat]?).getD none with
    | none => (last, out)
    | some c =>
      if last = some c && t.squeezed.contains c then (last, out)
      else (some c, (UInt8.ofNat c.toNat) :: out)) (last, ([] : Utf8.Octets))
  (last, out.reverse)

def change? (p : Parsed) (first second : List (Char × Option Nat)) (hasSecond : Bool) :
    SetReader Change :=
  let direct := filled 0 first
  let from_ := if p.has 'c' then allChars.filter (!direct.contains ·) else direct
  let identity : Array (Option Char) := (allChars.map some).toArray
  let to_ := filled from_.length second
  if p.has 'd' then
    .ok {
      table := (allChars.map fun c => if from_.contains c then none else some c).toArray
      squeezed := if p.has 's' then filled 256 second else [] }
  else if !hasSecond then .ok { table := identity, squeezed := if p.has 's' then from_ else [] }
  else if to_.isEmpty && !p.has 't' then .error "when not truncating set1, string2 must be non-empty"
  else
    let to_ := if p.has 't' then to_ else lengthened from_.length to_
    let pairs := from_.zip to_
    let table := pairs.foldl (fun (t : Array (Option Char)) (a, b) => t.setIfInBounds a.toNat (some b)) identity
    .ok { table := table, squeezed := if p.has 's' then to_ else [] }

def tr : Program := fun l =>
  withOptions { letters := "cCdst", long := [("complement", 'c'), ("delete", 'd'),
    ("squeeze-repeats", 's'), ("truncate-set1", 't')], stopsEarly := true } 1 l fun p => do
    let rename (o : Char × String) : Char × String := if o.1 = 'C' then ('c', o.2) else o
    let p : Parsed := { p with options := p.options.map rename }
    let deletes := p.has 'd'
    let squeezes := p.has 's'
    let hint (message more : String) : Act Nat := do
      complain l message
      if more ≠ "" then Act.complain more
      Act.complain ("Try '" ++ l.name ++ " --help' for more information.")
      return 1
    let least := if deletes == squeezes then 2 else 1
    let most := if deletes && !squeezes then 1 else 2
    match p.words with
    | [] => hint "missing operand" ""
    | [w] =>
      if least = 2 then
        hint ("missing operand after " ++ quoted w)
          (if squeezes then "Two strings must be given when both deleting and squeezing repeats."
            else "Two strings must be given when translating.")
      else
        match (do change? p (← setParts w) [] false : SetReader Change) with
        | .error m => do
          complain l m
          return 1
        | .ok t => do
          let _ ← pump l 0 t.apply manyTimes none
          return 0
    | first :: second :: rest =>
      if most = 1 then
        hint ("extra operand " ++ quoted second)
          "Only one string may be given when deleting without squeezing repeats."
      else
        match rest with
        | extra :: _ => hint ("extra operand " ++ quoted extra) ""
        | [] =>
          match (do change? p (← setParts first) (← setParts second) true : SetReader Change) with
          | .error m => do
            complain l m
            return 1
          | .ok t => do
            match ← pump l 0 t.apply manyTimes none with
            | .ok (n, _) => return n
            | .error e => do
              complain l ("read error: " ++ e.reason)
              return 1

def writeEach (l : Launch) (octets : Utf8.Octets) : List (Nat × String) → List (Nat × String) → Nat →
    Act (List (Nat × String) × Nat)
  | [], kept, status => return (kept.reverse, status)
  | (number, name) :: rest, kept, status => do
    match ← Act.write number octets with
    | .ok () => writeEach l octets rest ((number, name) :: kept) status
    | .error e => do
      complain l (name ++ ": " ++ e.reason)
      writeEach l octets rest kept 1

def teeLoop (l : Launch) : Nat → List (Nat × String) → Nat → Act Nat
  | 0, _, status => return status
  | room + 1, goals, status => do
    if goals.isEmpty then return status
    match ← Act.read 0 chunkSize with
    | .ok [] => return status
    | .ok octets => do
      let (goals, status) ← writeEach l octets goals [] status
      teeLoop l room goals status
    | .error e => do
      complain l ("read error: " ++ e.reason)
      return 1

def teeOpen (l : Launch) (m : Manner) : List String → List (Nat × String) → Nat →
    Act (List (Nat × String) × Nat)
  | [], goals, status => return (goals.reverse, status)
  | path :: rest, goals, status => do
    match ← Act.openAt 3 path m false with
    | .ok number => teeOpen l m rest ((number, path) :: goals) status
    | .error e => do
      complain l (path ++ ": " ++ e.reason)
      teeOpen l m rest goals 1

def tee : Program := fun l =>
  withOptions { letters := "aip", long := [("append", 'a'), ("ignore-interrupts", 'i')] } 1 l
    fun p => do
      let manner : Manner := if p.has 'a' then .appending else .writing
      let (goals, status) ← teeOpen l manner p.words [] 0
      teeLoop l manyTimes ((1, "standard output") :: goals) status

structure Counts where
  lines : Nat := 0
  words : Nat := 0
  octets : Nat := 0
  longest : Nat := 0
  -- How long the line under way is, and whether a word has begun.
  column : Nat := 0
  isInWord : Bool := false

def Counts.step (k : Counts) (o : UInt8) : Counts :=
  let n := o.toNat
  let isBlank := n = 32 || (9 ≤ n && n ≤ 13)
  let column := if n = 9 then (k.column / 8 + 1) * 8
    else if n = 10 || n = 12 || n = 13 then 0
    else if 32 ≤ n && n < 127 then k.column + 1 else k.column
  { lines := if n = 10 then k.lines + 1 else k.lines
    words := if !isBlank && !k.isInWord then k.words + 1 else k.words
    octets := k.octets + 1
    longest := max k.longest column
    column := column
    isInWord := !isBlank }

def Counts.ofOctets (octets : Utf8.Octets) : Counts := octets.foldl Counts.step {}

def Counts.shown (k : Counts) (asked : List Char) : List Nat :=
  (if asked.contains 'l' then [k.lines] else []) ++
    (if asked.contains 'w' then [k.words] else []) ++
      (if asked.contains 'm' then [k.octets] else []) ++
        (if asked.contains 'c' then [k.octets] else []) ++
          if asked.contains 'L' then [k.longest] else []

-- What stands in front of the counts is as wide as the largest of them can be.
def countWidth (state : State) (self : Nat) (files : List String) (columns : Nat) : Nat :=
  if files.length ≤ 1 && columns = 1 then 1
  else
    let status? (path : String) : Option Status :=
      if path = "-" then state.statusOfDescriptor? self 0 else state.status? self true path
    let found := files.filterMap status?
    let total := (found.filter (·.kind = .file)).foldl (fun n s => n + s.size) 0
    let least := if found.any (·.kind ≠ .file) then 7 else 1
    max least (toString total).length

def wcEach (l : Launch) (asked : List Char) (width : Nat) : List (String × String) → Counts → Nat →
    Act (Counts × Nat)
  | [], total, status => return (total, status)
  | (path, name) :: rest, total, status => do
    let line (k : Counts) (name : String) : String :=
      String.intercalate " " ((k.shown asked).map fun n => padLeft width (toString n)) ++
        (if name = "" then "" else " " ++ name) ++ "\n"
    match ← opened l path id with
    | none => wcEach l asked width rest total 1
    | some number => do
      let octets ← Act.readAll number
      closed number
      match octets with
      | .ok octets => do
        let k := Counts.ofOctets octets
        let _ ← put l (line k name)
        wcEach l asked width rest { total with
          lines := total.lines + k.lines, words := total.words + k.words
          octets := total.octets + k.octets, longest := max total.longest k.longest } status
      | .error e => do
        complain l (path ++ ": " ++ e.reason)
        let _ ← put l (line {} name)
        wcEach l asked width rest total 1

def wc : Program := fun l =>
  withOptions { letters := "clmwL", long := [("bytes", 'c'), ("chars", 'm'), ("lines", 'l'),
    ("words", 'w'), ("max-line-length", 'L')] } 1 l fun p => do
    let asked := if p.options.isEmpty then ['l', 'w', 'c'] else p.options.map (·.1)
    let files := if p.words.isEmpty then [("-", "")] else p.words.map fun w => (w, w)
    let self ← Act.self
    let state ← Act.get
    let width := countWidth state.settle self (files.map (·.1)) (Counts.shown {} asked).length
    let (total, status) ← wcEach l asked width files {} 0
    if files.length < 2 then return status
    let line := String.intercalate " " ((total.shown asked).map fun n => padLeft width (toString n))
    let _ ← put l (line ++ " total\n")
    return status

end Converge.Tool
