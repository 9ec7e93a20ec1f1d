import Converge.Tool.Stream

set_option autoImplicit false
set_option maxRecDepth 2000

namespace Converge.Tool

open Converge.Process
open Converge.Text

def contents (l : Launch) (message : String → OsError → String) :
    List String → List String → Nat → Act (List String × Nat)
  | [], texts, status => return (texts.reverse, status)
  | path :: rest, texts, status => do
    match ← content path with
    | .ok octets => contents l message rest (Raw.ofOctets octets :: texts) status
    | .error e => do
      complain l (message path e)
      contents l message rest texts 1

def plainRefusal (path : String) (e : OsError) : String := path ++ ": " ++ e.reason

structure Order where
  numeric : Bool := false
  general : Bool := false
  human : Bool := false
  version : Bool := false
  month : Bool := false
  folds : Bool := false
  blanks : Bool := false
  dictionary : Bool := false
  turned : Bool := false

namespace Order

def letters : List Char := "nghVMfbdri".toList

def add (o : Order) (c : Char) : Order :=
  match c with
  | 'n' => { o with numeric := true }
  | 'g' => { o with general := true }
  | 'h' => { o with human := true }
  | 'V' => { o with version := true }
  | 'M' => { o with month := true }
  | 'f' => { o with folds := true }
  | 'b' => { o with blanks := true }
  | 'd' => { o with dictionary := true }
  | 'r' => { o with turned := true }
  | _ => o

def isBlank (c : Char) : Bool := c == ' ' || c == '\t'

-- The number at the front of a text as its sign, the digits before the point and those behind it.
def leadingNumber (s : List Char) : Bool × List Char × List Char × List Char :=
  let s := s.dropWhile isBlank
  let isNegative := s.head? == some '-'
  let s := if isNegative then s.drop 1 else s
  let whole := s.takeWhile Decimal.isDigit
  let rest := s.drop whole.length
  let (fraction, rest) := match rest with
    | '.' :: more =>
      let digits := more.takeWhile Decimal.isDigit
      (digits, more.drop digits.length)
    | rest => ([], rest)
  (isNegative, whole, fraction, rest)

def scaled (places : Nat) (n : Bool × List Char × List Char × List Char) : Int :=
  let digits := n.2.1 ++ (n.2.2.1 ++ List.replicate (places - n.2.2.1.length) '0').take places
  let value := Int.ofNat (Decimal.value digits)
  if n.1 then -value else value

def compareNumbers (a b : List Char) : Ordering :=
  let m := leadingNumber a
  let n := leadingNumber b
  let places := max m.2.2.1.length n.2.2.1.length
  compare (scaled places m) (scaled places n)

def unitRank (s : List Char) : Int :=
  let n := leadingNumber s
  let rank := match n.2.2.2 with
    | c :: _ => match "KMGTPEZY".toList.findIdx? (· == c.toUpper) with
      | some k => Int.ofNat k + 1
      | none => 0
    | [] => 0
  if scaled 3 n = 0 then 0 else if n.1 then -rank else rank

def exponent (s : List Char) : Int :=
  match (leadingNumber s).2.2.2 with
  | 'e' :: rest | 'E' :: rest =>
    let isNegative := rest.head? == some '-'
    let digits := (rest.dropWhile fun c => c == '-' || c == '+').takeWhile Decimal.isDigit
    let n := min (Decimal.value digits) 300
    if isNegative then -Int.ofNat n else Int.ofNat n
  | _ => 0

def compareGeneral (a b : List Char) : Ordering :=
  let value (s : List Char) : Int :=
    let n := leadingNumber s
    let shift := (exponent s + 340).toNat
    scaled 20 n * Int.ofNat (Nat.pow 10 shift)
  let isNumber (s : List Char) : Bool :=
    let n := leadingNumber s
    !n.2.1.isEmpty || !n.2.2.1.isEmpty
  match isNumber a, isNumber b with
  | true, true => compare (value a) (value b)
  | true, false => .gt
  | false, true => .lt
  | false, false => .eq

def compareChars : List Char → List Char → Ordering
  | [], [] => .eq
  | [], _ => .lt
  | _, [] => .gt
  | a :: s, b :: t => if a = b then compareChars s t else compare a.toNat b.toNat

def compareVersions : Nat → List Char → List Char → Ordering
  | 0, _, _ => .eq
  | _, [], [] => .eq
  | room + 1, a, b =>
    let isText (c : Char) : Bool := !Decimal.isDigit c
    let x := a.takeWhile isText
    let y := b.takeWhile isText
    let rank (c : Char) : Int :=
      if c = '~' then -1 else if c.isAlpha then Int.ofNat c.toNat else Int.ofNat c.toNat + 256
    let rec texts : List Char → List Char → Ordering
      | [], [] => .eq
      | [], c :: _ => if c = '~' then .gt else .lt
      | c :: _, [] => if c = '~' then .lt else .gt
      | c :: s, d :: t => if c = d then texts s t else compare (rank c) (rank d)
    match texts x y with
    | .eq =>
      let a := a.drop x.length
      let b := b.drop y.length
      let m := a.takeWhile Decimal.isDigit
      let n := b.takeWhile Decimal.isDigit
      match compare (Decimal.value m) (Decimal.value n) with
      | .eq => compareVersions room (a.drop m.length) (b.drop n.length)
      | other => other
    | other => other

def monthOf (s : List Char) : Nat :=
  let name := String.ofList (((s.dropWhile isBlank).take 3).map Char.toUpper)
  match ["JAN", "FEB", "MAR", "APR", "MAY", "JUN", "JUL", "AUG", "SEP", "OCT", "NOV", "DEC"].findIdx?
      (· == name) with
  | some k => k + 1
  | none => 0

def compareTexts (o : Order) (a b : List Char) : Ordering :=
  if o.numeric then compareNumbers a b
  else if o.general then compareGeneral a b
  else if o.human then
    match compare (unitRank a) (unitRank b) with
    | .eq => compareNumbers a b
    | other => other
  else if o.version then compareVersions (a.length + b.length + 1) a b
  else if o.month then compare (monthOf a) (monthOf b)
  else
    let seen (s : List Char) : List Char :=
      let s := if o.dictionary then s.filter fun c => c.isAlphanum || isBlank c else s
      if o.folds then s.map Char.toUpper else s
    compareChars (seen a) (seen b)

def isDefault (o : Order) : Bool :=
  !(o.numeric || o.general || o.human || o.version || o.month || o.folds || o.blanks ||
    o.dictionary || o.turned)

end Order

/-- The end of a key: a field, and a character in it; 0 is the end of the field. -/
structure Key where
  field : Nat
  char : Nat
  last : Option (Nat × Nat)
  order : Order

-- Where a field begins. Without a separator the blanks in front of it are a part of it.
def fieldStart (separator : Option Char) : Nat → List Char → List Char
  | 0, s => s
  | n + 1, s =>
    match separator with
    | some c => fieldStart separator n ((s.dropWhile (· ≠ c)).drop 1)
    | none => fieldStart separator n ((s.dropWhile Order.isBlank).dropWhile fun c => !Order.isBlank c)

def fieldEnd (separator : Option Char) (s : List Char) : List Char :=
  match separator with
  | some c => s.takeWhile (· ≠ c)
  | none =>
    let blanks := s.takeWhile Order.isBlank
    blanks ++ (s.drop blanks.length).takeWhile fun c => !Order.isBlank c

def Key.part (k : Key) (separator : Option Char) (s : List Char) : List Char :=
  let start := fieldStart separator (k.field - 1) s
  let start := if k.order.blanks then start.dropWhile Order.isBlank else start
  let start := start.drop (k.char - 1)
  match k.last with
  | none => start
  | some (field, char) =>
    let finish := fieldStart separator (field - 1) s
    let left :=
      if char = 0 then (fieldEnd separator finish).length
      else
        let blanks := if k.order.blanks then (finish.takeWhile Order.isBlank).length else 0
        blanks + char
    let endAt := (s.length - finish.length) + left
    start.take (endAt - (s.length - start.length))

def key? (global : Order) (s : String) : Except String Key :=
  let number (s : List Char) : Nat × List Char :=
    let digits := s.takeWhile Decimal.isDigit
    (Decimal.value digits, s.drop digits.length)
  let position (s : List Char) : Nat × Option Nat × List Char :=
    let (field, rest) := number s
    match rest with
    | '.' :: rest =>
      let (char, rest) := number rest
      (field, some char, rest)
    | rest => (field, none, rest)
  let cs := s.toList
  if !(cs.head?.any Decimal.isDigit) then
    .error ("invalid number at field start: invalid count at start of " ++ quoted s)
  else
    let (field, char, rest) := position cs
    if field = 0 then .error ("field number is zero: invalid field specification " ++ quoted s)
    else
      let letters := rest.takeWhile Order.letters.contains
      let rest := rest.drop letters.length
      let (last, more, rest) := match rest with
        | ',' :: rest =>
          let (f, c, rest) := position rest
          let letters := rest.takeWhile Order.letters.contains
          (some (f, c.getD 0), letters, rest.drop letters.length)
        | rest => (none, [], rest)
      if !rest.isEmpty then
        .error ("stray character in field spec: invalid field specification " ++ quoted s)
      else
        let own := (letters ++ more).foldl Order.add {}
        .ok ⟨field, char.getD 1, last, if own.isDefault then global else own⟩

structure Sorting where
  keys : List Key
  global : Order
  separator : Option Char
  unique : Bool
  stable : Bool

def Sorting.byKeys (t : Sorting) (a b : List Char) : Ordering :=
  let turn (o : Order) (r : Ordering) : Ordering := if o.turned then r.swap else r
  if t.keys.isEmpty then
    let cut (s : List Char) : List Char := if t.global.blanks then s.dropWhile Order.isBlank else s
    turn t.global (t.global.compareTexts (cut a) (cut b))
  else
    t.keys.foldl (fun r k =>
      match r with
      | .eq => turn k.order (k.order.compareTexts (k.part t.separator a) (k.part t.separator b))
      | r => r) .eq

def Sorting.compare (t : Sorting) (a b : List Char) : Ordering :=
  match t.byKeys a b with
  | .eq =>
    if t.unique || t.stable then .eq
    else
      let r := Order.compareChars a b
      if t.global.turned then r.swap else r
  | r => r

def distinct (same : List Char → List Char → Bool) : List (List Char) → List (List Char)
  | [] => []
  | [a] => [a]
  | a :: b :: rest =>
    match distinct same (b :: rest) with
    | kept => if same a b then a :: kept.drop 1 else a :: kept

def disorder? (t : Sorting) : Nat → List (List Char) → Option (Nat × List Char)
  | n, a :: b :: rest =>
    match t.compare a b with
    | .gt => some (n + 1, b)
    | .eq => if t.unique then some (n + 1, b) else disorder? t (n + 1) (b :: rest)
    | .lt => disorder? t (n + 1) (b :: rest)
  | _, _ => none

def sort : Program := fun l =>
  withOptions { letters := "nghVMfbdrimusczCt:k:o:T:S:R", long := [("numeric-sort", 'n'),
    ("reverse", 'r'), ("unique", 'u'), ("ignore-case", 'f'), ("key", 'k'), ("field-separator", 't'),
    ("output", 'o'), ("check", 'c'), ("stable", 's'), ("merge", 'm'), ("version-sort", 'V'),
    ("human-numeric-sort", 'h'), ("general-numeric-sort", 'g'), ("month-sort", 'M'),
    ("ignore-leading-blanks", 'b'), ("dictionary-order", 'd'), ("zero-terminated", 'z')] } 2 l
    fun p => do
      let global := (p.options.map (·.1)).foldl Order.add {}
      let refuse (m : String) : Act Nat := do
        complain l m
        return 2
      match p.value? 't' with
      | some "" => refuse "empty tab"
      | separator =>
        let separator : Option String := separator.map fun s => if s = "\\0" then "\x00" else s
        if separator.any fun s => 1 < s.length then
          refuse ("multi-character tab " ++ quoted (separator.getD ""))
        else
          match ((p.options.filter (·.1 == 'k')).map (·.2)).mapM (key? global) with
          | .error m => refuse m
          | .ok keys => do
            let t : Sorting := ⟨keys, global, separator.bind (·.toList.head?), p.has 'u', p.has 's'⟩
            let files := if p.words.isEmpty then ["-"] else p.words
            let message (path : String) (e : OsError) : String :=
              (if e = .isDirectory then "read failed: " else "cannot read: ") ++ plainRefusal path e
            let (texts, status) ← contents l message files [] 0
            if status ≠ 0 then return 2
            let all := (texts.map fun s => (lines s).1).flatten
            if p.has 'c' || p.has 'C' then
              match disorder? t 1 all with
              | some (n, line) => do
                if p.has 'c' then
                  complain l (files.headD "" ++ ":" ++ toString n ++ ": disorder: " ++ String.ofList line)
                return 1
              | none => return 0
            else
              let sorted := all.mergeSort fun a b => t.compare a b != .gt
              let kept := if t.unique then
                  distinct (fun a b => t.byKeys a b == .eq) sorted
                else sorted
              match p.value? 'o' with
              | none => put l (joinLines kept)
              | some path => do
                match ← Act.openAt 3 path .writing false with
                | .error e => refuse ("open failed: " ++ plainRefusal path e)
                | .ok number => do
                  let _ ← Act.say number (joinLines kept)
                  Act.close number
                  return 0

def runs (same : List Char → List Char → Bool) : List (List Char) → List (List (List Char))
  | [] => []
  | a :: rest =>
    match runs same rest with
    | (b :: bs) :: others => if same a b then (a :: b :: bs) :: others else [a] :: (b :: bs) :: others
    | others => [a] :: others

def uniq : Program := fun l =>
  withOptions { letters := "cduiDzf:s:w:", long := [("count", 'c'), ("repeated", 'd'),
    ("unique", 'u'), ("ignore-case", 'i'), ("skip-fields", 'f'), ("skip-chars", 's'),
    ("check-chars", 'w'), ("all-repeated", 'D')] } 1 l fun p => do
    match p.words with
    | _ :: _ :: extra :: _ => misused l ("extra operand " ++ quoted extra) 1
    | words => do
      match ← content (words.headD "-") with
      | .error e => do
        complain l (plainRefusal (words.headD "-") e)
        return 1
      | .ok octets =>
        let count (c : Char) : Nat := ((p.value? c).bind number?).getD 0
        let seen (line : List Char) : List Char :=
          let s := (fieldStart none (count 'f') line).drop (count 's')
          let s := if p.has 'w' then s.take (count 'w') else s
          if p.has 'i' then s.map Char.toUpper else s
        let groups := runs (fun a b => seen a == seen b) (lines (Raw.ofOctets octets)).1
        let shown := groups.flatMap fun g =>
          let isOne := g.length = 1
          if p.has 'D' then if isOne then [] else g
          else if (p.has 'd' && isOne) || (p.has 'u' && !isOne) then []
          else
            let front := if p.has 'c' then (padLeft 7 (toString g.length)).toList ++ [' '] else []
            [front ++ g.headD []]
        match words with
        | [_, goal] => do
          match ← Act.openAt 3 goal .writing false with
          | .error e => do
            complain l (plainRefusal goal e)
            return 1
          | .ok number => do
            let _ ← Act.say number (joinLines shown)
            return 0
        | _ => put l (joinLines shown)

abbrev Span := Nat × Option Nat

def span? (isField : Bool) (s : String) : Except String Span :=
  let kind := if isField then "fields" else "byte/character positions"
  let zero : String := (if isField then "fields" else "byte/character positions") ++ " are numbered from 1"
  let cs := s.toList
  let low := cs.takeWhile Decimal.isDigit
  let value (ds : List Char) : Nat := Decimal.value ds
  match cs.drop low.length with
  | [] => if value low = 0 then .error zero else .ok (value low, some (value low))
  | '-' :: high =>
    if !high.all Decimal.isDigit then
      .error ("invalid " ++ (if isField then "field value " else "byte or character position ") ++ quoted s)
    else if low.isEmpty && high.isEmpty then .error ("invalid range with no endpoint: " ++ s)
    else if !low.isEmpty && value low = 0 then .error zero
    else if high.isEmpty then .ok (value low, none)
    else
      let start := if low.isEmpty then 1 else value low
      if value high < start then .error "invalid decreasing range" else .ok (start, some (value high))
  | _ =>
    let _ := kind
    .error ("invalid " ++ (if isField then "field value " else "byte/character position ") ++ quoted s)

def spans? (isField : Bool) (s : String) : Except String (List Span) :=
  ((s.toList.map fun c => if c == ' ' then ',' else c) |> String.ofList).splitOn "," |>.mapM (span? isField)

def isChosen (spans : List Span) (complement : Bool) (n : Nat) : Bool :=
  (spans.any fun (low, high) => low ≤ n && high.all (n ≤ ·)) != complement

def splitChar (c : Char) : List Char → List (List Char)
  | [] => [[]]
  | d :: s =>
    match splitChar c s with
    | first :: rest => if d = c then [] :: first :: rest else (d :: first) :: rest
    | [] => [[d]]

def chosen {α : Type} (spans : List Span) (complement : Bool) (parts : List α) : List α :=
  ((List.range parts.length).zip parts).filterMap fun (k, part) =>
    if isChosen spans complement (k + 1) then some part else none

def cutLine (isField complement onlyDelimited : Bool) (spans : List Span) (delimiter : Char)
    (between : List Char) (line : List Char) : Option (List Char) :=
  if !isField then some (chosen spans complement line)
  else if !line.contains delimiter then if onlyDelimited then none else some line
  else some ((chosen spans complement (splitChar delimiter line)).intersperse between).flatten

def cut : Program := fun l =>
  withOptions { letters := "b:c:f:d:sno:xz", long := [("bytes", 'b'), ("characters", 'c'),
    ("fields", 'f'), ("delimiter", 'd'), ("only-delimited", 's'), ("output-delimiter", 'o'),
    ("complement", 'x'), ("zero-terminated", 'z')] } 1 l fun p => do
    let lists := p.options.filter fun o => ['b', 'c', 'f'].contains o.1
    match lists with
    | [] => misused l "you must specify a list of bytes, characters, or fields" 1
    | [(letter, list)] =>
      let isField := letter = 'f'
      let delimiter := (p.value? 'd').getD "\t"
      if 1 < delimiter.length then misused l "the delimiter must be a single character" 1
      else if !isField && p.has 'd' then
        misused l "an input delimiter may be specified only when operating on fields" 1
      else if !isField && p.has 's' then
        misused l "suppressing non-delimited lines makes sense\n\tonly when operating on fields" 1
      else
        match spans? isField list with
        | .error m => misused l m 1
        | .ok spans => do
          let sign := delimiter.toList.headD (Char.ofNat 0)
          let between := ((p.value? 'o').getD (if isField then String.singleton sign else "")).toList
          let files := if p.words.isEmpty then ["-"] else p.words
          let (texts, status) ← contents l plainRefusal files [] 0
          let all := (texts.map fun s => (lines s).1).flatten
          let shown := all.filterMap (cutLine isField (p.has 'x') (p.has 's') spans sign between)
          let written ← put l (joinLines shown)
          return max status written
    | _ => misused l "only one list may be specified" 1

def separators : List Char → List (Option Char)
  | '\\' :: '0' :: rest => none :: separators rest
  | '\\' :: 'n' :: rest => some '\n' :: separators rest
  | '\\' :: 't' :: rest => some '\t' :: separators rest
  | '\\' :: c :: rest => some c :: separators rest
  | c :: rest => some c :: separators rest
  | [] => []

def joinedBy (signs : List (Option Char)) (parts : List (List Char)) : List Char :=
  ((List.range parts.length).zip parts).flatMap fun (k, part) =>
    if k = 0 then part
    else ((signs[(k - 1) % signs.length]?).bind id).toList ++ part

def dealt (columns : List (List (List Char) × Bool)) (rows : Nat) : List (List (List Char)) :=
  (List.range rows).map fun r => columns.map fun (ls, _) => (ls[r]?).getD []

def paste : Program := fun l =>
  withOptions { letters := "sd:z", long := [("serial", 's'), ("delimiters", 'd')] } 1 l fun p => do
    let files := if p.words.isEmpty then ["-"] else p.words
    let dashes := files.countP (· == "-")
    let distinctFiles := files.filter (· ≠ "-")
    let (texts, status) ← contents l plainRefusal distinctFiles [] 0
    if status ≠ 0 then return status
    let input ← if 0 < dashes then content "-" else pure (.ok [])
    let inputLines := (lines (Raw.ofOctets (input.toOption.getD []))).1
    let signs := match separators ((p.value? 'd').getD "\t").toList with
      | [] => [none]
      | signs => signs
    -- Every dash takes the next line of the input.
    let everyOther (k : Nat) : List (List Char) :=
      ((List.range inputLines.length).zip inputLines).filterMap fun (i, line) =>
        if i % dashes = k then some line else none
    let (columns, _, _) := files.foldl (fun (done, k, texts) path =>
      if path = "-" then (done ++ [everyOther k], k + 1, texts)
      else (done ++ [(lines (texts.headD "")).1], k, texts.drop 1))
      (([] : List (List (List Char))), (0 : Nat), texts)
    if p.has 's' then put l (joinLines (columns.map (joinedBy signs)))
    else
      let rows := columns.foldl (fun n c => max n c.length) 0
      put l (joinLines ((dealt (columns.map (·, true)) rows).map (joinedBy signs)))

def tac : Program := fun l => do
  let files := if l.words.isEmpty then ["-"] else l.words
  let message (path : String) (e : OsError) : String :=
    "failed to open " ++ quoted path ++ " for reading: " ++ e.reason
  let (texts, status) ← contents l message files [] 0
  let turned := texts.map fun s =>
    let (ls, isEnded) := lines s
    match ls.reverse, isEnded with
    | last :: rest, false => String.ofList last ++ joinLines rest
    | ls, _ => joinLines ls
  let written ← put l (String.join turned)
  return max status written

def rev : Program := fun l => do
  let files := if l.words.isEmpty then ["-"] else l.words
  let (texts, status) ← contents l (fun path e => "cannot open " ++ plainRefusal path e) files [] 0
  let shown := texts.map fun s =>
    let (ls, isEnded) := lines s
    let text := joinLines (ls.map List.reverse)
    if isEnded then text else String.ofList text.toList.dropLast
  let written ← put l (String.join shown)
  return max status written

def nl : Program := fun l =>
  withOptions { letters := "b:w:s:v:i:n:", long := [("body-numbering", 'b'), ("number-width", 'w'),
    ("number-separator", 's'), ("starting-line-number", 'v'), ("line-increment", 'i'),
    ("number-format", 'n')] } 1 l fun p => do
    let files := if p.words.isEmpty then ["-"] else p.words
    let (texts, status) ← contents l plainRefusal files [] 0
    let width := ((p.value? 'w').bind number?).getD 6
    let step := ((p.value? 'i').bind number?).getD 1
    let sign := (p.value? 's').getD "\t"
    let style := (p.value? 'b').getD "t"
    let form (n : Nat) : String := match p.value? 'n' with
      | some "ln" => padRight width (toString n)
      | some "rz" =>
        let digits := toString n
        String.ofList (List.replicate (width - digits.length) '0') ++ digits
      | _ => padLeft width (toString n)
    let all := (texts.map fun s => (lines s).1).flatten
    let (shown, _) := all.foldl (fun (done, n) line =>
      if style = "a" || (style = "t" && !line.isEmpty) then
        (((form n ++ sign).toList ++ line) :: done, n + step)
      else ((List.replicate (width + sign.length) ' ' ++ line) :: done, n))
      (([] : List (List Char)), ((p.value? 'v').bind number?).getD 1)
    let written ← put l (joinLines shown.reverse)
    return max status written

def difference? : Nat → Nat → Utf8.Octets → Utf8.Octets → Option (Nat × Nat × Bool)
  | _, _, [], [] => none
  | n, line, [], _ | n, line, _, [] => some (n, line, true)
  | n, line, a :: s, b :: t =>
    if a = b then difference? (n + 1) (if a = 10 then line + 1 else line) s t
    else some (n, line, false)

def cmp : Program := fun l =>
  withOptions { letters := "slbn:i:", long := [("silent", 's'), ("quiet", 's'), ("verbose", 'l')] } 2 l
    fun p => do
      let a := p.words.headD "-"
      let b := (p.words.drop 1).headD "-"
      if p.words.isEmpty then return ← misused l "missing operand after 'cmp'" 2
      match ← content a, ← content b with
      | .ok x, .ok y =>
        match difference? 1 1 x y with
        | none => return 0
        | some (n, line, isShort) => do
          if !p.has 's' then
            if isShort then
              let short := if x.length < y.length then a else b
              if min x.length y.length = 0 then complain l ("EOF on " ++ short ++ " which is empty")
              else
                complain l ("EOF on " ++ short ++ " after byte " ++ toString (n - 1) ++ ", " ++
                  if (if x.length < y.length then x else y).getLast? == some 10 then
                    "line " ++ toString (line - 1)
                  else "in line " ++ toString line)
            else
              let _ ← put l (a ++ " " ++ b ++ " differ: char " ++ toString n ++ ", line " ++
                toString line ++ "\n")
          return 1
      | .error e, _ => do
        if !p.has 's' then complain l (plainRefusal a e)
        return 2
      | _, .error e => do
        if !p.has 's' then complain l (plainRefusal b e)
        return 2

-- Lines of two texts that stand in both, in the order of both: the longest such row, by the lines
-- that are left of each.
def commonTable (a b : Array (List Char)) : Array (Array Nat) :=
  (List.range a.size).reverse.foldl (fun (table : Array (Array Nat)) i =>
    let below := (table.back?).getD (Array.replicate (b.size + 1) 0)
    let row := (List.range b.size).reverse.foldl (fun (row : Array Nat) j =>
      let right := (row.back?).getD 0
      let n := if a[i]? == b[j]? then (below[b.size - (j + 1)]?).getD 0 + 1
        else max ((below[b.size - j]?).getD 0) right
      row.push n) #[0]
    table.push row) #[Array.replicate (b.size + 1) 0]

/-- What is to be done to make the second text of the first one: runs of lines that go and lines that
come, by their first lines and their numbers. -/
def edits (a b : Array (List Char)) (table : Array (Array Nat)) :
    Nat → Nat → Nat → Option (Nat × Nat) → List (Nat × Nat × Nat × Nat)
  | 0, _, _, _ => []
  | room + 1, i, j, start =>
    let ended : List (Nat × Nat × Nat × Nat) := match start with
      | some (x, y) => [(x, i, y, j)]
      | none => []
    if i = a.size && j = b.size then ended
    else
      let at_ (i j : Nat) : Nat := (((table[a.size - i]?).getD #[])[b.size - j]?).getD 0
      let begun := some (start.getD (i, j))
      if i < a.size && j < b.size && a[i]? == b[j]? then ended ++ edits a b table room (i + 1) (j + 1) none
      else if i < a.size && (j = b.size || at_ i (j + 1) ≤ at_ (i + 1) j) then
        edits a b table room (i + 1) j begun
      else edits a b table room i (j + 1) begun

def rangeText (start finish : Nat) : String :=
  if finish ≤ start + 1 then toString (if finish = start then start else start + 1)
  else toString (start + 1) ++ "," ++ toString finish

def editText (a b : Array (List Char)) (endA endB : Bool) (change : Nat × Nat × Nat × Nat) : String :=
  let (i, i', j, j') := change
  let letter := if i = i' then "a" else if j = j' then "d" else "c"
  let line (sign : String) (texts : Array (List Char)) (isEnded : Bool) (k : Nat) : String :=
    sign ++ String.ofList ((texts[k]?).getD []) ++ "\n" ++
      if k + 1 = texts.size && !isEnded then "\\ No newline at end of file\n" else ""
  let gone := (List.range (i' - i)).map fun k => line "< " a endA (i + k)
  let come := (List.range (j' - j)).map fun k => line "> " b endB (j + k)
  rangeText i i' ++ letter ++ rangeText j j' ++ "\n" ++ String.join gone ++
    (if gone.isEmpty || come.isEmpty then "" else "---\n") ++ String.join come

def diff : Program := fun l =>
  withOptions { letters := "qsuUbwBirNa", long := [("brief", 'q'), ("report-identical-files", 's'),
    ("recursive", 'r')] } 2 l fun p => do
    match p.words with
    | [a, b] => do
      match ← content a, ← content b with
      | .ok x, .ok y =>
        if x = y then
          if p.has 's' then put l ("Files " ++ a ++ " and " ++ b ++ " are identical\n") else return 0
        else if p.has 'q' then do
          let _ ← put l ("Files " ++ a ++ " and " ++ b ++ " differ\n")
          return 1
        else
          let (la, endA) := lines (Raw.ofOctets x)
          let (lb, endB) := lines (Raw.ofOctets y)
          -- A last line without its end differs from one with it.
          let keyed (ls : List (List Char)) (isEnded : Bool) : Array (List Char) :=
            ls.toArray.mapIdx fun k s => if k + 1 = ls.length && !isEnded then s ++ ['\n'] else s
          let ka := keyed la endA
          let kb := keyed lb endB
          let changes := edits ka kb (commonTable ka kb) (ka.size + kb.size + 1) 0 0 none
          let _ ← put l (String.join (changes.map (editText la.toArray lb.toArray endA endB)))
          return 1
      | .error e, _ => do
        complain l (plainRefusal a e)
        return 2
      | _, .error e => do
        complain l (plainRefusal b e)
        return 2
    | [] => misused l "missing operand after 'diff'" 2
    | [a] => misused l ("missing operand after " ++ quoted a) 2
    | _ :: _ :: extra :: _ => misused l ("extra operand " ++ quoted extra) 2

end Converge.Tool
