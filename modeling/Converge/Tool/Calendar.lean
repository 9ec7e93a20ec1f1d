import Converge.Report.Stamp

set_option autoImplicit false

namespace Converge.Tool.Calendar

open Converge.Text

def second : Int := 1000000000

def dateOf (day : Int) : Int × Nat × Nat :=
  -- So many eras of 400 years go before that no day is negative.
  let eras : Nat := 5000
  let d := Timestamp.dateOf (day + 146097 * Int.ofNat eras).toNat
  (Int.ofNat d.year - 400 * Int.ofNat eras, d.month, d.day)

-- The number of a day. Years start with March here, so that the leap day ends one.
def dayOf (year : Int) (month day : Nat) : Int :=
  let y := if month ≤ 2 then year - 1 else year
  let era := y.fdiv 400
  let ofEra := y - era * 400
  let m := Int.ofNat ((month + 9) % 12)
  let ofYear := (153 * m + 2) / 5 + Int.ofNat day - 1
  era * 146097 + ofEra * 365 + ofEra / 4 - ofEra / 100 + ofYear - 719468

def isLeap (year : Int) : Bool := year % 4 = 0 && (year % 100 ≠ 0 || year % 400 = 0)

def daysIn (year : Int) (month : Nat) : Nat :=
  if month = 2 then if isLeap year then 29 else 28
  else if [4, 6, 9, 11].contains month then 30 else 31

structure Parts where
  year : Int
  month : Nat
  day : Nat
  hour : Nat
  minute : Nat
  second : Nat
  nanosecond : Nat
  weekday : Nat
  yearday : Nat
  seconds : Int

def Parts.ofMoment (t : Int) : Parts :=
  let seconds := t.fdiv Calendar.second
  let day := seconds.fdiv 86400
  let rest := (seconds - day * 86400).toNat
  let (year, month, ofMonth) := dateOf day
  { year := year, month := month, day := ofMonth
    hour := rest / 3600, minute := rest / 60 % 60, second := rest % 60
    nanosecond := (t - seconds * Calendar.second).toNat
    weekday := ((day + 4) % 7).toNat
    yearday := (day - dayOf year 1 1 + 1).toNat
    seconds := seconds }

def monthNames : List String := ["January", "February", "March", "April", "May", "June", "July",
  "August", "September", "October", "November", "December"]

def dayNames : List String :=
  ["Sunday", "Monday", "Tuesday", "Wednesday", "Thursday", "Friday", "Saturday"]

def short (name : String) : String := String.ofList (name.toList.take 3)

def place? (names : List String) (w : String) : Option Nat :=
  names.findIdx? fun name => name.toLower = w || (short name).toLower = w

/-- The week of the year in which a day lies, and that year: weeks start on Monday and belong to the year
in which most of their days lie. -/
def weekOf (p : Parts) : Int × Nat :=
  let ofWeek := (p.weekday + 6) % 7
  let thursday := p.yearday + 3 - ofWeek
  let length (year : Int) : Nat := if isLeap year then 366 else 365
  if p.yearday + 3 < ofWeek + 1 then
    (p.year - 1, (length (p.year - 1) + p.yearday + 3 - ofWeek + 6) / 7)
  else if length p.year < thursday then (p.year + 1, 1)
  else (p.year, (thursday + 6) / 7)

structure Field where
  pad : Option Char := none
  width : Nat := 0
  upper : Bool := false
  turned : Bool := false

def Field.number (f : Field) (pad : Char) (width : Nat) (n : Int) : String :=
  let pad := f.pad.getD pad
  let digits := (toString n.natAbs).toList
  let width := max f.width (if f.pad = some '-' then 0 else width)
  let sign := if n < 0 then ['-'] else []
  let fill := List.replicate (width - digits.length - sign.length) (if pad = ' ' then ' ' else '0')
  String.ofList (if pad = ' ' then fill ++ sign ++ digits else sign ++ fill ++ digits)

def Field.text (f : Field) (s : String) : String :=
  let s := if f.upper || f.turned then s.toUpper else s
  String.ofList (List.replicate (f.width - s.length) (if f.pad = some '0' then '0' else ' ')) ++ s

-- What a letter of a format stands for; the letters that stand for whole formats are not here.
def field? (p : Parts) (f : Field) (letter : Char) : Option String :=
  let two (n : Nat) : Option String := some (f.number '0' 2 (Int.ofNat n))
  let hour12 := if p.hour % 12 = 0 then 12 else p.hour % 12
  let zone := if f.turned then "utc" else "UTC"
  match letter with
  | 'Y' => some (f.number '0' 1 p.year)
  | 'C' => some (f.number '0' 2 (p.year.fdiv 100))
  | 'y' => two (p.year % 100).toNat
  | 'm' => two p.month
  | 'd' => two p.day
  | 'e' => some (f.number ' ' 2 (Int.ofNat p.day))
  | 'H' => two p.hour
  | 'k' => some (f.number ' ' 2 (Int.ofNat p.hour))
  | 'I' => two hour12
  | 'l' => some (f.number ' ' 2 (Int.ofNat hour12))
  | 'M' => two p.minute
  | 'S' => two p.second
  | 's' => some (f.number '0' 1 p.seconds)
  | 'N' =>
    let width := if f.width = 0 then 9 else f.width
    some (String.ofList ((Decimal.padded 9 p.nanosecond).take width))
  | 'j' => some (f.number '0' 3 (Int.ofNat p.yearday))
  | 'u' => some (f.number '0' 1 (Int.ofNat (if p.weekday = 0 then 7 else p.weekday)))
  | 'w' => some (f.number '0' 1 (Int.ofNat p.weekday))
  | 'q' => some (f.number '0' 1 (Int.ofNat ((p.month + 2) / 3)))
  | 'U' => two ((p.yearday + 6 - p.weekday) / 7)
  | 'W' => two ((p.yearday + 6 - (p.weekday + 6) % 7) / 7)
  | 'V' => two (weekOf p).2
  | 'G' => some (f.number '0' 1 (weekOf p).1)
  | 'g' => two ((weekOf p).1 % 100).toNat
  | 'a' => some (f.text (short (dayNames.getD p.weekday "")))
  | 'A' => some (f.text (dayNames.getD p.weekday ""))
  | 'b' | 'h' => some (f.text (short (monthNames.getD (p.month - 1) "")))
  | 'B' => some (f.text (monthNames.getD (p.month - 1) ""))
  | 'p' => some (if f.turned then if p.hour < 12 then "am" else "pm" else if p.hour < 12 then "AM" else "PM")
  | 'P' => some (if p.hour < 12 then "am" else "pm")
  | 'Z' => some zone
  | 'z' => some "+0000"
  | 'n' => some "\n"
  | 't' => some "\t"
  | '%' => some "%"
  | _ => none

def longForm? : Char → Option String
  | 'F' => some "%Y-%m-%d"
  | 'D' | 'x' => some "%m/%d/%y"
  | 'T' | 'X' => some "%H:%M:%S"
  | 'R' => some "%H:%M"
  | 'r' => some "%I:%M:%S %p"
  | 'c' => some "%a %b %e %H:%M:%S %Y"
  | _ => none

def renderWithin (p : Parts) : Nat → List Char → List Char
  | 0, _ => []
  | _, [] => []
  | room + 1, '%' :: rest =>
    let flags := rest.takeWhile ("-_0^#+".toList.contains ·)
    let rest' := rest.drop flags.length
    let digits := rest'.takeWhile Decimal.isDigit
    let rest' := rest'.drop digits.length
    let f : Field := {
      pad := match flags.filter ("-_0".toList.contains ·) |>.getLast? with
        | some '_' => some ' '
        | other => other
      width := min 100 (Decimal.value digits)
      upper := flags.contains '^', turned := flags.contains '#' }
    match rest' with
    | ':' :: 'z' :: more => "+00:00".toList ++ renderWithin p room more
    | letter :: more =>
      match longForm? letter, field? p f letter with
      | some form, _ => renderWithin p room form.toList ++ renderWithin p room more
      | none, some text => text.toList ++ renderWithin p room more
      | none, none => '%' :: renderWithin p room rest
    | [] => '%' :: rest
  | room + 1, c :: rest => c :: renderWithin p room rest

def render (format : String) (t : Int) : String :=
  String.ofList (renderWithin (Parts.ofMoment t) (format.length + 40) format.toList)

inductive Piece where
  | number (digits : List Char)
  | word (w : String)
  | sign (c : Char)
  deriving DecidableEq

def piecesWithin : Nat → List Char → List Piece
  | 0, _ => []
  | _, [] => []
  | room + 1, c :: rest =>
    if c == ' ' || c == '\t' || c == ',' then piecesWithin room rest
    else if Decimal.isDigit c then
      let more := rest.takeWhile Decimal.isDigit
      .number (c :: more) :: piecesWithin room (rest.drop more.length)
    else if c.isAlpha then
      let more := rest.takeWhile Char.isAlpha
      .word (String.ofList (c :: more)).toLower :: piecesWithin room (rest.drop more.length)
    else .sign c :: piecesWithin room rest

structure Reading where
  date : Option (Int × Nat × Nat) := none
  time : Option (Nat × Nat × Nat × Nat) := none
  weekday : Option Nat := none
  zone : Int := 0
  months : Int := 0
  days : Int := 0
  nanoseconds : Int := 0

def unit? (w : String) : Option (Int × Int × Int) :=
  let name := if w.endsWith "s" && 3 < w.length then String.ofList w.toList.dropLast else w
  match name with
  | "year" => some (12, 0, 0)
  | "month" => some (1, 0, 0)
  | "fortnight" => some (0, 14, 0)
  | "week" => some (0, 7, 0)
  | "day" => some (0, 1, 0)
  | "hour" => some (0, 0, 3600 * second)
  | "minute" | "min" => some (0, 0, 60 * second)
  | "second" | "sec" => some (0, 0, second)
  | _ => none

def Reading.add (r : Reading) (n : Int) (u : Int × Int × Int) : Reading :=
  { r with months := r.months + n * u.1, days := r.days + n * u.2.1
           nanoseconds := r.nanoseconds + n * u.2.2 }

def Reading.at? (r : Reading) (year : Int) (month day : Nat) : Option Reading :=
  if r.date.isSome || month = 0 || 12 < month || day = 0 || daysIn year month < day then none
  else some { r with date := some (year, month, day) }

def Reading.clock? (r : Reading) (hour minute sec nano : Nat) : Option Reading :=
  if r.time.isSome || 23 < hour || 59 < minute || 60 < sec then none
  else some { r with time := some (hour, minute, sec, nano) }

def fullYear (digits : List Char) : Int :=
  let n := Int.ofNat (Decimal.value digits)
  if digits.length = 2 then if n < 69 then n + 2000 else n + 1900 else n

def nanosecondsOf (digits : List Char) : Nat :=
  Decimal.value ((digits ++ List.replicate 9 '0').take 9)

def hourOf (hour : Nat) (half : String) : Nat := hour % 12 + if half = "pm" then 12 else 0

def zoneOf (isBehind : Bool) (digits : List Char) : Int :=
  let n := Decimal.value digits
  let minutes := Int.ofNat (if digits.length ≤ 2 then n * 60 else n / 100 * 60 + n % 100)
  if isBehind then -minutes else minutes

def counted (n : List Char) (ps : List Piece) : Int × List Piece :=
  let value := Int.ofNat (Decimal.value n)
  match ps with
  | .word "ago" :: rest => (-value, rest)
  | rest => (value, rest)

def readWithin : Nat → List Piece → Reading → Option Reading
  | 0, _, _ => none
  | _, [], r => some r
  | room + 1, ps, r =>
    let go (rest : List Piece) (r : Option Reading) : Option Reading := r.bind (readWithin room rest)
    let value (ds : List Char) : Nat := Decimal.value ds
    match ps with
    | .number y :: .sign '-' :: .number m :: .sign '-' :: .number d :: rest =>
      go rest (r.at? (fullYear y) (value m) (value d))
    | .number a :: .sign '/' :: .number b :: .sign '/' :: .number c :: rest =>
      if 3 < a.length then go rest (r.at? (fullYear a) (value b) (value c))
      else go rest (r.at? (fullYear c) (value a) (value b))
    | .number h :: .sign ':' :: .number m :: .sign ':' :: .number s :: .sign '.' :: .number f :: rest =>
      go rest (r.clock? (value h) (value m) (value s) (nanosecondsOf f))
    | .number h :: .sign ':' :: .number m :: .sign ':' :: .number s :: .word "am" :: rest =>
      go rest (r.clock? (hourOf (value h) "am") (value m) (value s) 0)
    | .number h :: .sign ':' :: .number m :: .sign ':' :: .number s :: .word "pm" :: rest =>
      go rest (r.clock? (hourOf (value h) "pm") (value m) (value s) 0)
    | .number h :: .sign ':' :: .number m :: .sign ':' :: .number s :: rest =>
      go rest (r.clock? (value h) (value m) (value s) 0)
    | .number h :: .sign ':' :: .number m :: .word "pm" :: rest =>
      go rest (r.clock? (hourOf (value h) "pm") (value m) 0 0)
    | .number h :: .sign ':' :: .number m :: rest => go rest (r.clock? (value h) (value m) 0 0)
    | .number h :: .word "am" :: rest => go rest (r.clock? (hourOf (value h) "am") 0 0 0)
    | .number h :: .word "pm" :: rest => go rest (r.clock? (hourOf (value h) "pm") 0 0 0)
    | .word "t" :: rest => go rest (if r.date.isSome then some r else none)
    | .word "z" :: rest | .word "utc" :: rest | .word "gmt" :: rest | .word "now" :: rest
    | .word "today" :: rest | .word "this" :: rest => go rest (some r)
    | .word "yesterday" :: rest => go rest (some (r.add (-1) (0, 1, 0)))
    | .word "tomorrow" :: rest => go rest (some (r.add 1 (0, 1, 0)))
    | .word "next" :: .word w :: rest => go rest ((unit? w).map (r.add 1))
    | .word "last" :: .word w :: rest => go rest ((unit? w).map (r.add (-1)))
    | .sign '+' :: .number n :: .word w :: rest =>
      let (n, rest) := counted n rest
      go rest ((unit? w).map (r.add n))
    | .sign '-' :: .number n :: .word w :: rest =>
      let (n, rest) := counted n rest
      go rest ((unit? w).map (r.add (-n)))
    | .sign '+' :: .number n :: .sign ':' :: .number m :: rest =>
      go rest (some { r with zone := zoneOf false n + Int.ofNat (value m) })
    | .sign '-' :: .number n :: .sign ':' :: .number m :: rest =>
      go rest (some { r with zone := zoneOf true n - Int.ofNat (value m) })
    | .sign '+' :: .number n :: rest =>
      go rest (if r.time.isSome then some { r with zone := zoneOf false n } else none)
    | .sign '-' :: .number n :: rest =>
      go rest (if r.time.isSome then some { r with zone := zoneOf true n } else none)
    | .number n :: .word w :: rest =>
      match place? monthNames w with
      | some m =>
        match rest with
        | .number y :: rest => go rest (r.at? (fullYear y) (m + 1) (value n))
        | rest => go rest (r.at? 1970 (m + 1) (value n))
      | none =>
        let (count, rest') := counted n rest
        match unit? w with
        | some u => go rest' (some (r.add count u))
        | none => go (.word w :: rest) (if n.length = 8 then
            r.at? (fullYear (n.take 4)) (value (n.drop 4 |>.take 2)) (value (n.drop 6)) else none)
    | .word w :: rest =>
      match place? monthNames w, place? dayNames w, unit? w with
      | some m, _, _ =>
        match rest with
        | .number d :: .number y :: rest => go rest (r.at? (fullYear y) (m + 1) (value d))
        | .number d :: rest => go rest (r.at? 1970 (m + 1) (value d))
        | _ => none
      | none, some d, _ => go rest (some { r with weekday := some d })
      | none, none, some u =>
        match rest with
        | .word "ago" :: rest => go rest (some (r.add (-1) u))
        | rest => go rest (some (r.add 1 u))
      | none, none, none => none
    | .number n :: rest =>
      if n.length = 8 then
        go rest (r.at? (fullYear (n.take 4)) (value (n.drop 4 |>.take 2)) (value (n.drop 6)))
      else if n.length ≤ 2 then go rest (r.clock? (value n) 0 0 0)
      else if n.length ≤ 4 then go rest (r.clock? (value n / 100) (value n % 100) 0 0)
      else none
    | _ => none

def Reading.moment (now : Int) (r : Reading) (isEmpty : Bool) : Int :=
  let p := Parts.ofMoment now
  let (year, month, day) := r.date.getD (p.year, p.month, p.day)
  let months := year * 12 + Int.ofNat month - 1 + r.months
  let start := dayOf (months.fdiv 12) ((months % 12).toNat + 1) 1 + Int.ofNat day - 1
  let start := match r.weekday, r.date with
    | some w, none => start + (Int.ofNat w - (start + 4) % 7) % 7
    | _, _ => start
  let ofDay : Int := match r.time with
    | some (h, m, s, n) => Int.ofNat (h * 3600 + m * 60 + s) * second + Int.ofNat n
    | none =>
      if r.date.isSome || r.weekday.isSome || isEmpty then 0
      else now - (now.fdiv (86400 * second)) * (86400 * second)
  (start + r.days) * (86400 * second) + ofDay - r.zone * 60 * second + r.nanoseconds

def seconds? (s : List Char) : Option Int :=
  let isNegative := s.head? == some '-'
  let body := match s with
    | '-' :: rest | '+' :: rest => rest
    | rest => rest
  let whole := body.takeWhile Decimal.isDigit
  let part : Option (List Char) := match body.drop whole.length with
    | [] => some []
    | '.' :: rest => if rest.all Decimal.isDigit then some rest else none
    | _ => none
  if whole.isEmpty then none
  else part.map fun digits =>
    let n := Int.ofNat (Decimal.value whole) * second + Int.ofNat (nanosecondsOf digits)
    if isNegative then -n else n

def moment? (now : Int) (s : String) : Option Int :=
  match s.toList.dropWhile (· == ' ') with
  | '@' :: rest => seconds? rest
  | cs =>
    let pieces := piecesWithin (cs.length + 1) cs
    (readWithin (2 * pieces.length + 2) pieces {}).map fun r => r.moment now pieces.isEmpty

/-- A moment in digits alone: the month, the day, the hour and the minute, with a year before them or none,
and seconds behind a point. -/
def stamp? (now : Int) (s : String) : Option Int :=
  let cs := s.toList
  let digits := cs.takeWhile (· ≠ '.')
  let sec := cs.drop (digits.length + 1)
  let two (k : Nat) : Nat := Decimal.value ((digits.drop k).take 2)
  let year : Option (Int × Nat) := match digits.length with
    | 8 => some ((Parts.ofMoment now).year, 0)
    | 10 => some (fullYear (digits.take 2), 2)
    | 12 => some (fullYear (digits.take 4), 4)
    | _ => none
  if !digits.all Decimal.isDigit || !sec.all Decimal.isDigit || (sec.length ≠ 0 && sec.length ≠ 2) then none
  else
    year.bind fun (year, k) =>
      (({} : Reading).at? year (two k) (two (k + 2))).bind fun r =>
        (r.clock? (two (k + 4)) (two (k + 6)) (Decimal.value sec) 0).map fun r => r.moment now false

end Converge.Tool.Calendar
