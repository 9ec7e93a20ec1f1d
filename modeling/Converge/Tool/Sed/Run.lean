import Converge.Tool.Feed
import Converge.Tool.Sed.Reader
import Converge.Tool.Tree

set_option autoImplicit false
set_option maxRecDepth 2000

namespace Converge.Tool.Sed

open Converge.Process
open Converge.Text

/-- A text that is written when the line under way is done with. -/
inductive Queued where
  | text (s : String)
  | file (path : String)

/-- How the input is taken and the output given. -/
structure Manner where
  separate : Bool := false
  -- Files are changed themselves; what they held may be kept under another name.
  inPlace : Option String := none
  sign : Char := '\n'
  width : Nat := 70

/-- A file that is being changed, with what goes into it. -/
structure Change where
  path : String
  pieces : List String := []

structure Work where
  space : List Char := []
  hasEnd : Bool := true
  hold : List Char := []
  line : Nat := 0
  feed : Option Feed := none
  name : String := "-"
  waiting : List String
  -- Ranges that have begun, by their commands: the line where each ends, if it is a line.
  active : List (Nat × Option Nat) := []
  queue : List Queued := []
  replaced : Bool := false
  latest : Option Regex := none
  goals : List (String × Nat) := []
  -- Feeds for files that are read line by line.
  feeds : List (String × Feed) := []
  owing : List (Option Nat) := []
  change : Option Change := none
  status : Nat := 0

inductive Course where
  | cycle
  | again
  | quit (status : Nat)
  | broken (message : String)

variable (l : Launch) (m : Manner)

def emit (goal : Option Nat) (text : String) (w : Work) : Act Work := do
  match goal, w.change with
  | none, some c => return { w with change := some { c with pieces := text :: c.pieces } }
  | _, _ => do
    match ← Act.say (goal.getD 1) text with
    | .ok () => return w
    | .error e => do
      complain l ("couldn't write " ++ toString text.length ++ " items to stdout: " ++ e.reason)
      Act.exit 4

def emitWhole (goal : Option Nat) (text : String) (w : Work) : Act Work := do
  if w.owing.contains goal then
    emit l goal (String.singleton m.sign ++ text) { w with owing := w.owing.filter (· ≠ goal) }
  else emit l goal text w

def emitLine (goal : Option Nat) (line : List Char) (hasEnd : Bool) (w : Work) : Act Work := do
  if hasEnd then emitWhole l m goal (String.ofList (line ++ [m.sign])) w
  else do
    let w ← emitWhole l m goal (String.ofList line) w
    return { w with owing := goal :: w.owing }

def settleChange (w : Work) : Act Work := do
  match w.change with
  | none => return w
  | some c => do
    let octets := Raw.toOctets (String.join c.pieces.reverse)
    let done ← Act.change fun self s =>
      let old : Except OsError State := match m.inPlace with
        | some ending =>
          if ending = "" then .ok s
          else
            let name := if ending.toList.contains '*' then
                String.intercalate (baseName c.path) (ending.splitOn "*")
              else baseName c.path ++ ending
            let goal := if name.toList.contains '/' then name
              else if c.path.toList.contains '/' then directoryName c.path ++ "/" ++ name else name
            match s.lookUp self true c.path, s.openTarget self goal Process.Manner.writing with
            | .ok (place, _), .ok (.file copy, s) => .ok (s.setContent copy (s.content place))
            | _, .ok (_, s) => .ok s
            | _, .error e => .error e
        | none => .ok s
      old.bind fun s => match s.lookUp self true c.path with
        | .ok (place, _) => .ok (s.settle.setContent place octets)
        | .error e => .error e
    let w := { w with change := none, owing := w.owing.filter (· ≠ none) }
    match done with
    | .ok () => return w
    | .error e => do
      complain l ("couldn't open temporary file: " ++ e.reason)
      return { w with status := 4 }

def openNext : Nat → Work → Act Work
  | 0, w => return w
  | room + 1, w => do
    match w.waiting with
    | [] => return w
    | path :: rest => do
      let w := { w with waiting := rest }
      let v ← View.now
      let isDirectory := v.isDirectory path && path ≠ "-"
      let opened : Except OsError Nat ← if path = "-" && m.inPlace.isNone then pure (.ok 0)
        else if isDirectory && m.inPlace.isSome then pure (.error .isDirectory)
        else Act.openAt 3 path .reading false
      match opened with
      | .error .isDirectory => do
        complain l ("couldn't edit " ++ path ++ ": not a regular file")
        openNext room { w with status := 4 }
      | .error e => do
        complain l ("can't read " ++ path ++ ": " ++ e.reason)
        openNext room { w with status := max w.status 2 }
      | .ok number =>
        return { w with
          feed := some { descriptor := number, sign := m.sign }
          name := path
          line := if m.separate then 0 else w.line
          active := if m.separate then [] else w.active
          change := m.inPlace.map fun _ => { path := path } }

def pull : Nat → Work → Act (Option (List Char × Bool) × Work)
  | 0, w => return (none, w)
  | room + 1, w => do
    match w.feed with
    | none =>
      if w.waiting.isEmpty then return (none, w)
      else
        let w ← openNext l m (w.waiting.length + 1) w
        if w.feed.isNone then return (none, w) else pull room w
    | some f => do
      match ← f.next with
      | .ok (some line, f) => return (some line, { w with feed := some f })
      | .ok (none, f) => do
        closed f.descriptor
        let w ← settleChange l m w
        pull room { w with feed := none }
      | .error e => do
        complain l ("read error on " ++ (if w.name = "-" then "stdin" else w.name) ++ ": " ++ e.reason)
        Act.exit 4

def isLast : Nat → Work → Act (Bool × Work)
  | 0, w => return (true, w)
  | room + 1, w => do
    match w.feed with
    | none =>
      if w.waiting.isEmpty then return (true, w)
      else
        let line := w.line
        let w ← openNext l m (w.waiting.length + 1) w
        if w.feed.isNone then return (true, w) else isLast room { w with line := line }
    | some f => do
      let (more, f) ← f.hasMore
      let w := { w with feed := some f }
      if more then return (false, w)
      else if m.separate || w.waiting.isEmpty then return (true, w)
      else do
        closed f.descriptor
        isLast room { w with feed := none }

def isEnd (w : Work) : Act (Bool × Work) := isLast l m (w.waiting.length + 2) w

def flushQueue (w : Work) : Act Work := do
  let rec go : List Queued → Work → Act Work
    | [], w => return w
    | q :: rest, w => do
      match q with
      | .text s => do go rest (← emitWhole l m none s w)
      | .file path => do
        match ← content (if path = "/dev/stdin" then "-" else path) with
        | .ok octets =>
          if octets.isEmpty then go rest w
          else do go rest (← emitWhole l m none (Raw.ofOctets octets) w)
        | .error _ => go rest w
  go w.queue { w with queue := [] }

def advance (appends : Bool) (w : Work) : Act (Bool × Work) := do
  let w ← flushQueue l m w
  match ← pull l m (2 * w.waiting.length + 4) w with
  | (none, w) => return (false, w)
  | (some (line, hasEnd), w) =>
    return (true, { w with
      space := if appends then w.space ++ m.sign :: line else line
      hasEnd := hasEnd
      line := w.line + 1 })

def Fit.subject (f : Fit) (text : List Char) : Regex.Subject :=
  { text := text.toArray, folds := f.folds, byLines := f.byLines }

def Fit.regex? (f : Fit) (w : Work) : Option Regex := f.regex.orElse fun _ => w.latest

def noRegex : String := "no previous regular expression"

def holds (p : Place) (w : Work) : Act (Except String Bool × Work) := do
  match p with
  | .line n => return (.ok (w.line = n), w)
  | .start => return (.ok false, w)
  | .every first step => return (.ok (first ≤ w.line && (w.line - first) % step = 0), w)
  | .last => do
    let (last, w) ← isEnd l m w
    return (.ok last, w)
  | .fits f =>
    match f.regex? w with
    | none => return (.error noRegex, w)
    | some r => return (.ok (Regex.fitsAnywhere (f.subject w.space) r), { w with latest := some r })

def chooses (index : Nat) (c : Command) (w : Work) : Act (Except String Bool × Work) := do
  let stop (w : Work) : Work := { w with active := w.active.filter (·.1 ≠ index) }
  let begin_ (last : Option Nat) (w : Work) : Work := { w with active := (index, last) :: (stop w).active }
  match c.start, c.finish with
  | none, _ => return (.ok true, w)
  | some p, none => holds l m p w
  | some p, some finish =>
    match w.active.lookup index with
    | some (some last) =>
      let w := if last ≤ w.line then stop w else w
      if w.line ≤ last then return (.ok true, w)
      else do
        -- The range was left behind; it may begin anew.
        let (answer, w) ← holds l m p w
        return (answer, w)
    | some none =>
      match finish with
      | .at q => do
        let (answer, w) ← holds l m q w
        match answer with
        | .ok true => return (.ok true, stop w)
        | .ok false => return (.ok true, w)
        | .error e => return (.error e, w)
      | _ => return (.ok true, stop w)
    | none => do
      let (answer, w) ← holds l m p w
      match answer with
      | .ok true =>
        match finish with
        | .at (.line n) => return (.ok true, if n ≤ w.line then w else begin_ (some n) w)
        | .at .start => return (.ok true, w)
        | .at _ => return (.ok true, begin_ none w)
        | .after n => return (.ok true, if n = 0 then w else begin_ (some (w.line + n)) w)
        | .multiple n =>
          let last := if n = 0 then w.line else (w.line / n + 1) * n
          return (.ok true, if last ≤ w.line then w else begin_ (some last) w)
      | other => return (other, w)

-- Letters as a change of case asks for: what lasts, and what is for the next letter only.
def recased (lasting once : Option Char) : List Char → List Char
  | [] => []
  | c :: rest =>
    let as (k : Option Char) (c : Char) : Char := match k with
      | some 'U' | some 'u' => c.toUpper
      | some 'L' | some 'l' => c.toLower
      | _ => c
    (if once.isSome then as once c else as lasting c) :: rest.map (as lasting)

def filled (t : Regex.Subject) (start finish : Nat) (taken : Regex.Taken) :
    List Part → Option Char → Option Char → List Char
  | [], _, _ => []
  | .change 'E' :: rest, _, _ => filled t start finish taken rest none none
  | .change c :: rest, lasting, once =>
    if c = 'u' || c = 'l' then filled t start finish taken rest lasting (some c)
    else filled t start finish taken rest (some c) once
  | part :: rest, lasting, once =>
    let s := match part with
      | .text s => s
      | .group 0 => (Regex.part t start finish).toList
      | .group n => ((Regex.groupText t taken n).getD "").toList
      | .change _ => []
    recased lasting once s ++
      filled t start finish taken rest lasting (if s.isEmpty then once else none)

-- Puts something in place of fits. `count` is the number of the next fit, `isFresh` tells that the
-- last one did not end here.
def replacedWithin (s : Substitution) (r : Regex) (t : Regex.Subject) :
    Nat → Nat → Nat → Bool → List Char → List Char × Bool
  | 0, p, _, _, done => (done.reverse ++ t.text.toList.drop p, false)
  | room + 1, p, count, isFresh, done =>
    match Regex.find? t r p with
    | none => (done.reverse ++ t.text.toList.drop p, false)
    | some (start, finish, taken) =>
      let before := ((t.text.toList.drop p).take (start - p)).reverse ++ done
      let isEmpty := start = finish
      let single := (t.text.toList.drop start).take 1
      if isEmpty && start = p && !isFresh then
        -- Nothing is no fit right behind another one.
        if single.isEmpty then (done.reverse, false)
        else replacedWithin s r t room (p + 1) count true (single ++ done)
      else if count < s.nth then
        if isEmpty then
          if single.isEmpty then (before.reverse, false)
          else replacedWithin s r t room (start + 1) (count + 1) true (single ++ before)
        else
          let kept := ((t.text.toList.drop start).take (finish - start)).reverse
          replacedWithin s r t room finish (count + 1) false (kept ++ before)
      else
        let new := (filled t start finish taken s.parts none none).reverse ++ before
        if !s.everywhere then (new.reverse ++ t.text.toList.drop finish, true)
        else if isEmpty then
          if single.isEmpty then (new.reverse, true)
          else
            let (out, _) := replacedWithin s r t room (start + 1) (count + 1) true (single ++ new)
            (out, true)
        else
          let (out, _) := replacedWithin s r t room finish (count + 1) false new
          (out, true)

def plainForm (sign : Char) (width : Nat) (line : List Char) : List Char :=
  let shown (c : Char) : List Char :=
    match c with
    | '\\' => ['\\', '\\']
    | '\x07' => ['\\', 'a']
    | '\x08' => ['\\', 'b']
    | '\x0c' => ['\\', 'f']
    | '\n' => ['\\', 'n']
    | '\x0d' => ['\\', 'r']
    | '\t' => ['\\', 't']
    | '\x0b' => ['\\', 'v']
    | c =>
      if 32 ≤ c.toNat && c.toNat < 127 then [c]
      else
        let n := c.toNat
        '\\' :: [n / 64, n / 8 % 8, n % 8].map fun d => Char.ofNat (48 + d)
  let limit := width - 1
  let (out, _) := line.foldl (fun (out, used) c =>
    let s := shown c
    if 1 < width && limit < used + s.length then (s.reverse ++ '\n' :: '\\' :: out, s.length)
    else (s.reverse ++ out, used + s.length)) (([] : List Char), 0)
  out.reverse ++ ['$', sign]

def goal? (w : Work) (path : String) : Option Nat :=
  if path = "/dev/stdout" then some 1 else if path = "/dev/stderr" then some 2 else w.goals.lookup path

def emitTo (path : String) (line : List Char) (hasEnd : Bool) (w : Work) : Act Work := do
  match goal? w path with
  | some 1 => if w.change.isNone then emitLine l m none line hasEnd w else emitLine l m (some 1) line hasEnd w
  | some n => emitLine l m (some n) line hasEnd w
  | none => return w

def nextOf (path : String) (w : Work) : Act (Option (List Char) × Work) := do
  let feed ← match w.feeds.lookup path with
    | some f => pure (some f)
    | none => do
      match ← Act.openAt 3 path .reading false with
      | .ok number => pure (some { descriptor := number, sign := m.sign : Feed })
      | .error _ => pure none
  match feed with
  | none => return (none, w)
  | some f => do
    match ← f.next with
    | .ok (line, f) =>
      return (line.map (·.1), { w with feeds := (path, f) :: w.feeds.filter (·.1 ≠ path) })
    | .error _ => return (none, w)

def goalOf (p : Program) (label : String) : Nat := (p.labels.lookup label).getD p.commands.size

def follow (p : Program) : Nat → Nat → Work → Act (Course × Work)
  | 0, _, w => return (.quit 4, w)
  | room + 1, index, w => do
    match p.commands[index]? with
    | none => do
      let w ← if p.isSilent then pure w else emitLine l m none w.space w.hasEnd w
      return (.cycle, w)
    | some c => do
      let (answer, w) ← chooses l m index c w
      match answer with
      | .error e => return (.broken e, w)
      | .ok chosen =>
        let chosen := chosen != c.isNegated
        let next := index + 1
        if !chosen then
          follow p room (match c.action with
            | .block finish => finish
            | _ => next) w
        else
          let newline := '\n'
          match c.action with
          | .block _ | .nothing => follow p room next w
          | .append text =>
            follow p room next (if text.isEmpty then w else
              { w with queue := w.queue ++ [.text (String.ofList text)] })
          | .insert text => do
            follow p room next (← emitWhole l m none (String.ofList text) w)
          | .change text => do
            let isInside := (w.active.any (·.1 = index)) && !c.isNegated
            let w ← if isInside then pure w else emitWhole l m none (String.ofList text) w
            return (.cycle, w)
          | .jump label => follow p room (goalOf p label) w
          | .jumpIf label =>
            if w.replaced then follow p room (goalOf p label) { w with replaced := false }
            else follow p room next w
          | .jumpUnless label =>
            if w.replaced then follow p room next { w with replaced := false }
            else follow p room (goalOf p label) w
          | .delete => return (.cycle, w)
          | .deleteLine =>
            match w.space.dropWhile (· ≠ newline) with
            | [] => return (.cycle, w)
            | _ :: rest => return (.again, { w with space := rest })
          | .print => do follow p room next (← emitLine l m none w.space w.hasEnd w)
          | .printLine => do
            follow p room next (← emitLine l m none (w.space.takeWhile (· ≠ newline)) true w)
          | .next => do
            let (last, w) ← isEnd l m w
            let w ← if p.isSilent then pure w else emitLine l m none w.space w.hasEnd w
            if last && (w.waiting.isEmpty || !m.separate) then return (.cycle, w)
            else
              let (found, w) ← advance l m false w
              if found then follow p room next w else return (.cycle, w)
          | .nextAppend => do
            let (last, w) ← isEnd l m w
            if last && (w.waiting.isEmpty || !m.separate) then
              let w ← if p.isSilent then pure w else emitLine l m none w.space w.hasEnd w
              return (.cycle, w)
            else
              let (found, w) ← advance l m true w
              if found then follow p room next w else return (.cycle, w)
          | .take => follow p room next { w with space := w.hold }
          | .takeAppend => follow p room next { w with space := w.space ++ newline :: w.hold }
          | .keep => follow p room next { w with hold := w.space }
          | .keepAppend => follow p room next { w with hold := w.hold ++ newline :: w.space }
          | .exchange => follow p room next { w with space := w.hold, hold := w.space }
          | .quit status => do
            let w ← if p.isSilent then pure w else emitLine l m none w.space w.hasEnd w
            let w ← flushQueue l m w
            return (.quit status, w)
          | .quitNow status => return (.quit status, w)
          | .number => do
            follow p room next (← emitWhole l m none (toString w.line ++ "\n") w)
          | .fileName => do follow p room next (← emitWhole l m none (w.name ++ "\n") w)
          | .show width => do
            let shown := plainForm newline (width.getD m.width) w.space
            follow p room next (← emitWhole l m none (String.ofList shown) w)
          | .readFile path => follow p room next { w with queue := w.queue ++ [.file path] }
          | .readLine path => do
            let (line, w) ← nextOf m path w
            follow p room next (match line with
              | some s => { w with queue := w.queue ++ [.text (String.ofList (s ++ ['\n']))] }
              | none => w)
          | .write path => do follow p room next (← emitTo l m path w.space true w)
          | .writeLine path => do
            follow p room next (← emitTo l m path (w.space.takeWhile (· ≠ newline)) true w)
          | .translate pairs =>
            follow p room next { w with space := w.space.map fun c => (pairs.lookup c).getD c }
          | .empty => follow p room next { w with space := [] }
          | .substitute s =>
            match s.fit.regex? w with
            | none => return (.broken noRegex, w)
            | some r => do
              let t := s.fit.subject w.space
              let (out, changed) := replacedWithin s r t (2 * t.text.size + 4) 0 1 true []
              let w := { w with latest := some r }
              if !changed then follow p room next w
              else do
                let w := { w with space := out, replaced := true }
                let w ← if s.prints then emitLine l m none w.space w.hasEnd w else pure w
                let w ← match s.goal with
                  | some path => emitTo l m path w.space true w
                  | none => pure w
                follow p room next w

def longestCycle : Nat := 1000000

def cycles (p : Program) : Nat → Bool → Work → Act Nat
  | 0, _, w => return w.status
  | room + 1, isAgain, w => do
    let (found, w) ← if isAgain then do
        let w ← flushQueue l m w
        pure (true, w)
      else advance l m false w
    if !found then
      let w ← settleChange l m w
      return w.status
    let (course, w) ← follow l m p longestCycle 0 { w with replaced := if isAgain then w.replaced else false }
    match course with
    | .cycle => do
      let w ← flushQueue l m w
      cycles p room false w
    | .again => cycles p room true w
    | .broken message => do
      complain l ("-e expression #1, char 0: " ++ message)
      return 1
    | .quit status => do
      match w.feed with
      | some f => f.giveBack
      | none => pure ()
      let w ← settleChange l m w
      return if status = 0 then w.status else status

end Converge.Tool.Sed
