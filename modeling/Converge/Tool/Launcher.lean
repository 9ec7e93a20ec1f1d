import Converge.Tool.Tree
import Converge.Tool.Words

set_option autoImplicit false
set_option maxRecDepth 2000

namespace Converge.Tool

open Converge.Process

def standardPath : String := "/bin:/usr/bin"

-- What starting a program comes to. A file without a mark of its own is taken for a program of the
-- shell.
def imageOf (v : View) (environment : List (String × String)) (name : String) (words : List String) :
    Except OsError Image :=
  let here := ((v.state.entry? v.self).map (·.directory)).getD []
  let searchPath := (environment.lookup "PATH").getD standardPath
  match Image.find v.state.files here searchPath name words with
  | .error .badFormat =>
    Image.load v.state.files here "/bin/sh"
      ((Image.locate v.state.files here searchPath name).getD name :: words)
  | r => r

def become (environment : List (String × String)) (name : String) (words : List String) : Act OsError := do
  match imageOf (← View.now) environment name words with
  | .ok image => Act.load ⟨image.name, image.tool, image.words, environment⟩
  | .error e => return e

def start (environment : List (String × String)) (name : String) (words : List String)
    (prepare : Act Unit) : Act (Except OsError Nat) := do
  match imageOf (← View.now) environment name words with
  | .error e => return .error e
  | .ok image => do
    let child ← Act.fork do
      prepare
      Act.load ⟨image.name, image.tool, image.words, environment⟩
    return .ok child

def refusalStatus (e : OsError) : Nat := if e = .notFound then 127 else 126

def becomeOr (l : Launch) (message : String → String) (name : String) (words : List String) : Act Nat := do
  let e ← become l.environment name words
  complain l (message name ++ ": " ++ e.reason)
  return refusalStatus e

def failedToRun (name : String) : String := "failed to run command " ++ quoted name

def withVariable (environment : List (String × String)) (name value : String) : List (String × String) :=
  if environment.any (·.1 == name) then
    environment.map fun v => if v.1 = name then (name, value) else v
  else environment ++ [(name, value)]

/-- What has been read of a word, and whether there is one. -/
structure Splitting where
  word : List Char := []
  isOpen : Bool := false
  words : List String := []

def Splitting.close (s : Splitting) : Splitting :=
  if s.isOpen then { words := String.ofList s.word.reverse :: s.words } else s

def Splitting.push (s : Splitting) (cs : List Char) : Splitting :=
  { s with word := cs.reverse ++ s.word, isOpen := true }

def splitText (environment : List (String × String)) :
    Nat → Option Char → List Char → Splitting → Except String Splitting
  | 0, _, _, s => .ok s
  | _, none, [], s => .ok s.close
  | _, some _, [], _ => .error "no terminating quote in -S string"
  | room + 1, quote, c :: rest, s =>
    let go (quote : Option Char) (rest : List Char) (s : Splitting) : Except String Splitting :=
      splitText environment room quote rest s
    match quote, c with
    | some '\'', '\'' => go none rest s
    | some '"', '"' => go none rest s
    | none, '\'' => go (some '\'') rest (s.push [])
    | none, '"' => go (some '"') rest (s.push [])
    | none, ' ' | none, '\t' | none, '\n' => go none rest s.close
    | none, '#' => if s.isOpen then go none rest (s.push ['#']) else .ok s.close
    | some '\'', '\\' =>
      match rest with
      | d :: more => go quote more (s.push (if d = '\'' || d = '\\' then [d] else ['\\', d]))
      | [] => .error "invalid backslash at end of string in -S"
    | _, '\\' =>
      match rest with
      | [] => .error "invalid backslash at end of string in -S"
      | d :: more =>
        match d with
        | '"' | '#' | '$' | '\'' | '\\' => go quote more (s.push [d])
        | '_' => if quote = none then go quote more s.close else go quote more (s.push [' '])
        | 'c' => if quote = none then .ok s.close else .error "'\\c' must not appear in double-quoted -S string"
        | 'f' => go quote more (s.push ['\x0c'])
        | 'n' => go quote more (s.push ['\n'])
        | 'r' => go quote more (s.push ['\x0d'])
        | 't' => go quote more (s.push ['\t'])
        | 'v' => go quote more (s.push ['\x0b'])
        | d => .error ("invalid sequence '\\" ++ String.singleton d ++ "' in -S")
    | _, '$' =>
      if quote = some '\'' then go quote rest (s.push ['$'])
      else
        let fault : Except String Splitting :=
          .error ("only $\x7bVARNAME\x7d expansion is supported, error at: " ++ String.ofList ('$' :: rest))
        match rest with
        | open_ :: more =>
          if open_ ≠ Char.ofNat 0x7B then fault
          else
            let name := more.takeWhile fun c => c.isAlphanum || c == '_'
            match more.drop name.length with
            | last :: more =>
              if last ≠ Char.ofNat 0x7D || name.isEmpty then fault
              else match environment.lookup (String.ofList name) with
                | some value => go quote more (s.push value.toList)
                | none => go quote more s
            | [] => fault
        | [] => fault
    | _, c => go quote rest (s.push [c])

def splitWord (environment : List (String × String)) (w : String) : Except String (List String) :=
  (splitText environment (w.length + 1) none w.toList {}).map (·.words.reverse)

def spreadWords (environment : List (String × String)) : Nat → List String → Except String (List String)
  | 0, ws => .ok ws
  | _, [] => .ok []
  | room + 1, w :: rest =>
    let spread (text : String) (rest : List String) : Except String (List String) :=
      match splitWord environment text with
      | .ok ws => spreadWords environment room (ws ++ rest)
      | .error m => .error m
    let after (n : Nat) : String := String.ofList (w.toList.drop n)
    if w = "-S" || w = "-vS" then
      match rest with
      | text :: rest => spread text rest
      | [] => .ok [w]
    else if w.startsWith "-S" then spread (after 2) rest
    else if w.startsWith "-vS" then spread (after 3) rest
    else if w.startsWith "--split-string=" then spread (after 15) rest
    else if ["-u", "-C", "--unset", "--chdir"].contains w then
      match rest with
      | argument :: rest => (spreadWords environment room rest).map fun ws => w :: argument :: ws
      | [] => .ok [w]
    else if w.startsWith "-" && w ≠ "--" && w ≠ "-" then
      (spreadWords environment room rest).map (w :: ·)
    else .ok (w :: rest)

def isAssigning (w : String) : Bool := w.toList.contains '='

def assignedPart (w : String) : String × String :=
  let name := w.toList.takeWhile (· ≠ '=')
  (String.ofList name, String.ofList (w.toList.drop (name.length + 1)))

def env : Program := fun l => do
  let refuse (m : String) (status : Nat) : Act Nat := do
    complain l m
    return status
  match spreadWords l.environment (8 * l.words.length + 64) l.words with
  | .error m => refuse m 125
  | .ok words =>
    match ({ letters := "iu:0C:v", long := [("ignore-environment", 'i'), ("unset", 'u'), ("null", '0'),
        ("chdir", 'C'), ("debug", 'v')], stopsEarly := true : Options }).parse
        (words.filter fun w => !(w.startsWith "--ignore-signal" || w.startsWith "--default-signal" ||
          w.startsWith "--block-signal")) with
    | .error m => do
      complain l m
      if m = "invalid option -- ' '" then complain l "use -[v]S to pass options in shebang lines"
      Act.complain ("Try '" ++ l.name ++ " --help' for more information.")
      return 125
    | .ok p => do
      let isEmpty := p.has 'i' || p.words.head? == some "-"
      let rest := if p.words.head? == some "-" then p.words.drop 1 else p.words
      let dropped := (p.options.filter (·.1 == 'u')).map (·.2)
      match dropped.find? fun name => name = "" || isAssigning name with
      | some bad => refuse ("cannot unset " ++ quoted bad ++ ": Invalid argument") 125
      | none => do
        let kept := if isEmpty then [] else l.environment.filter fun v => !dropped.contains v.1
        let assigned := rest.takeWhile isAssigning
        let environment := assigned.foldl (fun e w =>
          let (name, value) := assignedPart w
          withVariable e name value) kept
        match rest.drop assigned.length with
        | [] =>
          if p.has 'C' then do
            complain l "must specify command with --chdir (-C)"
            Act.complain ("Try '" ++ l.name ++ " --help' for more information.")
            return 125
          else
            let ends := if p.has '0' then "\x00" else "\n"
            put l (String.join (environment.map fun v => v.1 ++ "=" ++ v.2 ++ ends))
        | name :: words => do
          if p.has '0' then return ← misused l "cannot specify --null (-0) with command" 125
          let moved ← match p.value? 'C' with
            | none => pure (.ok ())
            | some path => Act.change fun self s => match s.lookUp self true path with
              | .ok (place, .directory _) => .ok (s.changeEntry self fun e => { e with directory := place })
              | .ok _ => .error .notDirectory
              | .error e => .error e
          match moved with
          | .error e =>
            refuse ("cannot change directory to " ++ quoted ((p.value? 'C').getD "") ++ ": " ++
              OsError.reason e) 125
          | .ok () => do
            if p.has 'v' then
              let all := name :: words
              Act.complain ("executing: " ++ name)
              let _ ← each (fun (k, w) => do
                Act.complain ("   arg[" ++ toString k ++ "]= " ++ quoted w)
                return 0) ((List.range all.length).zip all) 0
            let e ← become environment name words
            complain l (quoted name ++ ": " ++ e.reason)
            if e = .notFound && name.toList.any fun c => c == ' ' || ('\t' ≤ c && c ≤ '\r') then
              complain l "use -[v]S to pass options in shebang lines"
            return refusalStatus e

def descendants (s : State) : Nat → List Nat → List Nat
  | 0, all => all
  | room + 1, all =>
    let found := s.processes.filterMap fun p =>
      if all.contains p.2.parent && !all.contains p.1 && p.2.ending.isNone then some p.1 else none
    if found.isEmpty then all else descendants s room (all ++ found)

-- Sends a signal to a child, and to all that came from it unless they are to be left alone.
def signalTree (child signal : Nat) (alone : Bool) : Act Unit := Act.doing fun _ s =>
  let goals := if alone then [child] else descendants s s.processes.length [child]
  ((), goals.foldl (fun s process =>
    let s := s.send process signal
    if signal = Signal.kill || signal = Signal.continue_ then s else s.send process Signal.continue_) s)

def dieOf (signal : Nat) : Act Nat := do
  Act.changeEntry fun e => { e with
    caught := e.caught.filter (· ≠ signal), ignored := e.ignored.filter (· ≠ signal) }
  Act.doing fun self s => ((), s.send self signal)
  return 128 + signal

def passedOn : List Nat := [Signal.terminate, Signal.interrupt, Signal.hangup, Signal.quit]

structure Limit where
  child : Nat
  name : String
  signal : Nat
  killAfter : Option Nat
  alone : Bool
  keepsStatus : Bool
  verbose : Bool

-- Waits for the child; a time that comes to its end, or a signal, is passed on to it.
def overseen (l : Launch) (x : Limit) : Nat → Bool → Nat → Option Nat → Act Nat
  | 0, _, _, _ => return 125
  | room + 1, isOver, signal, until? => do
    Act.await (fun self s => (s.ending? x.child).isSome ||
      (s.entry? self).any fun e => !e.delivered.isEmpty) until?
    let ending ← Act.doing fun _ s => (s.ending? x.child, s)
    match ending with
    | some ending => do
      Act.doing fun _ s => ((), s.reap x.child)
      match ending with
      | .exited n => return if isOver && !x.keepsStatus then 124 else n
      | .killed n =>
        if !isOver then dieOf n
        else return if x.keepsStatus || n = Signal.kill then 128 + n else 124
    | none => do
      let sent ← Act.doing fun self s =>
        let sent := (s.entry? self).bind (·.delivered.head?)
        (sent, s.changeEntry self fun e => { e with delivered := e.delivered.drop 1 })
      let isDue := sent.isNone
      let given := sent.getD signal
      if x.verbose then
        complain l ("sending signal " ++ (Signal.name? given).getD (toString given) ++ " to command " ++
          quoted x.name)
      signalTree x.child given x.alone
      if given = Signal.kill && !x.alone then
        let _ ← dieOf Signal.kill
      let now ← Act.clock
      overseen l x room (isOver || isDue) (if x.killAfter.isSome then Signal.kill else given)
        (x.killAfter.map (now + ·))

def signal? (s : String) : Option Nat :=
  match number? s with
  | some n => if n ≤ Signal.last then some n else none
  | none =>
    let name := s.toUpper
    Signal.ofName? (if name.startsWith "SIG" then String.ofList (name.toList.drop 3) else name)

def timeout : Program := fun l =>
  withOptions { letters := "k:s:vfp", long := [("kill-after", 'k'), ("signal", 's'), ("verbose", 'v'),
    ("foreground", 'f'), ("preserve-status", 'p')], stopsEarly := true } 125 l fun p => do
    match p.words with
    | time :: name :: words =>
      let times := time :: (p.value? 'k').toList
      match times.find? fun t => (duration? t).isNone, (p.value? 's').map fun s => (s, signal? s) with
      | some bad, _ => misused l ("invalid time interval " ++ quoted bad) 125
      | none, some (s, none) => misused l (quoted s ++ ": invalid signal") 125
      | none, asked => do
        let signal := (asked.bind (·.2)).getD Signal.terminate
        Act.changeEntry fun e => { e with caught := passedOn }
        match ← start l.environment name words (pure ()) with
        | .error e => do
          complain l (failedToRun name ++ ": " ++ e.reason)
          return refusalStatus e
        | .ok child => do
          let now ← Act.clock
          let length := (duration? time).getD 0
          overseen l {
            child := child, name := name, signal := signal
            killAfter := (p.value? 'k').bind duration? |>.filter (0 < ·), alone := p.has 'f'
            keepsStatus := p.has 'p', verbose := p.has 'v' } 100 false signal
            (if length = 0 then none else some (now + length))
    | _ => do
      Act.complain ("Try '" ++ l.name ++ " --help' for more information.")
      return 125

def nohup : Program := fun l =>
  withOptions { letters := "", stopsEarly := true } 125 l fun p => do
    match p.words with
    | [] => misused l "missing operand" 125
    | name :: words => do
      Act.changeEntry fun e => { e with ignored := Signal.hangup :: e.ignored }
      becomeOr l failedToRun name words

def niceness : String := " nice"

def nice : Program := fun l => do
  let old (w : String) : Bool := match w.toList with
    | '-' :: c :: cs => (c :: cs).all Text.Decimal.isDigit || ((c == '-' || c == '+') && !cs.isEmpty && cs.all Text.Decimal.isDigit)
    | _ => false
  let words := match l.words with
    | w :: rest => if old w then "-n" :: String.ofList (w.toList.drop 1) :: rest else l.words
    | [] => []
  withOptions { letters := "n:", long := [("adjustment", 'n')], stopsEarly := true } 125
    { l with words := words } fun p => do
    let now := ((l.environment.lookup niceness).bind fun s => Shell.Arithmetic.integer? false s.toList).getD 0
    let asked := p.value? 'n'
    let by_ : Option Int := match asked with
      | some s => Shell.Arithmetic.integer? false (if s.startsWith "+" then s.toList.drop 1 else s.toList)
      | none => some 10
    match by_, p.words with
    | none, _ => do
      complain l ("invalid adjustment " ++ quoted (asked.getD ""))
      return 125
    | some _, [] =>
      if asked.isSome then misused l "a command must be given with an adjustment" 125
      else put l (toString now ++ "\n")
    | some n, name :: words =>
      let value := max (-20) (min 19 (now + n))
      becomeOr { l with environment := withVariable l.environment niceness (toString value) }
        quoted name words

def setsid : Program := fun l =>
  withOptions { letters := "cfw", long := [("ctty", 'c'), ("fork", 'f'), ("wait", 'w')], stopsEarly := true }
    1 l fun p => do
    match p.words with
    | [] => misused l "no command specified" 1
    | name :: words =>
      let message (name : String) : String := "failed to execute " ++ name
      if p.has 'f' then do
        match ← start l.environment name words (pure ()) with
        | .error e => do
          complain l (message name ++ ": " ++ e.reason)
          return 0
        | .ok _ => return 0
      else becomeOr l message name words

def stdbuf : Program := fun l =>
  withOptions { letters := "i:o:e:", long := [("input", 'i'), ("output", 'o'), ("error", 'e')]
                stopsEarly := true } 125 l fun p => do
    match p.words with
    | [] => misused l "missing operand" 125
    | name :: words =>
      if p.options.isEmpty then misused l "you must specify a buffering mode option" 125
      else becomeOr l failedToRun name words

structure Gathering where
  separator : Option Char := none
  mostWords : Option Nat := none
  mostLines : Option Nat := none
  place : Option String := none
  finish : Option String := none
  mostChars : Nat := 131072
  verbose : Bool := false
  skipsEmpty : Bool := false
  parallel : Nat := 1

/-- Words that were read, each with whether it ends a line; and what was wrong at the end. -/
structure Gathered where
  words : List (String × Bool) := []
  fault : Option String := none

-- Words with blanks between them. Quotes and backslashes keep blanks; a line that ends in a blank
-- goes on in the next one.
def gatherWords (byLines : Bool) : Nat → Option Char → List Char → Option (List Char) → List (String × Bool) →
    Gathered
  | 0, _, _, _, done => { words := done.reverse }
  | room + 1, quote, s, word, done =>
    let add (w : Option (List Char)) (ends : Bool) : List (String × Bool) := match w with
      | some cs => (String.ofList cs.reverse, ends) :: done
      | none => done
    let longer (c : Char) : Option (List Char) := some (c :: word.getD [])
    match s with
    | [] =>
      match quote with
      | some q =>
        { words := done.reverse
          fault := some ("unmatched " ++ (if q = '"' then "double" else "single") ++
            " quote; by default quotes are special to xargs unless you use the -0 option") }
      | none => { words := (add word true).reverse }
    | c :: rest =>
      match quote with
      | some q =>
        if c = q then gatherWords byLines room none rest (some (word.getD [])) done
        else if c = '\n' then gatherWords byLines room quote [] word done
        else gatherWords byLines room quote rest (longer c) done
      | none =>
        if c = '\'' || c = '"' then gatherWords byLines room (some c) rest (some (word.getD [])) done
        else if c = '\\' then
          match rest with
          | d :: rest => gatherWords byLines room none rest (longer d) done
          | [] => gatherWords byLines room none [] word done
        else if c = '\n' then
          gatherWords byLines room none rest none (add word true)
        else if (c = ' ' || c = '\t') && !byLines then gatherWords byLines room none rest none (add word false)
        else if (c = ' ' || c = '\t') && word.isNone then gatherWords byLines room none rest none done
        else gatherWords byLines room none rest (longer c) done

def separated (c : Char) (s : List Char) : List (String × Bool) :=
  let rec go : Nat → List Char → List (String × Bool)
    | 0, _ => []
    | room + 1, s =>
      let part := s.takeWhile (· ≠ c)
      match s.drop part.length with
      | [] => if part.isEmpty then [] else [(String.ofList part, true)]
      | _ :: rest => (String.ofList part, true) :: go room rest
  go (s.length + 1) s

def replaced (pattern text s : String) : String :=
  if pattern = "" then s else String.intercalate text (s.splitOn pattern)

def batches (g : Gathering) (fixedSize : Nat) (words : List (String × Bool)) : List (List String) :=
  let (done, current, _, _) := words.foldl (fun (done, current, lineCount, size) (w, ends) =>
    let size' := size + w.length + 1
    let isFull := !current.isEmpty && (g.mostChars < size' ||
      g.mostWords.any (current.length ≥ ·) || g.mostLines.any (lineCount ≥ ·))
    let lineCount := if isFull then 0 else lineCount
    let lineCount := if ends then lineCount + 1 else lineCount
    if isFull then (current.reverse :: done, [w], lineCount, fixedSize + w.length + 1)
    else (done, w :: current, lineCount, size'))
    (([] : List (List String)), ([] : List String), (0 : Nat), fixedSize)
  (if current.isEmpty then done else current.reverse :: done).reverse

-- What the end of a run means: the status from now on, and whether it is the last one.
def runEnded (l : Launch) (name : String) (ending : Ending) (status : Nat) : Act (Nat × Bool) := do
  match ending with
  | .exited 0 => return (status, false)
  | .exited 255 => do
    complain l (name ++ ": exited with status 255; aborting")
    return (124, true)
  | .exited _ => return (123, false)
  | .killed n => do
    complain l (name ++ ": terminated by signal " ++ toString n)
    return (125, true)

def awaitOne (l : Launch) (name : String) (running : List Nat) (status : Nat) :
    Act (List Nat × Nat × Bool) := do
  Act.await (fun _ s => running.any fun child => (s.ending? child).isSome) none
  let found ← Act.doing fun _ s =>
    match running.find? fun child => (s.ending? child).isSome with
    | some child => ((s.ending? child).map (child, ·), s.reap child)
    | none => (none, s)
  match found with
  | none => return ([], status, false)
  | some (child, ending) => do
    let (status, stops) ← runEnded l name ending status
    return (running.filter (· ≠ child), status, stops)

def awaitRest (l : Launch) (name : String) : Nat → List Nat → Nat → Act Nat
  | 0, _, status => return status
  | room + 1, running, status => do
    if running.isEmpty then return status
    let (running, status, _) ← awaitOne l name running status
    awaitRest l name room running status

def runBatches (l : Launch) (g : Gathering) (last : List String) :
    Nat → List (List String) → List Nat → Nat → Act Nat
  | 0, _, _, status => return status
  | room + 1, all, running, status => do
    match all with
    | [] => awaitRest l (last.headD "echo") (running.length + 1) running status
    | command :: rest =>
      let name := command.headD "echo"
      if g.parallel ≤ running.length then
        let (running, status, stops) ← awaitOne l name running status
        if stops then awaitRest l name (running.length + 1) running status
        else runBatches l g last room all running status
      else do
        if g.verbose then Act.complain (String.intercalate " " command)
        match ← start l.environment name (command.drop 1) (do
            let _ ← Act.openOnto 0 "/dev/null" .reading) with
        | .error e => do
          complain l (name ++ ": " ++ e.reason)
          return refusalStatus e
        | .ok child => runBatches l g command room rest (running ++ [child]) status

def gatherOptions (ws : List String) : List String :=
  ws.flatMap fun w =>
    if w = "-i" || w = "--replace" then ["-I\x7b\x7d"]
    else if w = "-l" || w = "--max-lines" then ["-L1"]
    else if w = "-e" || w = "--eof" then []
    else match w.toList with
      | '-' :: 'i' :: rest => ["-I" ++ String.ofList rest]
      | '-' :: 'l' :: rest => ["-L" ++ String.ofList rest]
      | '-' :: 'e' :: rest => ["-E" ++ String.ofList rest]
      | _ => [w]

def ownWords : Nat → List String → Nat
  | 0, _ => 0
  | _, [] => 0
  | room + 1, w :: rest =>
    if w = "--" then 1
    else if !w.startsWith "-" || w = "-" then 0
    else if ["-a", "-d", "-E", "-I", "-L", "-n", "-P", "-s"].contains w then
      2 + ownWords room (rest.drop 1)
    else 1 + ownWords room rest

def xargs : Program := fun l =>
  let own := ownWords (l.words.length + 1) l.words
  let words := gatherOptions (l.words.take own) ++ l.words.drop own
  withOptions { letters := "0a:d:E:I:L:n:P:prs:tx", long := [("null", '0'), ("arg-file", 'a'),
    ("delimiter", 'd'), ("replace", 'I'), ("max-lines", 'L'), ("max-args", 'n'), ("max-procs", 'P'),
    ("no-run-if-empty", 'r'), ("max-chars", 's'), ("verbose", 't'), ("exit", 'x'), ("interactive", 'p')]
                stopsEarly := true } 1 { l with words := words } fun p => do
    let numbers := p.options.filter fun o => ['L', 'n', 'P', 's'].contains o.1
    match numbers.find? fun o => (number? o.2).isNone with
    | some (c, s) =>
      misused l ("invalid number \"" ++ s ++ "\" for -" ++ String.singleton c ++ " option") 1
    | none =>
      match numbers.find? fun o => o.1 ≠ 'P' && number? o.2 = some 0 with
      | some (c, s) =>
        misused l ("value " ++ s ++ " for -" ++ String.singleton c ++ " option should be >= 1") 1
      | none => do
        let value (c : Char) : Option Nat := (p.value? c).bind number?
        let last := p.last? ['L', 'n', 'I']
        let separator := match p.last? ['0', 'd'], p.value? 'd' with
          | some 'd', some d => (Shell.Format.unescaped true d).1.head?
          | some _, _ => some (Char.ofNat 0)
          | none, _ => none
        let g : Gathering := {
          separator := separator
          mostWords := if last = some 'L' || last = some 'I' then none else value 'n'
          mostLines := if last = some 'L' then value 'L' else none
          place := if last = some 'I' then p.value? 'I' else
            if last = some 'n' && value 'n' = some 1 then p.value? 'I' else none
          finish := p.value? 'E'
          mostChars := (value 's').getD 131072
          verbose := p.has 't'
          skipsEmpty := p.has 'r'
          parallel := match value 'P' with
            | some 0 => 1000
            | some n => n
            | none => 1 }
        match ← content ((p.value? 'a').getD "-") with
        | .error e => do
          complain l (match p.value? 'a' with
            | some path => "Cannot open input file " ++ quoted path ++ ": " ++ e.reason
            | none => "-: " ++ e.reason)
          return 1
        | .ok octets => do
          let cs := (Text.Raw.ofOctets octets).toList
          let found : Gathered := match g.separator with
            | some c => { words := separated c cs }
            | none => gatherWords g.place.isSome (2 * cs.length + 2) none cs none []
          let words := match g.finish with
            | some f => found.words.takeWhile (·.1 ≠ f)
            | none => found.words
          let command := if p.words.isEmpty then ["echo"] else p.words
          let fixedSize := command.foldl (fun n w => n + w.length + 1) 0
          match found.fault with
          | some m => complain l m
          | none => pure ()
          let isTooLong (w : String × Bool) : Bool := g.mostChars < fixedSize + w.1.length + 1
          if words.any isTooLong then
            complain l "argument line too long"
            return 1
          let runs := match g.place with
            | some mark => words.map fun (w, _) => match command with
              | name :: rest => name :: rest.map (replaced mark w)
              | [] => []
            | none =>
              if words.isEmpty then if g.skipsEmpty || found.fault.isSome then [] else [command]
              else (batches g fixedSize words).map (command ++ ·)
          let status ← runBatches l g [] (2 * runs.length + 2) runs [] 0
          return if found.fault.isSome then 1 else status

end Converge.Tool
