import Converge.Path
import Converge.Shell.Source

set_option autoImplicit false
set_option maxRecDepth 2000

namespace Converge.Shell

inductive Quoting where
  | base
  | double
  | single
  | arithmetic
  -- A part of a condition in which patterns are written as they are.
  | pattern
  deriving DecidableEq

structure Level where
  quoting : Quoting
  isDouble : Bool := false
  innerDouble : Bool := false
  braces : Nat := 0
  doubleBraces : Nat := 0
  isPushed : Bool := false
  parens : Nat := 0

inductive FrameKind where
  | word
  | parameter (name : String) (index : Option Word) (operator : ParameterOperator) (orEmpty : Bool)
  -- The index of a parameter, which may be asked for its length.
  | index (name : String) (length : Bool) (indirect : Bool)
  | arithmetic

structure Frame where
  kind : FrameKind
  pieces : List Piece := []
  -- Characters that are no piece yet, the latest first.
  run : List Char := []
  isQuoted : Bool := false

namespace Frame

def flush (f : Frame) : Frame :=
  match f.run with
  | [] => f
  | run => { f with pieces := .text (String.ofList run.reverse) f.isQuoted :: f.pieces, run := [] }

def add (f : Frame) (c : Char) (isQuoted : Bool) : Frame :=
  if f.run.isEmpty then { f with run := [c], isQuoted := isQuoted }
  else if f.isQuoted = isQuoted then { f with run := c :: f.run }
  else { f.flush with run := [c], isQuoted := isQuoted }

def addPiece (f : Frame) (p : Piece) : Frame :=
  let f := f.flush
  { f with pieces := p :: f.pieces }

def word (f : Frame) : Word := f.flush.pieces.reverse

end Frame

def Word.splitAt (isEnd : Char → Bool) : Word → Word × Option Word
  | [] => ([], none)
  | .text s false :: rest =>
    let front := s.toList.takeWhile fun c => !isEnd c
    if front.length = s.length then
      let (first, second) := Word.splitAt isEnd rest
      (.text s false :: first, second)
    else
      ((if front.isEmpty then [] else [.text (String.ofList front) false]),
        some (.text (String.ofList (s.toList.drop (front.length + 1))) false :: rest))
  | p :: rest =>
    let (first, second) := Word.splitAt isEnd rest
    (p :: first, second)

structure WordState where
  level : Level
  outer : List Level := []
  frame : Frame := { kind := .word }
  frames : List Frame := []
  isQuoted : Bool := false
  document : Option Pending := none
  isLineStart : Bool := true
  isPlain : Bool := false

namespace WordState

def add (w : WordState) (c : Char) (isQuoted : Bool) : WordState :=
  { w with frame := w.frame.add c isQuoted }

def addHere (w : WordState) (c : Char) : WordState :=
  w.add c (w.level.quoting = .double || w.level.quoting = .single || w.document.isSome)

def addPiece (w : WordState) (p : Piece) : WordState := { w with frame := w.frame.addPiece p }

def addMark (w : WordState) : WordState := if w.document.isSome then w else w.addPiece .mark

def push (w : WordState) (l : Level) : WordState :=
  { w with level := l, outer := w.level :: w.outer }

def pop (w : WordState) : WordState :=
  match w.outer with
  | l :: outer => { w with level := l, outer := outer }
  | [] => w

def openFrame (w : WordState) (kind : FrameKind) : WordState :=
  { w with frame := { kind := kind }, frames := w.frame :: w.frames }

def operatorWords (operator : ParameterOperator) (w : Word) : List Word :=
  let parted (isEnd : Char → Bool) : List Word :=
    match Word.splitAt isEnd w with
    | (first, some second) => [first, second]
    | (first, none) => [first]
  match operator with
  | .slice => parted (· == ':')
  | .replace _ _ => parted (· == '/')
  | _ => [w]

def closeFrame (w : WordState) : WordState :=
  match w.frames with
  | [] => w
  | outer :: frames =>
    let inner := w.frame.word
    let piece : Piece := match w.frame.kind with
      | .parameter name index operator orEmpty =>
        .parameter name index operator orEmpty (operatorWords operator inner)
      | _ => .arithmetic inner
    { w with frame := outer.addPiece piece, frames := frames }

def closeBrace (w : WordState) : WordState :=
  let l := w.level
  if l.innerDouble || l.braces = 0 then w.addHere '\x7d'
  else
    let left := { l with braces := l.braces - 1 }
    let w := { w with level := left }
    let w :=
      if left.braces = 0 && l.isPushed then w.pop
      else { w with level := { left with doubleBraces := left.doubleBraces - 1 } }
    w.closeFrame

def toggle (w : WordState) : WordState :=
  let l := w.level
  let l := if 0 < l.braces then { l with innerDouble := !l.innerDouble } else l
  { w with level := l }.addMark

def openDouble (w : WordState) : WordState :=
  { w with level := { w.level with quoting := .double, isDouble := true } }.toggle

def openSingle (w : WordState) : WordState :=
  { w with level := { w.level with quoting := .single } }.addMark

def closeQuote (w : WordState) (c : Char) : WordState :=
  if w.document.isSome && w.level.braces = 0 then w.addHere c
  else
    let l := w.level
    let l := if l.doubleBraces = 0 then { l with quoting := .base, isDouble := false } else l
    let w := { w with level := l, isQuoted := true }
    if c = '"' then w.toggle else w.addMark

def openParameter (w : WordState) (name : String) (index : Option Word)
    (operator : ParameterOperator) (orEmpty : Bool) : WordState :=
  let isPattern := match operator with
    | .trimFront _ | .trimBack _ | .replace _ _ | .upper _ | .lower _ | .slice => true
    | _ => false
  let quoting := if isPattern then .base
    else if w.level.quoting = .arithmetic then .double else w.level.quoting
  let w :=
    if quoting ≠ w.level.quoting || w.level.innerDouble then
      w.push { quoting := quoting, isPushed := true, isDouble := quoting ≠ .base }
    else w
  let l := w.level
  let l := { l with
    braces := l.braces + 1
    doubleBraces := if l.isDouble then l.doubleBraces + 1 else l.doubleBraces }
  { w with level := l }.openFrame (.parameter name index operator orEmpty)

end WordState

-- Reads the commands inside a substitution up to its end; the truth value tells whether they end
-- with the text.
abbrev Inner := Bool → Read (Option Command)

namespace Read

def backquoted (line : Nat) (isDouble : Bool) : Nat → List Char → Read (List Char)
  | 0, done => return done.reverse
  | room + 1, done => do
    match ← joinedChar with
    | none => unterminated line backquote "EOF in backquote substitution"
    | some '\\' => do
      match ← char with
      | none => unterminated line backquote "EOF in backquote substitution"
      | some c =>
        if c = '\\' || c = backquote || c = '$' || (isDouble && c = '"') then
          backquoted line isDouble room (c :: done)
        else backquoted line isDouble room (c :: '\\' :: done)
    | some c => do
      if c = backquote then return done.reverse
      if c = '\n' then newLine
      backquoted line isDouble room (c :: done)

def oldSubstitution (inner : Inner) (w : WordState) : Read WordState := do
  let s ← get
  let text ← backquoted s.line w.level.isDouble (s.rest.length + 1) []
  let after ← get
  set { after with rest := text, again := none, pending := [] }
  let body ← inner true
  modify fun t => { t with
    rest := after.rest, line := after.line, again := after.again, pending := after.pending }
  return w.addPiece (.command body)

def substitution (inner : Inner) : Read (Option Command) := do
  let before ← get
  set { before with again := none, pending := [] }
  let body ← inner false
  modify fun t => { t with again := before.again, pending := before.pending }
  return body

def escapeOf : Char → Option Char
  | 'n' => some '\n'
  | 't' => some '\t'
  | 'r' => some '\r'
  | 'a' => some '\x07'
  | 'b' => some '\x08'
  | 'e' | 'E' => some '\x1b'
  | 'f' => some '\x0c'
  | 'v' => some '\x0b'
  | '\\' => some '\\'
  | '\'' => some '\''
  | '"' => some '"'
  | '?' => some '?'
  | _ => none

def hexValue (digits : List Char) : Nat :=
  digits.foldl (fun n c => n * 16 + (if isDigit c then c.toNat - 48
    else if c.toNat < 96 then c.toNat - 55 else c.toNat - 87)) 0

def isHexDigit (c : Char) : Bool :=
  isDigit c || ('a' ≤ c && c ≤ 'f') || ('A' ≤ c && c ≤ 'F')

def unescaped : Nat → List Char → List Char
  | 0, _ => []
  | _, [] => []
  | room + 1, '\\' :: 'x' :: s =>
    let digits := (s.take 2).takeWhile isHexDigit
    if digits.isEmpty then '\\' :: 'x' :: unescaped room s
    else Char.ofNat (hexValue digits) :: unescaped room (s.drop digits.length)
  | room + 1, '\\' :: 'u' :: s =>
    let digits := (s.take 4).takeWhile isHexDigit
    ((Text.Raw.ofText (String.singleton (Char.ofNat (hexValue digits)))).toList ++
      unescaped room (s.drop digits.length))
  | room + 1, '\\' :: c :: s =>
    let digits := ((c :: s).take 3).takeWhile fun d => '0' ≤ d && d ≤ '7'
    if !digits.isEmpty then
      Char.ofNat (digits.foldl (fun n d => n * 8 + (d.toNat - 48)) 0 % 256) ::
        unescaped room ((c :: s).drop digits.length)
    else
      match escapeOf c with
      | some d => d :: unescaped room s
      | none => '\\' :: c :: unescaped room s
  | room + 1, c :: s => c :: unescaped room s

def escapedText (line : Nat) : Nat → List Char → Read (List Char)
  | 0, done => return done.reverse
  | room + 1, done => do
    match ← char with
    | none => unterminated line '\'' "Unterminated quoted string"
    | some '\'' => return done.reverse
    | some '\\' => do
      match ← char with
      | some c => escapedText line room (c :: '\\' :: done)
      | none => unterminated line '\'' "Unterminated quoted string"
    | some c => do
      if c = '\n' then newLine
      escapedText line room (c :: done)

def charsWhile (test : Char → Bool) : Nat → List Char → Read (List Char)
  | 0, done => return done.reverse
  | room + 1, done => do
    match ← joinedChar with
    | some c =>
      if test c then charsWhile test room (c :: done)
      else
        putBack (some c)
        return done.reverse
    | none => return done.reverse

def charsOf (test : Char → Bool) : Read (List Char) := do
  charsWhile test ((← get).rest.length + 1) []

def operatorAfter (w : WordState) (name : String) (index : Option Word) : Read WordState := do
  let extended ← isExtended
  let simple : WordState := w.addPiece (.parameter name index .value false [])
  let opened (operator : ParameterOperator) (orEmpty : Bool) : WordState :=
    w.openParameter name index operator orEmpty
  let doubled (c : Char) : Read Bool := do
    let next ← joinedChar
    if next = some c then return true
    putBack next
    return false
  let wordOperator (c : Option Char) : Option ParameterOperator :=
    match c with
    | some '-' => some .default_
    | some '+' => some .alternate
    | some '?' => some .require
    | some '=' => some .assign
    | _ => none
  let c ← joinedChar
  match c with
  | some '\x7d' => return simple
  | some ':' => do
    let next ← joinedChar
    match wordOperator next with
    | some operator => return opened operator true
    | none =>
      putBack next
      if extended && next ≠ some '\x7d' then return opened .slice false
      -- A colon alone changes nothing that can be told apart from a bad operator.
      putBack c
      return opened .bad false
  | some '#' => return opened (.trimFront (← doubled '#')) false
  | some '%' => return opened (.trimBack (← doubled '%')) false
  | _ =>
    match wordOperator c with
    | some operator => return opened operator false
    | none =>
      if extended then
        match c with
        | some '/' => do
          let everywhere ← doubled '/'
          let anchor ← if everywhere then pure ' ' else do
            match ← joinedChar with
            | some '#' => pure '#'
            | some '%' => pure '%'
            | next => do putBack next; pure ' '
          return opened (.replace everywhere anchor) false
        | some '^' => return opened (.upper (← doubled '^')) false
        | some ',' => return opened (.lower (← doubled ',')) false
        | some '@' => do
          if (← doubled 'Q') then return opened .quoted false
          putBack c
          return opened .bad false
        | _ =>
          putBack c
          return opened .bad false
      else
        putBack c
        return opened .bad false

-- What follows the name of a parameter that is asked for its length, or that names another.
def closedAfter (w : WordState) (name : String) (index : Option Word)
    (operator : ParameterOperator) : Read WordState := do
  let c ← joinedChar
  putBack c
  if c = some '\x7d' then return w.openParameter name index operator false
  return w.openParameter name index .bad false

def braced (w : WordState) : Read WordState := do
  let extended ← isExtended
  let bad : Read WordState := do return w.openParameter "" none .bad false
  let named (name : List Char) (length indirect : Bool) : Read WordState := do
    let text := String.ofList name
    let next ← joinedChar
    if extended && next = some '[' then
      return (w.push { quoting := .base, isPushed := true }).openFrame (.index text length indirect)
    putBack next
    if length then closedAfter w text none .length
    else if indirect then
      match next with
      | some '*' | some '@' => do
        let sign ← joinedChar
        if (← peek) = some '\x7d' then return w.openParameter text none .names false
        putBack sign
        closedAfter w text none .bad
      | some '\x7d' => return w.openParameter text none .indirect false
      | _ => return w.openParameter text none .bad false
    else operatorAfter w text none
  let c ← joinedChar
  match c with
  | none =>
    return w.openParameter "" none .bad false
  | some c =>
    if isNameStart c then
      putBack (some c)
      named (← charsOf isNameChar) false false
    else if isDigit c then
      putBack (some c)
      named (← charsOf isDigit) false false
    else if c = '#' then
      let next ← joinedChar
      match next with
      | some d =>
        if isNameStart d then
          putBack next
          named (← charsOf isNameChar) true false
        else if isDigit d then
          putBack next
          named (← charsOf isDigit) true false
        else
          let after ← joinedChar
          putBack after
          if isSpecial d && after = some '\x7d' then
            closedAfter w (String.singleton d) none .length
          else
            putBack next
            operatorAfter w "#" none
      | none => operatorAfter w "#" none
    else if c = '!' && extended then
      let next ← joinedChar
      putBack next
      match next with
      | some d =>
        if isNameStart d then named (← charsOf isNameChar) false true
        else operatorAfter w "!" none
      | none => operatorAfter w "!" none
    else if isSpecial c then operatorAfter w (String.singleton c) none
    else
      putBack (some c)
      bad

def dollar (inner : Inner) (w : WordState) : Read WordState := do
  let extended ← isExtended
  let itself : Read WordState := do return w.addHere '$'
  let c ← joinedChar
  match c with
  | none => itself
  | some d =>
    if w.isPlain then
      putBack c
      itself
    else if d = '(' then
      let next ← joinedChar
      if next = some '(' then
        return (w.push { quoting := .arithmetic, isDouble := true }).openFrame .arithmetic
      else
        putBack next
        return w.addPiece (.command (← substitution inner))
    else if d = '\x7b' then braced w
    else if isNameStart d then
      putBack c
      let name ← charsOf isNameChar
      return w.addPiece (.parameter (String.ofList name) none .value false [])
    else if isDigit d || isSpecial d then
      return w.addPiece (.parameter (String.singleton d) none .value false [])
    else if extended && d = '\'' && w.level.quoting = .base then
      let text ← escapedText (← get).line ((← get).rest.length + 1) []
      return ({ w with isQuoted := true }.addMark.addPiece
        (.text (String.ofList (unescaped (text.length + 1) text)) true)).addMark
    else if extended && d = '"' && w.level.quoting = .base then
      putBack c
      return w
    else
      putBack c
      itself

def backslash (w : WordState) : Read WordState := do
  match ← char with
  | none => return w.add '\\' true
  | some c =>
    let l := w.level
    let isSpecialHere := c = '\\' || c = backquote || c = '$' ||
      (c = '"' && !(w.document.isSome && l.braces = 0)) || (c = '\x7d' && 0 < l.braces)
    if c = '\n' then newLine
    let w := if l.isDouble && !isSpecialHere then w.add '\\' true else w
    return { w.add c true with isQuoted := true }

def closeIndex (w : WordState) (name : String) (length indirect : Bool) : Read WordState := do
  let index := w.frame.word
  let w := match w.frames with
    | outer :: frames => { w with frame := outer, frames := frames }
    | [] => w
  let w := w.pop
  if length then closedAfter w name (some index) .length
  else if indirect then closedAfter w name (some index) .keys
  else operatorAfter w name (some index)

def closeParen (w : WordState) : Read (WordState × Bool) := do
  let l := w.level
  if 0 < l.parens then
    return ({ w with level := { l with parens := l.parens - 1 } }.addHere ')', false)
  else
    let next ← joinedChar
    if next = some ')' then
      if w.frames.isEmpty then return (w, true)
      return (w.pop.closeFrame, false)
    else
      putBack next
      return (w.addHere ')', false)

def opensGroup (w : WordState) : Read Bool := do
  if 0 < w.level.parens then return true
  return (← get).hasGroups && match w.frame.run with
    | c :: _ => !w.frame.isQuoted && "?*+@!".toList.contains c
    | [] => false

def isBreak (c : Char) : Bool :=
  c == ' ' || c == '\t' || c == '(' || c == ')' || c == ';' || c == '&' || c == '|' || c == '<' ||
    c == '>'

def step (inner : Inner) (w : WordState) (c : Char) : Read (WordState × Bool) := do
  let l := w.level
  let going (w : WordState) : Read (WordState × Bool) := do return (w, false)
  let ended : Read (WordState × Bool) := do
    putBack (some c)
    return (w, true)
  let inLine : Read (WordState × Bool) := do
    newLine
    return ({ w.addHere c with isLineStart := true }, false)
  if c = '\n' then
    if (l.quoting = .base || l.quoting = .pattern) && l.braces = 0 && l.parens = 0 then ended
    else inLine
  else if l.quoting = .single then
    if c = '\'' then going (w.closeQuote c) else going (w.addHere c)
  else if c = '\\' then going (← backslash w)
  else if c = '$' then going (← dollar inner w)
  else if c = backquote then
    if w.isPlain then going (w.addHere c) else going (← oldSubstitution inner w)
  else if c = '\x7d' then going w.closeBrace
  else
    match l.quoting with
    | .double => if c = '"' then going (w.closeQuote c) else going (w.addHere c)
    | .arithmetic =>
      if c = '(' then going ({ w with level := { l with parens := l.parens + 1 } }.addHere c)
      else if c = ')' then closeParen w
      else going (w.addHere c)
    | .pattern =>
      if c = '\'' then going w.openSingle
      else if c = '"' then going w.openDouble
      else if c = '(' then going ({ w with level := { l with parens := l.parens + 1 } }.addHere c)
      else if c = ')' && 0 < l.parens then
        going ({ w with level := { l with parens := l.parens - 1 } }.addHere c)
      else if (c = ' ' || c = '\t' || c = ')') && l.parens = 0 then ended
      else going (w.addHere c)
    | _ =>
      if c = '\'' then going w.openSingle
      else if c = '"' then going w.openDouble
      else
        match w.frame.kind with
        | .index name length indirect =>
          if c = ']' && l.braces = 0 then going (← closeIndex w name length indirect)
          else going (w.addHere c)
        | _ =>
          let isGroup ← if c = '(' && l.braces = 0 then opensGroup w else pure (0 < l.parens)
          if isGroup && isBreak c then
            let parens := if c = '(' then l.parens + 1 else if c = ')' then l.parens - 1 else l.parens
            going ({ w with level := { l with parens := parens } }.addHere c)
          else if isBreak c && l.braces = 0 then
            if (c = '<' || c = '>') && (← isExtended) && (← peek) = some '(' then
              let _ ← joinedChar
              going (w.addPiece (.process (← substitution inner) (c = '<')))
            else ended
          else going (w.addHere c)

-- Is the line that begins here the end of a text inside the program? Then it is passed over.
def atEnding (p : Pending) : Read Bool := do
  let s ← get
  let tabs := if p.stripsTabs then (s.rest.takeWhile (· == '\t')).length else 0
  let rest := s.rest.drop tabs
  let after := rest.drop p.ending.length
  if p.ending.isPrefixOf rest && (after.isEmpty || after.head? == some '\n') then
    set { s with rest := after.drop 1, line := if after.isEmpty then s.line else s.line + 1 }
    return true
  else
    set { s with rest := rest }
    return false

def wordLoop (inner : Inner) : Nat → WordState → Read (WordState × Bool)
  | 0, w => return (w, false)
  | room + 1, w => do
    let ends ← match w.document, w.isLineStart with
      | some p, true => atEnding p
      | _, _ => pure false
    if ends then return (w, true)
    let w := { w with isLineStart := false }
    match ← (if w.level.quoting = .single then char else joinedChar) with
    | none => return (w, false)
    | some c =>
      let (w, isDone) ← step inner w c
      if isDone then return (w, true) else wordLoop inner room w

def closed (line : Nat) (w : WordState) : Read Unit := do
  match w.level.quoting, w.document with
  | .arithmetic, _ => unterminated line ')' "Missing '))'"
  | .base, _ | .pattern, _ =>
    if 0 < w.level.parens then unterminated line ')' ""
  | .single, none => unterminated line '\'' "Unterminated quoted string"
  | _, none => unterminated line '"' "Unterminated quoted string"
  | _, _ => pure ()
  if w.level.braces ≠ 0 || !w.frames.isEmpty then unterminated line '\x7d' "Missing '\x7d'"

def room : Read Nat := do return (← get).rest.length + 2

def word (inner : Inner) (isPlain : Bool) (quoting : Quoting) : Read (Word × Bool) := do
  let line := (← get).line
  let (w, _) ← wordLoop inner (← room) { level := { quoting := quoting }, isPlain := isPlain }
  closed line w
  return (w.frame.word, w.isQuoted)

def expression (inner : Inner) : Read Word := do
  let line := (← get).line
  let (w, isClosed) ← wordLoop inner (← room) { level := { quoting := .arithmetic, isDouble := true } }
  if !isClosed then unterminated line ')' "Missing '))'"
  return w.frame.word

def document (inner : Inner) (p : Pending) : Read Word := do
  let quoting : Quoting := if p.isLiteral then .single else .double
  let (w, isEnded) ← wordLoop inner (← room) {
    level := { quoting := quoting, isDouble := !p.isLiteral }, document := some p }
  closed p.line w
  if !isEnded then modify fun s => { s with unended := s.unended ++ [(s.line - 1, p)] }
  return w.frame.word

def documents (inner : Inner) : Read Unit := do
  let pending := (← get).pending
  modify fun s => { s with pending := [] }
  for p in pending do
    let text ← document inner p
    modify fun s => { s with documents := (p.number, text) :: s.documents }

end Read

end Converge.Shell
