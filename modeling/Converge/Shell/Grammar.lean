import Converge.Shell.Word

set_option autoImplicit false
set_option maxRecDepth 2000

namespace Converge.Shell

inductive ListKind where
  | line
  | body
  | inner
  deriving DecidableEq

structure Grammar where
  list : ListKind → Read (Option Command)
  command : Read Command
  inner : Inner

namespace Read

def plainKeywords : List String :=
  ["!", "case", "do", "done", "elif", "else", "esac", "fi", "for", "if", "in", "then", "until",
    "while", "\x7b", "\x7d"]

def extendedKeywords : List String := "[[" :: "function" :: "time" :: plainKeywords

def isListEnd : Token → Bool
  | .endOfFile | .operator ")" | .operator ";;" | .operator ";&" | .operator ";;&" => true
  | .keyword s =>
    ["do", "done", "elif", "else", "esac", "fi", "then", "\x7d"].contains s
  | _ => false

def blanks : Nat → Read Unit
  | 0 => return ()
  | room + 1 => do
    match ← joinedChar with
    | some ' ' | some '\t' => blanks room
    | some '#' => do
      modify fun s => { s with rest := s.rest.dropWhile fun c => c ≠ '\n' && c ≠ aliasEnd }
      blanks room
    | c => putBack c

def next? (c : Char) : Read Bool := do
  let d ← joinedChar
  if d = some c then return true
  putBack d
  return false

def redirectSign (c : Char) : Read String := do
  let extended ← isExtended
  if c = '>' then
    if ← next? '>' then return ">>"
    if ← next? '|' then return ">|"
    if ← next? '&' then return ">&"
    return ">"
  else
    if ← next? '<' then
      if extended then
        if ← next? '<' then return "<<<"
      if ← next? '-' then return "<<-"
      return "<<"
    if ← next? '&' then return "<&"
    if ← next? '>' then return "<>"
    return "<"

def wordToken (inner : Inner) (isPlain : Bool) (quoting : Quoting) : Read Token := do
  let before := (← get).rest
  let (w, isQuoted) ← word inner isPlain quoting
  let after := (← get).rest
  modify fun s => { s with written := before.take (before.length - after.length) }
  let digits := (Word.bare? w).map String.toList
  let next ← joinedChar
  let isSign := next = some '<' || next = some '>'
  match digits, next with
  | some ds, some c =>
    let isNumber := ds.length ≤ 1 || (← isExtended)
    if isSign && !isQuoted && isNumber && ds.all isDigit && quoting = .base then
      let sign ← redirectSign c
      let standard := if c = '<' then 0 else 1
      return .redirect (if ds.isEmpty then standard else Text.Decimal.value ds) sign
    else
      putBack next
      return .word w isQuoted
  | _, _ =>
    putBack next
    return .word w isQuoted

def bareToken (inner : Inner) (isPlain : Bool) : Read Token := do
  blanks (← room)
  let extended ← isExtended
  match ← joinedChar with
  | none => return .endOfFile
  | some '\n' => do
    newLine
    return .operator "\n"
  | some '&' => do
    if ← next? '&' then return .operator "&&"
    if extended then
      if ← next? '>' then
        return .redirect 1 (if ← next? '>' then "&>>" else "&>")
    return .operator "&"
  | some '|' => do
    if ← next? '|' then return .operator "||"
    if extended then
      if ← next? '&' then return .operator "|&"
    return .operator "|"
  | some ';' => do
    if ← next? ';' then
      if extended then
        if ← next? '&' then return .operator ";;&"
      return .operator ";;"
    if extended then
      if ← next? '&' then return .operator ";&"
    return .operator ";"
  | some '(' => return .operator "("
  | some ')' => return .operator ")"
  | c => do
    putBack c
    wordToken inner isPlain .base

-- The next token without regard to what it may be taken for, or the last one again.
def rawToken (inner : Inner) (isPlain : Bool) : Read Token := do
  match (← get).again with
  | some t =>
    modify fun s => { s with again := none }
    return t
  | none =>
    let t ← bareToken inner isPlain
    modify fun s => { s with last := t }
    return t

def pushToken : Read Unit := modify fun s => { s with again := some s.last }

def afterLines (inner : Inner) : Nat → Token → Read Token
  | 0, t => return t
  | room + 1, t =>
    match t with
    | .operator "\n" => do
      documents inner
      afterLines inner room (← rawToken inner false)
    | t => return t

def tokenWithin (inner : Inner) : Nat → Expecting → Read Token
  | 0, _ => return .endOfFile
  | steps + 1, e => do
    let first ← rawToken inner e.ending
    let t ← if e.newlines then afterLines inner (← room) first else pure first
    let s ← get
    set { s with aliasNext := false }
    let aliases := e.aliases || s.aliasNext
    match t with
    | .word w false =>
      match Word.bare? w with
      | none => return t
      | some text =>
        let keywords := if s.dialect = .extended then extendedKeywords else plainKeywords
        if e.keywords && keywords.contains text then
          modify fun s => { s with last := .keyword text }
          return .keyword text
        else if aliases && !(s.running.any fun r => r.1 == text) then
          match s.aliases.lookup text with
          | some value =>
            let cs := value.toList
            let endsInBlank := cs.getLast?.any fun c => c == ' ' || c == '\t'
            modify fun s => { s with
              rest := cs ++ aliasEnd :: s.rest
              running := (text, endsInBlank) :: s.running }
            tokenWithin inner steps { e with aliases := aliases }
          | none => return t
        else return t
    | t => return t

def token (inner : Inner) (e : Expecting) : Read Token := do
  tokenWithin inner ((← room) + (← get).aliases.length) e

def starting : Expecting := { keywords := true, aliases := true }

def startingAfterLines : Expecting := { keywords := true, aliases := true, newlines := true }

def expectOperator (inner : Inner) (s : String) : Read Unit := do
  match ← token inner {} with
  | .operator t => if s ≠ t then unexpected (some ("\"" ++ s ++ "\""))
  | _ => unexpected (some ("\"" ++ s ++ "\""))

def expectKeyword (inner : Inner) (e : Expecting) (s : String) : Read Unit := do
  match ← token inner e with
  | .keyword t => if s ≠ t then unexpected (some ("\"" ++ s ++ "\""))
  | _ => unexpected (some ("\"" ++ s ++ "\""))

def Word.plainText : Word → String
  | [] => ""
  | .text s _ :: rest => s ++ Word.plainText rest
  | .parameter name _ _ _ _ :: rest => "$" ++ name ++ Word.plainText rest
  | _ :: rest => Word.plainText rest

def redirectAfter (inner : Inner) (descriptor : Nat) (sign : String) : Read Redirect := do
  let isDocument := sign = "<<" || sign = "<<-"
  match ← token inner { ending := isDocument } with
  | .word w isQuoted =>
    if isDocument then
      let s ← get
      let pending : Pending := {
        number := s.nextDocument, line := s.line, ending := (Word.plainText w).toList
        stripsTabs := sign = "<<-", isLiteral := isQuoted }
      set { s with nextDocument := s.nextDocument + 1, pending := s.pending ++ [pending] }
      return .mk descriptor (.document s.nextDocument) []
    else
      let kind : RedirectKind := match sign with
        | "<" => .input
        | ">" => .output
        | ">>" => .append
        | ">|" => .clobber
        | "<>" => .both
        | "<&" => .duplicateInput
        | ">&" => .duplicateOutput
        | "<<<" => .text
        | "&>" => .outputs false
        | _ => .outputs true
      return .mk descriptor kind w
  | _ => unexpected none

def redirects (inner : Inner) : Nat → List Redirect → Read (List Redirect)
  | 0, done => return done.reverse
  | room + 1, done => do
    match ← token inner starting with
    | .redirect descriptor sign => do
      let r ← redirectAfter inner descriptor sign
      redirects inner room (r :: done)
    | _ => do
      pushToken
      return done.reverse

-- The front of an assignment: its name, whether it adds, and what is left of the word.
def assignment? (extended : Bool) : Word → Option (String × Option Word × Bool × Word)
  | .text s false :: rest =>
    let cs := s.toList
    let name := cs.takeWhile isNameChar
    if !isName name then none
    else
      match cs.drop name.length with
      | '=' :: value => some (String.ofList name, none, false, .text (String.ofList value) false :: rest)
      | '+' :: '=' :: value =>
        if extended then
          some (String.ofList name, none, true, .text (String.ofList value) false :: rest)
        else none
      | '[' :: inside =>
        if !extended then none
        else
          match Word.splitAt (· == ']') (.text (String.ofList inside) false :: rest) with
          | (index, some (.text after false :: rest)) =>
            match after.toList with
            | '=' :: value =>
              some (String.ofList name, some index, false, .text (String.ofList value) false :: rest)
            | '+' :: '=' :: value =>
              some (String.ofList name, some index, true, .text (String.ofList value) false :: rest)
            | _ => none
          | _ => none
      | _ => none
  | _ => none

def elements (inner : Inner) (line : Nat) : Nat → List Word → Read (List Word)
  | 0, done => return done.reverse
  | room + 1, done => do
    match ← token inner { newlines := true } with
    | .word w _ => elements inner line room (w :: done)
    | .operator ")" => return done.reverse
    | .endOfFile => unterminated line ')' ""
    | _ => unexpected none

-- A word that ends in an open assignment may go on with the elements of an array.
def withElements (inner : Inner) (w : Word) : Read Word := do
  let isOpen := match assignment? true w with
    | some (_, _, _, value) => value.all fun p => match p with
      | .text "" _ => true
      | _ => false
    | none => false
  if !isOpen then return w
  match (← get).rest with
  | '(' :: rest =>
    modify fun s => { s with rest := rest }
    return w ++ [.array (← elements inner (← get).line (← room) [])]
  | _ => return w

def specialNames : List String :=
  [".", ":", "break", "continue", "eval", "exec", "exit", "export", "readonly", "return", "set",
    "shift", "times", "trap", "unset"]

/-- The parts of a simple command, the latest first. -/
structure Simple where
  assignments : List Assignment := []
  words : List Word := []
  redirects : List Redirect := []

def Simple.command (line : Nat) (s : Simple) : Command :=
  .simple line s.assignments.reverse s.words.reverse s.redirects.reverse

-- The body of a function whose name has just been read. In the extended language it is no simple
-- command.
def functionBody (g : Grammar) (name : String) : Read Command := do
  let line := (← get).line
  let t ← token g.inner startingAfterLines
  if ← isExtended then
    match t with
    | .word _ _ | .redirect _ _ | .endOfFile => unexpected none
    | _ => pure ()
  pushToken
  return .function line name (← g.command)

def simpleWithin (g : Grammar) (line : Nat) : Nat → Simple → Read Command
  | 0, s => return s.command line
  | steps + 1, s => do
    let extended ← isExtended
    let isFront := s.words.isEmpty
    match ← token g.inner { aliases := isFront && !extended } with
    | .word w _ => do
      let w ← if extended then withElements g.inner w else pure w
      match if isFront then assignment? extended w else none with
      | some (name, index, appends, value) =>
        simpleWithin g line steps
          { s with assignments := .mk name index appends value :: s.assignments }
      | none => simpleWithin g line steps { s with words := w :: s.words }
    | .redirect descriptor sign => do
      let r ← redirectAfter g.inner descriptor sign
      simpleWithin g line steps { s with redirects := r :: s.redirects }
    | .operator "(" =>
      match s.words, s.assignments.isEmpty && s.redirects.isEmpty with
      | [w], true => do
        expectOperator g.inner ")"
        let name := (Word.bare? w).getD ""
        if !extended && (!isName name.toList || specialNames.contains name) then
          fail "Bad function name"
        functionBody g name
      | _, _ => do
        pushToken
        return s.command line
    | _ => do
      pushToken
      return s.command line

def loopWords (g : Grammar) : Nat → List Word → Read (List Word)
  | 0, done => return done.reverse
  | steps + 1, done => do
    match ← token g.inner {} with
    | .word w _ => loopWords g steps (w :: done)
    | .operator "\n" => do
      -- The end of the line is all that is needed.
      documents g.inner
      return done.reverse
    | .operator ";" => return done.reverse
    | _ => unexpected none

def required (g : Grammar) : Read Command := do
  match ← g.list .body with
  | some c => return c
  | none => unexpected none

def loopBody (g : Grammar) (e : Expecting) : Read Command := do
  expectKeyword g.inner e "do"
  let body ← required g
  expectKeyword g.inner {} "done"
  return body

def elseParts (g : Grammar) : Nat → Read (Option Command)
  | 0 => return none
  | steps + 1 => do
    match ← token g.inner {} with
    | .keyword "elif" => do
      let test ← required g
      expectKeyword g.inner {} "then"
      let consequent ← required g
      return some (.conditional test consequent (← elseParts g steps))
    | .keyword "else" => return some (← required g)
    | _ => do
      pushToken
      return none

def armPattern : Token → Word
  | .word w _ => w
  | .keyword s | .operator s => [.text s false]
  | _ => []

def armPatterns (g : Grammar) : Nat → List Word → Read (List Word)
  | 0, done => return done.reverse
  | steps + 1, done => do
    match ← token g.inner {} with
    | .operator "|" => do
      let t ← token g.inner {}
      armPatterns g steps (armPattern t :: done)
    | .operator ")" => return done.reverse
    | _ => unexpected (some "\")\"")

def arms (g : Grammar) : Nat → List Arm → Read (List Arm)
  | 0, done => return done.reverse
  | steps + 1, done => do
    let t ← token g.inner { keywords := true, newlines := true }
    match t with
    | .keyword "esac" => return done.reverse
    | t => do
      let first ← match t with
        | .operator "(" => token g.inner {}
        | t => pure t
      match first with
      | .endOfFile | .operator "\n" => do
        if !(← isExtended) then
          let _ ← token g.inner {}
        unexpected (some "\")\"")
      | _ => pure ()
      let patterns ← armPatterns g steps [armPattern first]
      let body ← g.list .inner
      match ← token g.inner { keywords := true, newlines := true } with
      | .keyword "esac" => return (Arm.mk patterns body ";;" :: done).reverse
      | .operator ";;" => arms g steps (Arm.mk patterns body ";;" :: done)
      | .operator ";&" => arms g steps (Arm.mk patterns body ";&" :: done)
      | .operator ";;&" => arms g steps (Arm.mk patterns body ";;&" :: done)
      | _ => unexpected (some "\";;\"")

def loopExpressions (w : Word) : Word × Word × Word :=
  let (first, rest) := Word.splitAt (· == ';') w
  let (second, third) := Word.splitAt (· == ';') (rest.getD [])
  (first, second, third.getD [])

def startsExpression : Read Bool := do
  blanks (← room)
  return (← get).rest.take 2 = ['(', '(']

def loopName (g : Grammar) : Read String := do
  match ← isExtended, ← token g.inner {} with
  | true, .word w _ => return Word.plainText w
  | true, _ => unexpected none
  | false, .word w false =>
    let name := (Word.bare? w).getD ""
    if isName name.toList then return name else fail "Bad for loop variable"
  | false, _ => fail "Bad for loop variable"

def eachLoop (g : Grammar) (line : Nat) : Read Command := do
  if (← isExtended) && (← startsExpression) then
    modify fun s => { s with rest := s.rest.drop 2 }
    let (start, test, next) := loopExpressions (← expression g.inner)
    match ← token g.inner startingAfterLines with
    | .operator ";" => pure ()
    | _ => pushToken
    match ← token g.inner startingAfterLines with
    | .keyword "\x7b" => do
      let body ← required g
      expectKeyword g.inner {} "\x7d"
      return .arithmeticLoop line start test next body
    | _ => do
      pushToken
      return .arithmeticLoop line start test next (← loopBody g {})
  else
    let name ← loopName g
    let words ← match ← token g.inner startingAfterLines with
      | .keyword "in" => do pure (some (← loopWords g (← room) []))
      | .operator ";" => pure none
      | _ => do
        pushToken
        pure none
    return .each line name words (← loopBody g startingAfterLines)

def unaryOperators : List String :=
  ["-a", "-b", "-c", "-d", "-e", "-f", "-g", "-h", "-k", "-p", "-r", "-s", "-t", "-u", "-v", "-w",
    "-x", "-z", "-n", "-o", "-G", "-L", "-N", "-O", "-R", "-S"]

def binaryOperators : List String :=
  ["=", "==", "!=", "=~", "<", ">", "-eq", "-ne", "-lt", "-le", "-gt", "-ge", "-nt", "-ot", "-ef"]

def refuseCondition {α : Type} (notes : List String) (near : String) : Read α := do
  let s ← get
  let line := match s.last with
    | .operator "\n" => s.line - 1
    | _ => s.line
  throw {
    line := line, notes := notes.map (line, ·)
    message := "syntax error near " ++ inMarks near
    shown := some (s.lines.getD (line - 1) "") }

def refuseEnd {α : Type} (line : Nat) (note : String) : Read α := do
  throw { line := (← get).line, notes := [(line, note)], message := endMessage }

def operandAfter (inner : Inner) (arity operator : String) (quoting : Quoting) : Read Word := do
  let refused (found near : String) : Read Word :=
    refuseCondition
      ["unexpected argument " ++ inMarks found ++ " to conditional " ++ arity ++ " operator"] near
  blanks (← room)
  match ← peek with
  | none | some '\n' => refused "newline" operator
  | some c =>
    if quoting = .base && "();|&".toList.contains c then
      refused (String.singleton c) (String.singleton c)
    else
      let before := (← get).hasGroups
      modify fun s => { s with hasGroups := true }
      let t ← wordToken inner false quoting
      modify fun s => { s with hasGroups := before, last := t }
      match t with
      | .word w isQuoted =>
        if !isQuoted && Word.bare? w = some "]]" then refused "]]" "]]" else return w
      | t => refused (t.text []) (t.text [])

def conditionAfter (inner : Inner) (left : Word) (written : String) : Read Condition := do
  let binary (operator : String) : Read Condition := do
    let quoting := if operator = "=~" then Quoting.pattern else .base
    return .binary operator left (← operandAfter inner "binary" operator quoting)
  match ← token inner {} with
  | .word o _ =>
    match Word.bare? o with
    | some "]]" => do
      pushToken
      return .unary "-n" left
    | operator =>
      if binaryOperators.contains (operator.getD "") then binary (operator.getD "")
      else
        refuseCondition ["conditional binary operator expected"] (String.ofList (← get).written)
  | .redirect _ sign => binary sign
  | .operator o =>
    if ["&&", "||", ")"].contains o then
      pushToken
      return .unary "-n" left
    else
      let found := Token.text [] (.operator o)
      refuseCondition ["unexpected token " ++ inMarks found ++ ", conditional binary operator expected"]
        (if o = "\n" then written else found)
  | _ => unexpected none

mutual

def conditionTerm (inner : Inner) : Nat → Read Condition
  | 0 => unexpected none
  | steps + 1 => do
    match ← token inner { newlines := true } with
    | .operator "(" => do
      let c ← conditionAny inner steps
      match ← token inner { newlines := true } with
      | .operator ")" => return c
      | t =>
        let found := t.text (← get).written
        refuseCondition ["unexpected token " ++ inMarks found ++ ", expected " ++ inMarks ")"] found
    | .word w isQuoted =>
      match if isQuoted then none else Word.bare? w with
      | some "!" => return .not (← conditionTerm inner steps)
      | some "]]" => refuseCondition [] "]]"
      | text =>
        let written := String.ofList (← get).written
        match text.filter unaryOperators.contains with
        | some operator => return .unary operator (← operandAfter inner "unary" operator .base)
        | none => conditionAfter inner w written
    | .endOfFile => do
      refuseEnd (← get).line ("unexpected token " ++ inMarks "EOF" ++ " in conditional command")
    | t => do
      let found := t.text []
      refuseCondition ["unexpected token " ++ inMarks found ++ " in conditional command"] found

def conditionAll (inner : Inner) : Nat → Read Condition
  | 0 => unexpected none
  | steps + 1 => do
    let first ← conditionTerm inner steps
    match ← token inner { newlines := true } with
    | .operator "&&" => return .and first (← conditionAll inner steps)
    | _ => do
      pushToken
      return first

def conditionAny (inner : Inner) : Nat → Read Condition
  | 0 => unexpected none
  | steps + 1 => do
    let first ← conditionAll inner steps
    match ← token inner { newlines := true } with
    | .operator "||" => return .or first (← conditionAny inner steps)
    | _ => do
      pushToken
      return first

end

def condition (inner : Inner) : Read Condition := do
  let c ← conditionAny inner (← room)
  match ← token inner { newlines := true } with
  | .word w isQuoted =>
    if !isQuoted && Word.bare? w = some "]]" then return c
    else
      refuseCondition ["syntax error in conditional expression"] (String.ofList (← get).written)
  | .endOfFile => do
    refuseEnd ((← get).line - 1) ("unexpected EOF while looking for " ++ inMarks "]]")
  | t => refuseCondition ["syntax error in conditional expression"] (t.text [])

def compound (g : Grammar) (line : Nat) (t : Token) : Read Command := do
  match t with
  | .keyword "if" => do
    let test ← required g
    expectKeyword g.inner {} "then"
    let consequent ← required g
    let otherwise ← elseParts g (← room)
    expectKeyword g.inner {} "fi"
    return .conditional test consequent otherwise
  | .keyword "while" | .keyword "until" => do
    let isUntil := match t with
      | .keyword "until" => true
      | _ => false
    let test ← required g
    return .loop isUntil test (← loopBody g {})
  | .keyword "for" => eachLoop g line
  | .keyword "case" => do
    match ← token g.inner {} with
    | .word subject _ => do
      expectKeyword g.inner startingAfterLines "in"
      return .choice line subject (← arms g (← room) [])
    | _ => unexpected (some "word")
  | .keyword "\x7b" => do
    let body ← required g
    expectKeyword g.inner {} "\x7d"
    return body
  | .keyword "[[" => return .condition line (← condition g.inner)
  | .operator "(" => do
    if (← isExtended) && (← get).rest.head? == some '(' then
      modify fun s => { s with rest := s.rest.drop 1 }
      return .arithmetic line (← expression g.inner)
    let body ← required g
    expectOperator g.inner ")"
    return .subshell line body []
  | _ => unexpected none

def commandWith (g : Grammar) : Read Command := do
  let t ← token g.inner starting
  let line := (← get).line
  match t with
  | .word _ _ | .redirect _ _ => do
    pushToken
    simpleWithin g line (← room) {}
  | .keyword "function" => do
    let name ← match ← token g.inner {} with
      | .word w _ => pure (Word.plainText w)
      | _ => unexpected none
    match ← token g.inner {} with
    | .operator "(" => expectOperator g.inner ")"
    | _ => pushToken
    functionBody g name
  | .keyword "time" => g.command
  | t => do
    let body ← compound g line t
    match ← redirects g.inner (← room) [], body with
    | [], body => return body
    | rs, .subshell line body _ => return .subshell line body rs
    | rs, body => return .redirected line body rs

def pipelineParts (g : Grammar) : Nat → List Command → Read (List Command)
  | 0, done => return done.reverse
  | steps + 1, done => do
    match ← token g.inner {} with
    | .operator "|" => do
      let _ ← token g.inner startingAfterLines
      pushToken
      pipelineParts g steps ((← g.command) :: done)
    | .operator "|&" => do
      let _ ← token g.inner startingAfterLines
      pushToken
      let line := (← get).line
      match done with
      | c :: done =>
        let both : Command := .redirected line c [.mk 2 .duplicateOutput [.text "1" false]]
        pipelineParts g steps ((← g.command) :: both :: done)
      | [] => unexpected none
    | _ => do
      pushToken
      return done.reverse

def pipeline (g : Grammar) (e : Expecting) : Read Command := do
  let isNegated ← match ← token g.inner e with
    | .keyword "!" => pure true
    | _ => do
      pushToken
      pure false
  if isNegated && (← isExtended) then
    match ← token g.inner starting with
    | .operator "\n" | .operator ";" | .endOfFile => do
      pushToken
      return .negated (.sequence [])
    | _ => pushToken
  let first ← commandWith g
  let body ← match ← pipelineParts g (← room) [first] with
    | [c] => pure c
    | parts => pure (.pipeline false parts)
  return if isNegated then .negated body else body

def joined (g : Grammar) : Nat → Command → Read Command
  | 0, c => return c
  | steps + 1, c => do
    match ← token g.inner {} with
    | .operator "&&" => do joined g steps (.and c (← pipeline g startingAfterLines))
    | .operator "||" => do joined g steps (.or c (← pipeline g startingAfterLines))
    | _ => do
      pushToken
      return c

def inBackground : Command → Command
  | .pipeline _ parts => .pipeline true parts
  | .redirected line body redirects => .background line body redirects
  | .subshell line body redirects => .background line (.subshell line body redirects) []
  | c => .background (lineOf c) c []
where
  lineOf : Command → Nat
    | .simple line _ _ _ => line
    | _ => 0

def listWithin (g : Grammar) (kind : ListKind) : Nat → Bool → List Command → Read (List Command)
  | 0, _, done => return done.reverse
  | steps + 1, mayEnd, done => do
    let isLine := kind = .line
    match ← token g.inner { keywords := true, aliases := true, newlines := !isLine } with
    | .operator "\n" => do
      documents g.inner
      return done.reverse
    | .endOfFile => do
      documents g.inner
      pushToken
      return done.reverse
    | t =>
      pushToken
      if mayEnd && !isLine && isListEnd t then return done.reverse
      let c ← joined g (← room) (← pipeline g starting)
      match ← token g.inner {} with
      | .operator "&" => listWithin g kind steps true (inBackground c :: done)
      | .operator ";" => listWithin g kind steps true (c :: done)
      | .operator "\n" => do
        pushToken
        listWithin g kind steps true (c :: done)
      | .endOfFile => do
        documents g.inner
        pushToken
        return (c :: done).reverse
      | _ => do
        if isLine then unexpected none
        pushToken
        return (c :: done).reverse

def ofParts : List Command → Option Command
  | [] => none
  | [c] => some c
  | parts => some (.sequence parts)

def listWith (g : Grammar) (kind : ListKind) : Read (Option Command) := do
  return ofParts (← listWithin g kind (← room) (kind = .inner) [])

-- The end of the text inside a substitution is named in the extended language by what is missing.
def untilParenthesis {α : Type} (work : Read α) : Read α :=
  tryCatch work fun fault =>
    if fault.message = endMessage then
      throw { fault with
        message := "unexpected EOF while looking for matching " ++ inMarks ")" }
    else throw fault

def innerWith (g : Grammar) : Inner := fun toEnd => do
  let body ← if toEnd then listWith g .inner else untilParenthesis (listWith g .inner)
  if !toEnd then
    match ← untilParenthesis (token g.inner {}) with
    | .operator ")" => pure ()
    | _ => untilParenthesis (unexpected (some "\")\""))
    -- Documents that have not begun are empty.
    let after ← get
    set { after with rest := [] }
    documents g.inner
    modify fun s => { s with rest := after.rest, line := after.line }
  return body

end Read

def grammar : Nat → Grammar
  | 0 => ⟨fun _ => Read.fail "too deep", Read.fail "too deep", fun _ => Read.fail "too deep"⟩
  | depth + 1 => {
      list := fun kind => Read.listWith (grammar depth) kind
      command := Read.commandWith (grammar depth)
      inner := fun toEnd => Read.innerWith (grammar depth) toEnd }

/-- What stands next in a program: nothing more, an empty line, or a command. -/
inductive Line where
  | done
  | empty
  | command (c : Command)

def nestingLimit : Nat := 2000

def Read.line : Read Line := do
  modify fun s => { s with again := none, pending := [], aliasNext := false }
  let g := grammar nestingLimit
  match ← Read.token g.inner {} with
  | .endOfFile => return .done
  | .operator "\n" => return .empty
  | _ => do
    Read.pushToken
    match ← Read.listWith g .line with
    | some c => return .command c
    | none => return .done

end Converge.Shell
