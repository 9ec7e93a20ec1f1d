import Converge.Shell.Tree
import Converge.Text.Basic

set_option autoImplicit false

namespace Converge.Shell

structure Fault where
  line : Nat
  message : String
  shown : Option String := none
  notes : List (Nat × String) := []

/-- A reserved word, an operator, a word, or the start of a redirection. -/
inductive Token where
  | endOfFile
  | operator (s : String)
  | word (w : Word) (isQuoted : Bool)
  | keyword (s : String)
  | redirect (descriptor : Nat) (sign : String)

structure Expecting where
  keywords : Bool := false
  aliases : Bool := false
  newlines : Bool := false
  ending : Bool := false

/-- A text inside the program that is still to be read. -/
structure Pending where
  number : Nat
  line : Nat
  ending : List Char
  stripsTabs : Bool
  isLiteral : Bool

structure Source where
  rest : List Char
  line : Nat := 1
  dialect : Dialect := .plain
  aliases : List (String × String) := []
  -- Aliases whose texts are being read, the latest first.
  running : List (String × Bool) := []
  -- The last token, if it is to be read again.
  again : Option Token := none
  last : Token := .endOfFile
  -- An alias that ended in a blank has just been read.
  aliasNext : Bool := false
  pending : List Pending := []
  documents : List (Nat × Word) := []
  nextDocument : Nat := 0
  -- The lines of the program, where errors show them.
  lines : List String := []
  -- The word of the last token as it was written.
  written : List Char := []
  -- Patterns may have groups, whose parentheses belong to a word.
  hasGroups : Bool := false
  -- Texts inside the program that end only with it: the last line, and what was waited for.
  unended : List (Nat × Pending) := []

abbrev Read := StateT Source (Except Fault)

namespace Read

def aliasEnd : Char := '\u0100'

def backquote : Char := Char.ofNat 96

def isExtended : Read Bool := do return (← get).dialect = .extended

def fail {α : Type} (message : String) : Read α := do
  throw { line := (← get).line, message := "Syntax error: " ++ message }

def charWithin : Nat → Read (Option Char)
  | 0 => return none
  | room + 1 => do
    let s ← get
    match s.rest with
    | [] => return none
    | c :: rest =>
      if c = aliasEnd then
        set { s with
          rest := rest
          running := s.running.tail
          aliasNext := s.aliasNext || (s.running.head?.map Prod.snd).getD false }
        charWithin room
      else
        set { s with rest := rest }
        return some c

def char : Read (Option Char) := do charWithin ((← get).running.length + 1)

def putBack (c : Option Char) : Read Unit :=
  modify fun s => match c with
    | some c => { s with rest := c :: s.rest }
    | none => s

def newLine : Read Unit := modify fun s => { s with line := s.line + 1 }

def joins : Nat → List Char → Nat
  | n, '\\' :: '\n' :: rest => joins (n + 1) rest
  | n, _ => n

def joinedChar : Read (Option Char) := do
  let s ← get
  let n := joins 0 s.rest
  if 0 < n then set { s with rest := s.rest.drop (2 * n), line := s.line + n }
  char

def peek : Read (Option Char) := do
  let c ← joinedChar
  putBack c
  return c

def isNameStart (c : Char) : Bool := c.isAlpha || c == '_'

def isNameChar (c : Char) : Bool := c.isAlphanum || c == '_'

def isName (s : List Char) : Bool :=
  match s with
  | [] => false
  | c :: _ => isNameStart c && s.all isNameChar

def isDigit (c : Char) : Bool := Text.Decimal.isDigit c

def isSpecial (c : Char) : Bool :=
  c == '!' || c == '#' || c == '$' || c == '*' || c == '-' || c == '?' || c == '@'

end Read

def Token.described : Token → String
  | .endOfFile => "end of file"
  | .operator "\n" => "newline"
  | .operator s | .keyword s => "\"" ++ s ++ "\""
  | .word _ _ => "word"
  | .redirect _ _ => "redirection"

def Token.text (written : List Char) : Token → String
  | .operator "\n" => "newline"
  | .operator s | .keyword s => s
  | .redirect _ sign => sign
  | .word _ _ => String.ofList written
  | .endOfFile => "end of file"

namespace Read

def inMarks (s : String) : String := String.singleton backquote ++ s ++ "'"

def endMessage : String := "syntax error: unexpected end of file"

def unexpected {α : Type} (expecting : Option String) : Read α := do
  let s ← get
  match s.dialect with
  | .plain =>
    let hint := match expecting with
      | some e => " (expecting " ++ e ++ ")"
      | none => ""
    fail (s.last.described ++ " unexpected" ++ hint)
  | .extended =>
    match s.last with
    | .endOfFile =>
      throw { line := s.line, message := endMessage }
    | token =>
      let line := match token with
        | .operator "\n" => s.line - 1
        | _ => s.line
      throw {
        line := line
        message := "syntax error near unexpected token " ++ inMarks (token.text s.written)
        shown := some (s.lines.getD (line - 1) "") }

def unterminated {α : Type} (line : Nat) (opening : Char) (message : String) : Read α := do
  match (← get).dialect with
  | .plain => fail message
  | .extended =>
    throw {
      line := line
      message := "unexpected EOF while looking for matching " ++ inMarks (String.singleton opening) }

end Read

end Converge.Shell
