set_option autoImplicit false

namespace Converge.Shell

/-- The plain shell language, or the one with its extensions. -/
inductive Dialect where
  | plain
  | extended
  deriving DecidableEq, Repr

inductive RedirectKind where
  | input
  | output
  | append
  -- Writes over a file even if that is forbidden otherwise.
  | clobber
  | both
  | duplicateInput
  | duplicateOutput
  | document (number : Nat)
  | text
  | outputs (append : Bool)
  deriving DecidableEq, Repr

/-- What is done with the value of a parameter. -/
inductive ParameterOperator where
  | value
  | length
  | default_
  | assign
  | require
  | alternate
  | trimFront (longest : Bool)
  | trimBack (longest : Bool)
  | slice
  | replace (everywhere : Bool) (anchor : Char)
  | upper (everywhere : Bool)
  | lower (everywhere : Bool)
  | indirect
  | keys
  | names
  -- The value as a word that can be read again.
  | quoted
  | bad
  deriving DecidableEq, Repr

mutual

inductive Piece where
  | text (s : String) (isQuoted : Bool)
  | mark
  -- A parameter with an operator on it, and the words of the operator. With `orEmpty` an empty
  -- value counts as none.
  | parameter (name : String) (index : Option (List Piece)) (operator : ParameterOperator)
      (orEmpty : Bool) (words : List (List Piece))
  | command (body : Option Command)
  | arithmetic (expression : List Piece)
  -- A command whose output, or input, stands for a file.
  | process (body : Option Command) (isInput : Bool)
  | array (elements : List (List Piece))

inductive Redirect where
  | mk (descriptor : Nat) (kind : RedirectKind) (target : List Piece)

inductive Assignment where
  | mk (name : String) (index : Option (List Piece)) (appends : Bool) (value : List Piece)

inductive Command where
  | simple (line : Nat) (assignments : List Assignment) (words : List (List Piece))
      (redirects : List Redirect)
  | pipeline (isBackground : Bool) (parts : List Command)
  | negated (body : Command)
  | redirected (line : Nat) (body : Command) (redirects : List Redirect)
  | background (line : Nat) (body : Command) (redirects : List Redirect)
  | subshell (line : Nat) (body : Command) (redirects : List Redirect)
  | and (first second : Command)
  | or (first second : Command)
  | sequence (parts : List Command)
  | conditional (test consequent : Command) (otherwise : Option Command)
  -- Runs while the condition succeeds, or until it does.
  | loop (untilSuccess : Bool) (test body : Command)
  | each (line : Nat) (name : String) (words : Option (List (List Piece))) (body : Command)
  | choice (line : Nat) (subject : List Piece) (arms : List Arm)
  | function (line : Nat) (name : String) (body : Command)
  | arithmetic (line : Nat) (expression : List Piece)
  | arithmeticLoop (line : Nat) (start test step : List Piece) (body : Command)
  | condition (line : Nat) (test : Condition)

/-- Patterns and what is done when one of them fits; then, perhaps, the next arm's body too, or the
next arms' patterns. -/
inductive Arm where
  | mk (patterns : List (List Piece)) (body : Option Command) (ending : String)

inductive Condition where
  | unary (operator : String) (operand : List Piece)
  | binary (operator : String) (left right : List Piece)
  | not (c : Condition)
  | and (a b : Condition)
  | or (a b : Condition)

end

abbrev Word := List Piece

instance : Inhabited Command := ⟨.sequence []⟩

instance : Inhabited Condition := ⟨.unary "-n" []⟩

def Word.bare? : Word → Option String
  | [] => some ""
  | .text s false :: rest => (Word.bare? rest).map (s ++ ·)
  | _ => none

end Converge.Shell
