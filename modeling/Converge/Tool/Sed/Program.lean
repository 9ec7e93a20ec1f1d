import Converge.Text.Regex.Basic

set_option autoImplicit false

namespace Converge.Tool.Sed

open Converge.Text

/-- An expression with the way it is compared; none stands for the last one that was used. -/
structure Fit where
  regex : Option Regex
  folds : Bool := false
  byLines : Bool := false

inductive Place where
  | line (n : Nat)
  | last
  | fits (f : Fit)
  -- A line and every so many lines behind it.
  | every (first step : Nat)
  | start

inductive Finish where
  | at (p : Place)
  | after (count : Nat)
  | multiple (n : Nat)

/-- A part of what is put in place of a fit. -/
inductive Part where
  | text (s : List Char)
  | group (n : Nat)
  -- From here on letters change their case in this way.
  | change (c : Char)

structure Substitution where
  fit : Fit
  parts : List Part
  everywhere : Bool := false
  nth : Nat := 1
  prints : Bool := false
  goal : Option String := none

inductive Action where
  -- What follows, up to a place in the program, is for the chosen lines only.
  | block (finish : Nat)
  | nothing
  | append (text : List Char)
  | insert (text : List Char)
  | change (text : List Char)
  | jump (label : String)
  | jumpIf (label : String)
  | jumpUnless (label : String)
  | delete
  | deleteLine
  | print
  | printLine
  | next
  | nextAppend
  | take
  | takeAppend
  | keep
  | keepAppend
  | exchange
  | quit (status : Nat)
  | quitNow (status : Nat)
  | number
  | fileName
  | show (width : Option Nat)
  | readFile (path : String)
  | readLine (path : String)
  | write (path : String)
  | writeLine (path : String)
  | translate (pairs : List (Char × Char))
  | substitute (s : Substitution)
  | empty

structure Command where
  start : Option Place := none
  finish : Option Finish := none
  isNegated : Bool := false
  action : Action

structure Program where
  commands : Array Command
  labels : List (String × Nat) := []
  isSilent : Bool := false

def Program.goals (p : Program) : List String :=
  (p.commands.toList.filterMap fun c => match c.action with
    | .write path | .writeLine path => some path
    | .substitute s => s.goal
    | _ => none).eraseDups

end Converge.Tool.Sed
