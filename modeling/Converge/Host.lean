import Converge.Error
import Converge.FileSystem.Basic
import Converge.Log.Event
import Converge.Text.Basic

set_option autoImplicit false

namespace Converge

structure Command where
  program : String
  args : List String
  deriving DecidableEq, Repr

namespace Command

def line (c : Command) : String :=
  String.ofList (c.program.toList ++ c.args.flatMap fun arg => ' ' :: arg.toList)

def ofLine? (s : String) : Option Command :=
  match Text.words s.toList with
  | [] => none
  | program :: args => some ⟨String.ofList program, args.map String.ofList⟩

end Command

structure CommandResult where
  success : Bool
  -- Missing when a signal ended the command.
  exitCode : Option Int
  stdout : String := ""
  stderr : String := ""
  deriving DecidableEq, Repr

def CommandResult.ofExitCode (code : Int) : CommandResult where
  success := code == 0
  exitCode := some code

structure World (ρ : Type) where
  files : FileSystem
  -- In nanoseconds since some start. It never goes back.
  clock : Nat
  -- The time of the day, in nanoseconds since the epoch. It may be set anew at any time.
  wall : Nat
  -- All that commands may depend on besides.
  rest : ρ

/-- The last words of a program that broke down, and the place in it where it did. -/
structure Crash where
  place : String
  words : String
  deriving DecidableEq, Repr

structure Host (ρ : Type) extends World ρ where
  crash : Option Crash := none

structure Response (ρ : Type) where
  result : Except ApplyError CommandResult
  host : Host ρ
  events : List LogEvent := []

-- A runner may change the host in every way and may fail in every way.
abbrev Runner (ρ : Type) := Host ρ → Command → Response ρ

end Converge
