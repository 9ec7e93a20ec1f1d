import Converge.Cli.Run
import Converge.Process.Hosting
import Converge.Tool.Programs

set_option autoImplicit false

namespace Converge.Rehearsal

open Converge.Process (Act Machine Program State)

-- Where a rehearsal keeps its files, and what its processes see of their surroundings.
structure Stage where
  root : Location
  environment : List (String × String)
  -- When it begins, and for how long its clock has run by then, in nanoseconds.
  time : Nat := 1760000000000000000
  uptime : Nat := 3600000000000
  -- The last lines of the usage texts of its tools.
  closing : List String := []

def accounts : Location × Node :=
  (["etc", "passwd"], .file (Text.toOctets (String.join (all.map line))) false)
where
  line (a : String × Nat × Nat × String × String × String) : String :=
    let (name, user, group, title, home, program) := a
    String.intercalate ":" [name, "x", toString user, toString group, title, home, program] ++ "\n"
  nobody : String := "/usr/sbin/nologin"
  all : List (String × Nat × Nat × String × String × String) := [
    ("root", 0, 0, "root", "/root", "/bin/bash"), ("daemon", 1, 1, "daemon", "/usr/sbin", nobody),
    ("bin", 2, 2, "bin", "/bin", nobody), ("sys", 3, 3, "sys", "/dev", nobody),
    ("sync", 4, 65534, "sync", "/bin", "/bin/sync"), ("games", 5, 60, "games", "/usr/games", nobody),
    ("man", 6, 12, "man", "/var/cache/man", nobody), ("lp", 7, 7, "lp", "/var/spool/lpd", nobody),
    ("mail", 8, 8, "mail", "/var/mail", nobody), ("news", 9, 9, "news", "/var/spool/news", nobody),
    ("uucp", 10, 10, "uucp", "/var/spool/uucp", nobody), ("proxy", 13, 13, "proxy", "/bin", nobody),
    ("www-data", 33, 33, "www-data", "/var/www", nobody),
    ("backup", 34, 34, "backup", "/var/backups", nobody),
    ("list", 38, 38, "Mailing List Manager", "/var/list", nobody),
    ("irc", 39, 39, "ircd", "/run/ircd", nobody), ("_apt", 42, 65534, "", "/nonexistent", nobody),
    ("nobody", 65534, 65534, "nobody", "/nonexistent", nobody)]

def release : Location × Node :=
  (["etc", "os-release"], .file (Text.toOctets (String.join (lines.map (· ++ "\n")))) false)
where
  lines : List String := ["NAME=\"Debian\"", "VERSION_ID=\"12\"", "ID=debian"]

-- The program's own file, as the processes that it starts find it.
def ownFile : List (Location × Node) :=
  let process : OsString := toString State.outside
  [(["proc", process], .directory true),
    (["proc", process, "exe"], Process.Image.toolFile Cli.programName)]

def Stage.files (stage : Stage) : FileSystem where
  nodes := (stage.root, .directory true) :: accounts :: release :: ownFile ++ Tool.Installation.nodes
  workingDirectory := ["var", "empty"]

/-- The program as one more tool. It runs in one go, on a machine of its own. -/
def own (closing : List String) : Program := fun l => do
  let conclusion ← Act.doing fun self s =>
    let s := s.settle
    let directory := ((s.entry? self).map (·.directory)).getD []
    let environment := l.environment.map fun (name, value) =>
      (Text.Raw.toText name, Text.Raw.toText value)
    let host : Host Machine := {
      files := { s.files with workingDirectory := directory }
      clock := s.clock, wall := s.clock, rest := .idle }
    let conclusion := Cli.run { runId := .ofNat 0 }
      (Execution.run (Machine.processes (Tool.programs closing) environment))
      (Cli.programName :: l.words.map Text.Raw.toText) host
    let files := { conclusion.host.files with workingDirectory := s.files.workingDirectory }
    (conclusion, { s with files := files, clock := conclusion.host.wall })
  let _ ← Act.write 1 (Text.toOctets conclusion.output)
  let _ ← Act.write 2 (Text.toOctets conclusion.stderr)
  return conclusion.status

def Stage.programs (stage : Stage) : Program := fun l =>
  if l.tool = Cli.programName then own stage.closing l else Tool.programs stage.closing l

def Stage.outcome (stage : Stage) (timeout : Nat) (c : Command) : Except ApplyError CommandResult :=
  let host : Host Machine := {
    files := stage.files, clock := stage.uptime, wall := stage.time, rest := .idle }
  (Execution.run (Machine.processes stage.programs stage.environment) timeout host c).result

end Converge.Rehearsal
