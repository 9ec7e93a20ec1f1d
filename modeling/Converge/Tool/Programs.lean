import Converge.Shell.Start
import Converge.Tool.Copy
import Converge.Tool.Expr
import Converge.Tool.Grep
import Converge.Tool.Launcher
import Converge.Tool.Lines
import Converge.Tool.Listing
import Converge.Tool.Ownership
import Converge.Tool.Sed.Tool
import Converge.Tool.Time

set_option autoImplicit false

namespace Converge.Tool

open Converge.Process

def all (closing : List String) : List (String × Program) := [
  ("true", succeed), ("false", failing), ("echo", echo), ("printf", printf),
  ("test", condition false), ("[", condition true), ("pwd", pwd), ("basename", basename),
  ("dirname", dirname), ("seq", seq), ("yes", yes), ("sleep", sleep), ("printenv", printenv),
  ("id", id), ("groups", groups), ("whoami", fixed "root"), ("hostname", fixed "localhost"),
  ("arch", fixed "x86_64"), ("uname", uname), ("tty", noTerminal), ("logname", refusing "no login name"),
  ("expr", Expr.tool), ("cat", cat), ("head", head), ("tail", tail), ("tr", tr), ("tee", tee),
  ("wc", wc), ("sort", sort), ("uniq", uniq), ("cut", cut), ("paste", paste), ("tac", tac),
  ("rev", rev), ("nl", nl), ("cmp", cmp), ("diff", diff),
  ("grep", Grep.tool 'G'), ("egrep", Grep.tool 'E'), ("fgrep", Grep.tool 'F'), ("sed", Sed.tool closing),
  ("rm", rm), ("rmdir", rmdir), ("mkdir", mkdir), ("mktemp", mktemp), ("truncate", truncate),
  ("ln", ln), ("readlink", readlink), ("realpath", realpath), ("cp", cp), ("mv", mv),
  ("install", install), ("touch", touch), ("date", date), ("chmod", chmod), ("chown", owning false),
  ("chgrp", owning true), ("ls", ls), ("stat", stat), ("du", du), ("which", which), ("env", env),
  ("timeout", timeout), ("nohup", nohup), ("nice", nice), ("setsid", setsid), ("stdbuf", stdbuf),
  ("xargs", xargs), ("sync", succeed)]

def shells : List (String × Shell.Dialect) :=
  [("sh", .plain), ("dash", .plain), ("bash", .extended)]

def names : List String := (all []).map (·.1) ++ shells.map (·.1)

def programs (closing : List String) : Program := fun l =>
  match shells.lookup l.tool with
  | some dialect => Shell.Start.run dialect l
  | none =>
    match (all closing).lookup l.tool with
    | some tool => tool l
    | none => return 127

end Converge.Tool

namespace Converge.Tool.Installation

def directories : List Location :=
  [["bin"], ["dev"], ["etc"], ["etc", "init.d"], ["proc"], ["root"], ["sbin"], ["tmp"], ["usr"],
    ["usr", "bin"], ["usr", "sbin"], ["var"], ["var", "empty"], ["var", "log"], ["var", "run"],
    ["var", "tmp"]]

def devices : List (Location × Node) := [(["dev", "null"], .device .null), (["dev", "zero"], .device .zero),
    (["dev", "full"], .device .full)]

def tools : List (Location × Node) :=
  names.flatMap fun name =>
    [(["bin", .ofText name], Process.Image.toolFile name),
      (["usr", "bin", .ofText name], Process.Image.toolFile name)]

def nodes : List (Location × Node) := directories.map (·, .directory true) ++ devices ++ tools

end Converge.Tool.Installation
