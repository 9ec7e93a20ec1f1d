import Converge.Path

set_option autoImplicit false

namespace Converge

structure NodeSettings where
  -- Counts before what the host says about itself.
  platform : Option String := none
  -- Counts before what the node document says.
  startFirst : Option Bool := none
  attributesFile : Option OsString := none
  deriving DecidableEq, Repr

namespace Settings.Default

-- What a field is where its table leaves it out.

def initDir : OsString := "/etc/init.d"

def rcRoot : OsString := "/etc"

def osRelease : OsString := "/etc/os-release"

def timeoutSeconds : Nat := 120

def level : String := "info"

def format : String := "pretty"

def reportPath : OsString := "/var/log/scalaris/svc-report.jsonl"

end Settings.Default

open Settings

-- A group has its own defaults, which stand where the document leaves out its whole table.
structure Paths where
  initDir : OsString := Default.initDir
  rcRoot : OsString := Default.rcRoot
  osRelease : OsString := Default.osRelease
  deriving DecidableEq, Repr

def Paths.initScript (paths : Paths) (service : String) : OsString :=
  Path.join paths.initDir service

structure Limits where
  -- How long one command may take.
  timeoutSeconds : Nat := Default.timeoutSeconds
  deriving DecidableEq, Repr

structure LogSettings where
  level : String := Default.level
  format : String := Default.format
  deriving DecidableEq, Repr

structure ReportSettings where
  enabled : Bool := false
  path : OsString := Default.reportPath
  deriving DecidableEq, Repr

structure Settings where
  node : NodeSettings := {}
  paths : Paths := {}
  limits : Limits := {}
  logging : LogSettings := {}
  report : ReportSettings := {}
  deriving DecidableEq, Repr

end Converge
