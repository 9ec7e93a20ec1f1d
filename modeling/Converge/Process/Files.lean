import Converge.Path
import Converge.Process.Task
import Converge.Text.Basic

set_option autoImplicit false

namespace Converge.Process

open Converge.Text

-- Processes have their paths raw.
def pathOf (place : Location) : String := "/" ++ String.intercalate "/" (place.map Raw.ofName)

def joined (base path : String) : String :=
  Raw.ofName (Path.join (Raw.toName base) (Raw.toName path))

namespace State

def absolute (directory : Location) (path : String) : OsString :=
  let path := Raw.toName path
  if path = "" || Path.isAbsolute path then path
  else Path.join (Raw.toName (pathOf directory)) path

def target (s : State) (process : Nat) (follow : Bool) (path : String) :
    Except OsError FileSystem.Target :=
  let directory := ((s.entry? process).map (·.directory)).getD []
  s.files.target follow (absolute directory path)

def lookUp (s : State) (process : Nat) (follow : Bool) (path : String) :
    Except OsError (Location × Node) :=
  match s.settle.target process follow path with
  | .ok (.present place node) => .ok (place, node)
  | .ok (.notDirectory _) => .error .notDirectory
  | .ok _ => .error .notFound
  | .error e => .error e

-- The permissions of a directory that nobody has set any for: some are for everybody, and one is
-- for its owner alone.
def directoryMode (place : Location) : Nat := (special.lookup place).getD 0o755
where
  special : List (Location × Nat) :=
    [(["tmp"], 0o1777), (["var", "tmp"], 0o1777), (["root"], 0o700)]

def mode (s : State) (place : Location) : Nat :=
  match s.modes.lookup place, s.files.find? place with
  | some mode, _ => mode
  | none, some (.file _ executable) => if executable then 0o755 else 0o644
  | none, some (.link _) => 0o777
  | none, some (.device _) => 0o666
  | none, _ => directoryMode place

def setMode (s : State) (place : Location) (mode : Nat) : State :=
  let s := s.settle
  let files := match s.files.find? place with
    | some (.file content _) => s.files.set place (.file content (mode &&& 0o111 ≠ 0))
    | _ => s.files
  { s with files := files, modes := (place, mode) :: s.modes.filter (·.1 ≠ place) }

def time (s : State) (place : Location) : Int := (s.times.lookup place).getD s.start

def make (s : State) (process : Nat) (place : Location) (node : Node) (mode : Nat) : State :=
  let mask := ((s.entry? process).map (·.umask)).getD 0
  let left := mode &&& (0o7777 ^^^ mask)
  let s := s.settle
  let made := { s with files := s.files.set place node }.touch place s.clock
  match node with
  | .file _ _ | .directory _ => made.setMode place left
  | _ => made

def moveOpenings (s : State) (move : Location → Option Location) : State :=
  let settled := s.settle
  { settled with openings := settled.openings.map fun o =>
      match o.2.target with
      | .file place =>
        match move place with
        | some place => (o.1, { o.2 with target := .file place })
        | none =>
          match settled.places place with
          | _ :: twin :: _ => (o.1, { o.2 with target := .file twin })
          | _ => (o.1, { o.2 with target := .loose (settled.content place) })
      | .directory place => (o.1, { o.2 with target := .directory ((move place).getD place) })
      | _ => o }

def forget (s : State) (place : Location) : State :=
  let isInside (other : Location) : Bool := place.isPrefixOf other
  { s with
    modes := s.modes.filter fun m => !isInside m.1
    times := s.times.filter fun t => !isInside t.1
    twins := (s.twins.map fun group => group.filter fun other => !isInside other).filter
      fun group => 1 < group.length }

def erase (s : State) (place : Location) : State :=
  let s := s.moveOpenings fun other => if place.isPrefixOf other then none else some other
  { s.forget place with files := s.files.erase place }

def unlink (s : State) (process : Nat) (path : String) : Except OsError State :=
  match s.lookUp process false path with
  | .ok (_, .directory _) => .error .isDirectory
  | .ok (place, _) => .ok (s.settle.erase place)
  | .error e => .error e

def makeDirectory (s : State) (process : Nat) (path : String) (mode : Nat) :
    Except OsError State :=
  match s.settle.target process false path with
  | .ok (.present _ _) | .ok (.notDirectory _) => .error .exists_
  | .ok (.absent place) | .ok (.absentDirectory place) =>
    .ok (s.make process place (.directory true) mode)
  | .error e => .error e

def removeDirectory (s : State) (process : Nat) (path : String) : Except OsError State :=
  match s.lookUp process false path with
  | .ok (place, .directory _) =>
    if !(s.settle.files.names place).isEmpty then .error .notEmpty
    else .ok (s.settle.erase place)
  | .ok _ => .error .notDirectory
  | .error e => .error e

def relocate (s : State) (source goal : Location) : State :=
  let moved (place : Location) : Location :=
    if source.isPrefixOf place then goal ++ place.drop source.length else place
  let s := s.settle
  let s := s.moveOpenings fun other =>
    if goal.isPrefixOf other then none else some (moved other)
  let s := { s.forget goal with files := s.files.erase goal }
  { s with
    files := { s.files with nodes := s.files.nodes.map fun n => (moved n.1, n.2) }
    modes := s.modes.map fun m => (moved m.1, m.2)
    times := s.times.map fun t => (moved t.1, t.2)
    twins := s.twins.map fun group => group.map moved
    processes := s.processes.map fun p => (p.1, { p.2 with directory := moved p.2.directory }) }

def rename (s : State) (process : Nat) (source goal : String) : Except OsError State :=
  match s.lookUp process false source with
  | .error e => .error e
  | .ok (from_, node) =>
    let isDirectory := node.isDirectory
    match s.settle.target process false goal with
    | .ok (.present to_ old) =>
      if from_ = to_ then .ok s
      else if isDirectory && !old.isDirectory then .error .notDirectory
      else if !isDirectory && old.isDirectory then .error .isDirectory
      else if isDirectory && from_.isPrefixOf to_ then .error .invalid
      else if isDirectory && !(s.settle.files.names to_).isEmpty then .error .notEmpty
      else .ok (s.relocate from_ to_)
    | .ok (.absent to_) =>
      if isDirectory && from_.isPrefixOf to_ then .error .invalid else .ok (s.relocate from_ to_)
    | .ok (.absentDirectory to_) =>
      if isDirectory then
        if from_.isPrefixOf to_ then .error .invalid else .ok (s.relocate from_ to_)
      else .error .notDirectory
    | .ok (.notDirectory _) => .error .notDirectory
    | .error e => .error e

def link (s : State) (process : Nat) (follow : Bool) (source goal : String) :
    Except OsError State :=
  match s.lookUp process follow source with
  | .error e => .error e
  | .ok (_, .directory _) => .error .notPermitted
  | .ok (place, node) =>
    match s.settle.target process false goal with
    | .ok (.present _ _) => .error .exists_
    | .ok (.absent other) =>
      let s := s.settle
      let group := s.places place
      .ok { s with
        files := s.files.set other node
        modes := (other, s.mode place) :: s.modes
        times := (other, s.time place) :: s.times
        twins := (other :: group) :: s.twins.filter fun g => !g.contains place }
    | .ok _ => .error .notFound
    | .error e => .error e

def symlink (s : State) (process : Nat) (target path : String) : Except OsError State :=
  match s.settle.target process false path with
  | .ok (.present _ _) | .ok (.notDirectory _) => .error .exists_
  | .ok (.absent place) => .ok (s.make process place (.link (Raw.toName target)) 0o777)
  | .ok (.absentDirectory _) => .error .notFound
  | .error e => .error e

def changeMode (s : State) (process : Nat) (path : String) (change : Bool → Nat → Nat) :
    Except OsError State :=
  match s.lookUp process true path with
  | .ok (place, node) =>
    let mode := change node.isDirectory (s.mode place)
    .ok ((s.places place).foldl (fun s place => s.setMode place mode) s)
  | .error e => .error e

def names (s : State) (process : Nat) (path : String) : Except OsError (List String) :=
  match s.lookUp process true path with
  | .ok (place, .directory _) => .ok ((s.settle.files.names place).map Raw.ofName)
  | .ok _ => .error .notDirectory
  | .error e => .error e

def descriptorAt? (path : String) : Option Nat :=
  let numbered (front : String) : Option Nat :=
    let digits := path.toList.drop front.length
    if path.startsWith front && !digits.isEmpty && digits.all Decimal.isDigit then
      some (Decimal.value digits)
    else none
  if path = "/dev/stdin" then some 0
  else if path = "/dev/stdout" then some 1
  else if path = "/dev/stderr" then some 2
  else (numbered "/dev/fd/").orElse fun _ => numbered "/proc/self/fd/"

end State

structure Manner where
  reads : Bool := false
  writes : Bool := false
  appends : Bool := false
  truncates : Bool := false
  creates : Bool := false
  excludes : Bool := false

namespace Manner

def reading : Manner := { reads := true }

def writing : Manner := { writes := true, truncates := true, creates := true }

def appending : Manner := { writes := true, appends := true, creates := true }

def both : Manner := { reads := true, writes := true, creates := true }

end Manner

namespace State

def openTarget (s : State) (process : Nat) (path : String) (m : Manner) :
    Except OsError (Target × State) :=
  let made (place : Location) : Except OsError (Target × State) :=
    if m.creates then .ok (.file place, s.make process place (.file [] false) 0o666)
    else .error .notFound
  match s.settle.target process (!m.excludes) path with
  | .ok (.present place node) =>
    if m.excludes then .error .exists_
    else
      match node with
      | .file _ _ =>
        .ok (.file place, if m.truncates then s.settle.setContent place [] else s.settle)
      | .directory _ => if m.writes then .error .isDirectory else .ok (.directory place, s)
      | .device d => .ok (.device d, s)
      | .link _ => .error .tooManyLinks
  | .ok (.absent place) => made place
  | .ok (.absentDirectory _) => .error (if m.creates then .isDirectory else .notFound)
  | .ok (.notDirectory _) => .error .notDirectory
  | .error e => .error e

def openPath (s : State) (process : Nat) (path : String) (m : Manner) :
    Except OsError (Nat × State) :=
  match descriptorAt? path with
  | some number =>
    match s.descriptor? process number with
    | some (opening, _) => .ok (opening, s)
    | none => .error .notFound
  | none =>
    if path = "/dev/tty" then .error .noDevice
    else
      match s.openTarget process path m with
      | .error e => .error e
      | .ok (target, s) =>
        .ok (s.open_ {
          target := target, appends := m.appends, readable := m.reads || !m.writes
          writable := m.writes })

end State

end Converge.Process
