import Converge.FileSystem.Access
import Converge.Log.Event
import Converge.Report.Basic

set_option autoImplicit false

namespace Converge

/-- An open journal: where its file stands and under which path it was opened. -/
structure Journal where
  place : Location
  path : OsString
  deriving DecidableEq, Repr

namespace Journal

-- The directory that has to be made before a journal can be opened.
def missingDirectory? (files : FileSystem) (path : OsString) : Option OsString :=
  match Path.parent? path with
  | some parent => if parent = "" || files.pathExists parent then none else some parent
  | none => none

/-- Opens a journal, making its file and the directories above it where they are missing. What was
made stays even if the journal cannot be opened in the end. -/
def openAt (files : FileSystem) (path : OsString) : Except OsError Journal × FileSystem :=
  let above : FileSystem.Changed := match missingDirectory? files path with
    | some parent => files.makeDirectories parent
    | none => ⟨none, files⟩
  match above.refusal with
  | some e => (.error e, above.files)
  | none =>
    match above.files.openForWriting path with
    | .ok (place, opened) => (.ok ⟨place, path⟩, opened)
    | .error e => (.error e, above.files)

def append (j : Journal) (files : FileSystem) (r : Report) : Except OsError FileSystem :=
  match files.find? j.place with
  | some (.device .full) => .error .noSpace
  | _ => .ok (files.appendAt j.place (Text.toOctets (r.line ++ "\n")))

def write (files : FileSystem) (path : OsString) (r : Report) : Except OsError Journal × FileSystem :=
  match openAt files path with
  | (.ok j, opened) =>
    match j.append opened r with
    | .ok written => (.ok j, written)
    | .error e => (.error e, opened)
  | (.error e, opened) => (.error e, opened)

-- Why what was added cannot be made safe: devices keep nothing.
def syncFault? (j : Journal) (files : FileSystem) : Option OsError :=
  match files.find? j.place with
  | some (.device _) => some .invalid
  | _ => none

def openingEvents (files : FileSystem) (path : OsString) : List LogEvent :=
  match missingDirectory? files path with
  | some parent => [⟨.debug, .journal, "Creating report directory", [("path", .text parent.text)]⟩]
  | none => []

def writtenEvents (j : Journal) (files : FileSystem) (r : Report) : List LogEvent :=
  (match j.syncFault? files with
    | some e => [⟨.warn, .journal, "Failed to sync report file", [("error", .text e.message)]⟩]
    | none => []) ++
  [⟨.debug, .journal, "Report written", [
    ("run_id", .text r.runId.toString), ("path", .text j.path.text)]⟩]

end Journal

end Converge
