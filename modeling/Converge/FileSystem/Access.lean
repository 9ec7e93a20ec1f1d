import Converge.FileSystem.Walk

set_option autoImplicit false

namespace Converge.FileSystem

open Converge.Text

def isFile (fs : FileSystem) (path : OsString) : Bool :=
  match fs.lookUp path with
  | .ok (_, .file _ _) => true
  | _ => false

def isDirectory (fs : FileSystem) (path : OsString) : Bool :=
  match fs.lookUp path with
  | .ok (_, .directory _) => true
  | _ => false

def pathExists (fs : FileSystem) (path : OsString) : Bool :=
  match fs.lookUp path with
  | .ok _ => true
  | .error _ => false

def readOctets (fs : FileSystem) (path : OsString) : Except OsError Utf8.Octets :=
  match fs.lookUp path with
  | .ok (_, .file content _) => .ok content
  | .ok (_, .directory _) => .error .isDirectory
  | .ok _ => .ok []
  | .error e => .error e

def readText (fs : FileSystem) (path : OsString) : Except OsError String :=
  match fs.readOctets path with
  | .ok content =>
    match ofOctets? content with
    | some text => .ok text
    | none => .error .invalidText
  | .error e => .error e

def list (fs : FileSystem) (path : OsString) : Except OsError (List OsString) :=
  match fs.lookUp path with
  | .ok (place, .directory true) => .ok (fs.names place)
  | .ok (_, .directory false) => .error .permissionDenied
  | .ok _ => .error .notDirectory
  | .error e => .error e

-- Where writing to a path goes, after making the file if the path is free.
def openForWriting (fs : FileSystem) (path : OsString) : Except OsError (Location × FileSystem) :=
  match fs.target true path with
  | .ok (.present _ (.directory _)) => .error .isDirectory
  | .ok (.present place _) => .ok (place, fs)
  | .ok (.absent place) => .ok (place, fs.set place (.file [] false))
  | .ok (.absentDirectory _) | .ok (.notDirectory _) => .error .isDirectory
  | .error e => .error e

def appendAt (fs : FileSystem) (place : Location) (octets : Utf8.Octets) : FileSystem :=
  match fs.find? place with
  | some (.file content executable) => fs.set place (.file (content ++ octets) executable)
  | _ => fs

def makeDirectory (fs : FileSystem) (path : OsString) : Except OsError FileSystem :=
  match fs.target false path with
  | .ok (.present _ _) | .ok (.notDirectory _) => .error .exists_
  | .ok (.absent place) | .ok (.absentDirectory place) => .ok (fs.set place (.directory true))
  | .error e => .error e

-- One directory; where something stands already, only a directory will do.
def ensureDirectory (fs : FileSystem) (path : OsString) : Except OsError FileSystem :=
  match fs.makeDirectory path with
  | .ok made => .ok made
  | .error e => if fs.isDirectory path then .ok fs else .error e

/-- What a change with several steps leaves: the first refusal, and the files as they are then. -/
structure Changed where
  refusal : Option OsError
  files : FileSystem

def Changed.ofExcept (before : FileSystem) : Except OsError FileSystem → Changed
  | .ok files => ⟨none, files⟩
  | .error e => ⟨some e, before⟩

-- A directory with the directories above it. `depth` bounds how many are missing.
def makeDirectoriesWithin : Nat → FileSystem → OsString → Changed
  | 0, fs, path => .ofExcept fs (fs.ensureDirectory path)
  | depth + 1, fs, path =>
    if path = "" then ⟨none, fs⟩
    else
      match fs.makeDirectory path with
      | .ok made => ⟨none, made⟩
      | .error .notFound =>
        match Path.parent? path with
        | some parent =>
          let above := makeDirectoriesWithin depth fs parent
          match above.refusal with
          | some _ => above
          | none => .ofExcept above.files (above.files.ensureDirectory path)
        | none => ⟨some .notFound, fs⟩
      | .error e => ⟨if fs.isDirectory path then none else some e, fs⟩

def makeDirectories (fs : FileSystem) (path : OsString) : Changed :=
  makeDirectoriesWithin path.octets.length fs path

-- Takes away a file, a link or a whole directory, if there is one.
def remove (fs : FileSystem) (path : OsString) : FileSystem :=
  match fs.target false path with
  | .ok (.present place _) => if place = [] then fs else fs.erase place
  | _ => fs

def Changed.toExcept (c : Changed) : Except OsError FileSystem :=
  match c.refusal with
  | some e => .error e
  | none => .ok c.files

/-- Puts a node at a path, with the directories above it. A file goes where links lead, and a
directory may be there already; else what stood at the path is gone. -/
def place (fs : FileSystem) (path : OsString) (node : Node) : Except OsError FileSystem := do
  let above := match Path.parent? path with
    | some parent => (fs.makeDirectories parent).files
    | none => fs
  match node with
  | .directory readable => do
    let made ← (fs.makeDirectories path).toExcept
    match readable, made.lookUp path with
    | false, .ok (place, _) => .ok (made.set place (.directory false))
    | _, _ => .ok made
  | _ =>
    match above.target (match node with | .file _ _ => true | _ => false) path with
    | .ok (.present _ (.directory _)) => .error .isDirectory
    | .ok (.present at_ _) | .ok (.absent at_) => .ok (above.set at_ node)
    | .ok (.absentDirectory _) | .ok (.notDirectory _) => .error .isDirectory
    | .error e => .error e

-- Name by name; a location comes before those below it.
def before : Location → Location → Bool
  | [], _ => true
  | _ :: _, [] => false
  | a :: as, b :: bs => if a = b then before as bs else a.octets < b.octets

-- The path below the root; a directory's ends in a slash.
def listed (root : Location) (entry : Location × Node) : String :=
  String.intercalate "/" ((entry.1.drop root.length).map OsString.text) ++
    if entry.2.isDirectory then "/" else ""

def listing (fs : FileSystem) (root : Location) : List String :=
  let inside := fs.nodes.filter fun entry => root.isPrefixOf entry.1 && entry.1 ≠ root
  (inside.mergeSort fun a b => before a.1 b.1).map (listed root)

end Converge.FileSystem
