import Converge.Path

set_option autoImplicit false

namespace Converge

-- Why the system refuses to touch a path.
inductive OsError where
  | notFound
  | permissionDenied
  | exists_
  | notDirectory
  | isDirectory
  | nameTooLong
  | tooManyLinks
  | badFormat
  | noDevice
  | invalid
  | noSpace
  | notEmpty
  | notPermitted
  | badDescriptor
  | brokenPipe
  | nulInPath
  | nulInCommand
  | invalidText
  deriving DecidableEq, Repr

-- The reason alone, without the number that the system gives it.
def OsError.reason : OsError → String
  | .notFound => "No such file or directory"
  | .permissionDenied => "Permission denied"
  | .exists_ => "File exists"
  | .notDirectory => "Not a directory"
  | .isDirectory => "Is a directory"
  | .nameTooLong => "File name too long"
  | .tooManyLinks => "Too many levels of symbolic links"
  | .badFormat => "Exec format error"
  | .noDevice => "No such device or address"
  | .invalid => "Invalid argument"
  | .noSpace => "No space left on device"
  | .notEmpty => "Directory not empty"
  | .notPermitted => "Operation not permitted"
  | .badDescriptor => "Bad file descriptor"
  | .brokenPipe => "Broken pipe"
  | .nulInPath => "file name contained an unexpected NUL byte"
  | .nulInCommand => "nul byte found in provided data"
  | .invalidText => "stream did not contain valid UTF-8"

def OsError.number? : OsError → Option Nat
  | .notPermitted => some 1
  | .notFound => some 2
  | .noDevice => some 6
  | .badFormat => some 8
  | .badDescriptor => some 9
  | .permissionDenied => some 13
  | .exists_ => some 17
  | .notDirectory => some 20
  | .isDirectory => some 21
  | .invalid => some 22
  | .noSpace => some 28
  | .brokenPipe => some 32
  | .nameTooLong => some 36
  | .notEmpty => some 39
  | .tooManyLinks => some 40
  | .nulInPath | .nulInCommand | .invalidText => none

def OsError.message (e : OsError) : String :=
  match e.number? with
  | some n => e.reason ++ " (os error " ++ toString n ++ ")"
  | none => e.reason

-- Absolute, and free of dots and links.
abbrev Location := List OsString

/-- Things that look like files and hold nothing. -/
inductive Device where
  -- Swallows what is written and is always at its end.
  | null
  -- Swallows what is written and gives zero octets without end.
  | zero
  -- Gives zero octets without end, and has no room for anything.
  | full
  deriving DecidableEq, Repr

inductive Node where
  | file (content : Text.Utf8.Octets) (executable : Bool)
  -- A path leads through a directory whether or not its names can be read.
  | directory (readable : Bool)
  | link (target : OsString)
  | device (device : Device)
  deriving DecidableEq, Repr

def Node.isDirectory : Node → Bool
  | .directory _ => true
  | _ => false

structure FileSystem where
  nodes : List (Location × Node)
  -- Where relative paths start.
  workingDirectory : Location := []
  deriving DecidableEq

namespace FileSystem

def empty : FileSystem := { nodes := [] }

-- The root is always a directory.
def find? (fs : FileSystem) (place : Location) : Option Node :=
  if place = [] then some (.directory true) else fs.nodes.lookup place

def set (fs : FileSystem) (place : Location) (node : Node) : FileSystem :=
  { fs with nodes := (place, node) :: fs.nodes.filter (fun entry => entry.1 ≠ place) }

-- Takes away what stands at a location and everything below it.
def erase (fs : FileSystem) (place : Location) : FileSystem :=
  { fs with nodes := fs.nodes.filter fun entry => !place.isPrefixOf entry.1 }

def names (fs : FileSystem) (place : Location) : List OsString :=
  fs.nodes.filterMap fun entry =>
    match entry.1.getLast? with
    | some name => if entry.1.dropLast = place then some name else none
    | none => none

end FileSystem

end Converge
