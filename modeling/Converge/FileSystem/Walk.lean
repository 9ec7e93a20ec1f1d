import Converge.FileSystem.Basic
import Converge.Path

set_option autoImplicit false

namespace Converge.FileSystem

def nameLimit : Nat := 255

def pathLimit : Nat := 4096

def linkLimit : Nat := 40

/-- Where a walk ends: at something, or one free name below a directory. -/
inductive Target where
  | present (place : Location) (node : Node)
  | absent (place : Location)
  -- A free name that was asked for as a directory.
  | absentDirectory (place : Location)
  -- Something that is no directory and was asked for as one.
  | notDirectory (place : Location)
  deriving DecidableEq, Repr

-- One walk. `follow` tells whether a link in the last place is followed too.
def walk (fs : FileSystem) (follow : Bool) (links : Nat) (place : Location) :
    List OsString → Except OsError Target
  | [] =>
    match fs.find? place with
    | some node => .ok (.present place node)
    | none => .error .notFound
  | name :: rest =>
    match fs.find? place with
    | some (.directory _) =>
      if name = "." || name = "" then walk fs follow links place rest
      else if name = ".." then walk fs follow links place.dropLast rest
      else if nameLimit < name.octets.length then .error .nameTooLong
      else
        match fs.find? (place ++ [name]) with
        | none =>
          if rest = [] then .ok (.absent (place ++ [name]))
          else if rest.all (· == "") then .ok (.absentDirectory (place ++ [name]))
          else .error .notFound
        | some (.link target) =>
          if rest = [] && !follow then .ok (.present (place ++ [name]) (.link target))
          else
            match links with
            | 0 => .error .tooManyLinks
            | links + 1 =>
              if target = "" then .error .notFound
              else
                walk fs follow links (if Path.isAbsolute target then [] else place)
                  (Path.steps target ++ rest)
        | some node =>
          if rest ≠ [] && rest.all (· == "") && !node.isDirectory then
            .ok (.notDirectory (place ++ [name]))
          else walk fs follow links (place ++ [name]) rest
    | some _ => .error .notDirectory
    | none => .error .notFound
  termination_by names => (links, names.length)

def target (fs : FileSystem) (follow : Bool) (path : OsString) : Except OsError Target :=
  if path.octets.contains 0 then .error .nulInPath
  else if path = "" then .error .notFound
  else if pathLimit ≤ path.octets.length then .error .nameTooLong
  else
    walk fs follow linkLimit (if Path.isAbsolute path then [] else fs.workingDirectory)
      (Path.steps path)

def lookUp (fs : FileSystem) (path : OsString) : Except OsError (Location × Node) :=
  match fs.target true path with
  | .ok (.present place node) => .ok (place, node)
  | .ok (.notDirectory _) => .error .notDirectory
  | .ok _ => .error .notFound
  | .error e => .error e

end Converge.FileSystem
