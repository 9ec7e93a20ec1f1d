import Converge.Process.Files

set_option autoImplicit false

namespace Converge.Process

open Converge.Text

/-- A tool and the words it is started with. -/
structure Image where
  name : String
  tool : String
  words : List String

namespace Image

def mark : Utf8.Octets := [0x7F, 0x45, 0x4C, 0x46]

def toolFile (name : String) : Node := .file (mark ++ Text.toOctets name) true

def headSize : Nat := 256

def isBlankOctet (o : UInt8) : Bool := o == 0x20 || o == 0x09

/-- The line of a head that names the interpreter, without its mark. A head without the end of that
line counts only if the name itself is whole. -/
def firstLine? (head : Utf8.Octets) : Option Utf8.Octets :=
  let line := head.takeWhile (· ≠ 0x0A)
  if line.length < head.length then some (line.drop 2)
  else
    let padded := (head ++ List.replicate (headSize - head.length) 0).take (headSize - 1)
    let named := (padded.drop 2).dropWhile isBlankOctet
    if named.any fun o => isBlankOctet o || o == 0 then some (padded.drop 2) else none

def interpreter? (content : Utf8.Octets) : Option (String × List String) := do
  let head := content.take headSize
  if head.take 2 ≠ [0x23, 0x21] then none
  let whole ← firstLine? head
  let line := (whole.reverse.dropWhile isBlankOctet).reverse.dropWhile isBlankOctet
  let name := line.takeWhile fun o => !isBlankOctet o && o ≠ 0
  let rest := line.drop name.length
  let word := match rest with
    | 0 :: _ => []
    | rest => (rest.dropWhile isBlankOctet).takeWhile (· ≠ 0)
  if line.isEmpty then none
  else some (Raw.ofOctets name, if word.isEmpty then [] else [Raw.ofOctets word])

inductive Form where
  | tool (name : String)
  | script (interpreter : String) (word : List String)

def form (content : Utf8.Octets) : Except OsError Form :=
  if mark.isPrefixOf content then .ok (.tool (ofOctetsLossy (content.drop mark.length)))
  else
    match interpreter? content with
    | some (name, word) => .ok (.script name word)
    | none => .error .badFormat

def formAt (files : FileSystem) (directory : Location) (path : String) : Except OsError Form :=
  match files.lookUp (State.absolute directory path) with
  | .error e => .error e
  | .ok (_, .file content executable) =>
    if executable then form content else .error .permissionDenied
  | .ok _ => .error .permissionDenied

def Form.image (path : String) (words : List String)
    (next : String → List String → Except OsError Image) : Form → Except OsError Image
  | tool name => .ok ⟨path, name, words⟩
  | script interpreter word => next interpreter (word ++ path :: words)

def depthLimit : Nat := 5

def loadWithin (files : FileSystem) (directory : Location) :
    Nat → String → List String → Except OsError Image
  | 0, path, words =>
    (formAt files directory path).bind (·.image path words fun _ _ => .error .tooManyLinks)
  | depth + 1, path, words =>
    (formAt files directory path).bind (·.image path words (loadWithin files directory depth))

def load (files : FileSystem) (directory : Location) (path : String) (words : List String) :
    Except OsError Image := loadWithin files directory depthLimit path words

-- Tries one directory after another. A file that must not be run is passed over, but counts if
-- nothing else is found.
def search (files : FileSystem) (directory : Location) (program : String) (words : List String) :
    Bool → List String → Except OsError Image
  | denied, [] => .error (if denied then .permissionDenied else .notFound)
  | denied, entry :: rest =>
    let path := if entry = "" then program else joined entry program
    match load files directory path words with
    | .ok image =>
      .ok (if image.name = path then { image with name := program } else image)
    | .error .permissionDenied => search files directory program words true rest
    | .error .notFound | .error .notDirectory =>
      search files directory program words denied rest
    | .error e => .error e

def splitColon (s : String) : List String := s.splitOn ":"

-- The program that a name stands for: the file itself if the name has a slash, else the first one
-- along the search path.
def find (files : FileSystem) (directory : Location) (searchPath program : String)
    (words : List String) : Except OsError Image :=
  if program.toList.contains '/' then load files directory program words
  else if program = "" then .error .notFound
  else if FileSystem.nameLimit < program.length then .error .nameTooLong
  else search files directory program words false (splitColon searchPath)

def isProgram (files : FileSystem) (directory : Location) (path : String) : Bool :=
  match files.lookUp (State.absolute directory path) with
  | .ok (_, .file _ executable) => executable
  | _ => false

def locate (files : FileSystem) (directory : Location) (searchPath program : String) :
    Option String :=
  if program.toList.contains '/' then
    if isProgram files directory program then some program else none
  else
    ((splitColon searchPath).map fun entry =>
      if entry = "" then program else joined entry program).find? (isProgram files directory)

end Image

end Converge.Process
