import Converge.Tool.Tree

set_option autoImplicit false

namespace Converge.Tool

open Converge.Process

def answerWithin : Nat → List UInt8 → Act (List UInt8)
  | 0, line => return line.reverse
  | room + 1, line => do
    match ← Act.read 0 1 with
    | .ok [o] => if o = 10 then return line.reverse else answerWithin room (o :: line)
    | _ => return line.reverse

def confirmed (l : Launch) (question : String) : Act Bool := do
  let _ ← Act.say 2 (l.name ++ ": " ++ question ++ "? ")
  let answer ← answerWithin 4096 []
  return answer.head? = some 0x79 || answer.head? = some 0x59

def kindName (s : Status) : String :=
  match s.kind with
  | .file => if s.size = 0 then "regular empty file" else "regular file"
  | .directory => "directory"
  | .link => "symbolic link"
  | .characters => "character special file"
  | .pipe => "fifo"

def removeOne (l : Launch) (p : Parsed) (path : String) (status : Status) : Act Nat := do
  let isDirectory := status.kind = .directory
  if p.last? ['i', 'f', 'I'] = some 'i' then
    unless ← confirmed l ("remove " ++ kindName status ++ " " ++ quoted path) do return 0
  let done ← changing l (fun e => "cannot remove " ++ quoted path ++ ": " ++ e.reason) fun self s =>
    if isDirectory then s.removeDirectory self path else s.unlink self path
  if done = 0 && p.has 'v' then
    let _ ← put l ((if isDirectory then "removed directory " else "removed ") ++ quoted path ++ "\n")
  return done

def removePath (l : Launch) (p : Parsed) (path : String) : Act Nat := do
  let v ← View.now
  let recursive := p.has 'r' || p.has 'R'
  let refuse (m : String) : Act Nat := do
    complain l m
    return 1
  match v.status false path with
  | .error e =>
    if (p.last? ['i', 'f', 'I'] = some 'f') && (e = .notFound || e = .notDirectory) then return 0
    else refuse ("cannot remove " ++ quoted path ++ ": " ++ e.reason)
  | .ok status =>
    if status.kind ≠ .directory then removeOne l p path status
    else if !recursive then
      if p.has 'd' then removeOne l p path status
      else refuse ("cannot remove " ++ quoted path ++ ": Is a directory")
    else if baseName path = "." || baseName path = ".." then
      refuse ("refusing to remove '.' or '..' directory: skipping " ++ quoted path)
    else if status.place = some [] then do
      complain l ("it is dangerous to operate recursively on " ++
        if path = "/" then quoted path else quoted path ++ " (same as '/')")
      refuse "use --no-preserve-root to override this failsafe"
    else if p.has 'v' || p.has 'i' then
      -- What a directory holds goes before the directory itself.
      each (fun (f : Found) => removeOne l p f.path f.status) (wholeTree v path status).reverse 0
    else
      changing l (fun e => "cannot remove " ++ quoted path ++ ": " ++ e.reason) fun _ s =>
        .ok (s.erase (status.place.getD []))

def rm : Program := fun l =>
  withOptions { letters := "dfirRvI", long := [("force", 'f'), ("recursive", 'r'), ("dir", 'd'),
    ("verbose", 'v'), ("interactive", 'i'), ("preserve-root", 'R'), ("one-file-system", 'I')] } 1 l
    fun p => do
      if p.words.isEmpty && !p.has 'f' then misused l "missing operand" 1
      else each (removePath l p) p.words 0

def parentsWithin : Nat → String → List String
  | 0, _ => []
  | room + 1, path =>
    let parent := directoryName path
    if parent = path || parent = "." || parent = "/" then [] else parent :: parentsWithin room parent

def removeEmpty (l : Launch) (p : Parsed) (what : String) (path : String) : Act Nat := do
  if p.has 'v' then
    let _ ← put l ("rmdir: removing directory, " ++ quoted path ++ "\n")
  match ← Act.change fun self s => s.removeDirectory self path with
  | .ok () => return 0
  | .error e => do
    if e = .notEmpty && p.has 'I' then return 2
    complain l ("failed to remove " ++ what ++ quoted path ++ ": " ++ e.reason)
    return 1

def removeUpwards (l : Launch) (p : Parsed) : List String → Act Nat
  | [] => return 0
  | path :: rest => do
    match ← removeEmpty l p "directory " path with
    | 0 => removeUpwards l p rest
    | n => return n % 2

def rmdir : Program := fun l =>
  withOptions { letters := "pvI", long := [("parents", 'p'), ("verbose", 'v'),
    ("ignore-fail-on-non-empty", 'I')] } 1 l fun p => do
    if p.words.isEmpty then return ← misused l "missing operand" 1
    each (fun path => do
      match ← removeEmpty l p "" path with
      | 0 => if p.has 'p' then removeUpwards l p (parentsWithin path.length path) else return 0
      | n => return n % 2) p.words 0

end Converge.Tool
