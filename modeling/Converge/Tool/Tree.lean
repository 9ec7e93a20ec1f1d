import Converge.Process.Permission
import Converge.Process.Status
import Converge.Tool.Basic

set_option autoImplicit false

namespace Converge.Tool

open Converge.Process

structure View where
  state : State
  self : Nat

namespace View

def now : Act View := do return ⟨(← Act.get).settle, ← Act.self⟩

def status (v : View) (follow : Bool) (path : String) : Except OsError Status :=
  v.state.status v.self follow path

def status? (v : View) (follow : Bool) (path : String) : Option Status :=
  (v.status follow path).toOption

def isDirectory (v : View) (path : String) : Bool :=
  (v.status? true path).any (·.kind = .directory)

def linkTarget? (v : View) (path : String) : Option String :=
  match v.state.lookUp v.self false path with
  | .ok (_, .link target) => some (Text.Raw.ofName target)
  | _ => none

def names (v : View) (path : String) : List String :=
  ((v.state.names v.self path).toOption.getD []).mergeSort fun a b => !(b < a)

def mask (v : View) : Nat := ((v.state.entry? v.self).map (·.umask)).getD 0

end View

def below (path name : String) : String :=
  if path.endsWith "/" then path ++ name else path ++ "/" ++ name

/-- Something in a tree: its path and how deep it lies. -/
structure Found where
  path : String
  depth : Nat
  status : Status

def treeDepth : Nat := 100

-- Something and all that lies below it, each directory right before what it holds. `enters` tells
-- which directories are looked into.
def tree (v : View) (follow : Bool) (enters : Found → Bool) : Nat → Found → List Found
  | 0, f => [f]
  | room + 1, f =>
    if f.status.kind = .directory && enters f then
      f :: (v.names f.path).flatMap fun name =>
        let path := below f.path name
        match (v.status? follow path).orElse fun _ => v.status? false path with
        | some status => tree v follow enters room ⟨path, f.depth + 1, status⟩
        | none => []
    else [f]

def wholeTree (v : View) (path : String) (status : Status) : List Found :=
  tree v false (fun _ => true) treeDepth ⟨path, 0, status⟩

def changing (l : Launch) (message : OsError → String) (f : Nat → State → Except OsError State) :
    Act Nat := do
  match ← Act.change f with
  | .ok () => return 0
  | .error e => do
    complain l (message e)
    return 1

end Converge.Tool
