import Converge.Process.Files

set_option autoImplicit false

namespace Converge.Process

inductive Kind where
  | file
  | directory
  | link
  | characters
  | pipe
  deriving DecidableEq, Repr

structure Status where
  kind : Kind
  place : Option Location
  size : Nat
  mode : Nat
  time : Int
  names : Nat
  deriving DecidableEq

namespace State

def statusOf (s : State) (place : Location) (node : Node) : Status :=
  let kind : Kind := match node with
    | .file _ _ => .file
    | .directory _ => .directory
    | .link _ => .link
    | .device _ => .characters
  let size := match node with
    | .file content _ => content.length
    | .directory _ => 4096
    | .link target => target.octets.length
    | .device _ => 0
  let names := match node with
    | .file _ _ => (s.places place).length
    | .directory _ => 2 + ((s.files.names place).filter fun name =>
        (s.files.find? (place ++ [name])).any (·.isDirectory)).length
    | _ => 1
  ⟨kind, some place, size, s.mode place, s.time place, names⟩

def statusOfDescriptor? (s : State) (process number : Nat) : Option Status :=
  (s.descriptor? process number).bind fun (_, o) =>
    match o.target with
    | .file place | .directory place =>
      (s.settle.files.find? place).map (s.settle.statusOf place)
    | .loose content => some ⟨.file, none, content.length, 0o644, 0, 0⟩
    | .device _ => some ⟨.characters, none, 0, 0o666, 0, 1⟩
    | .captured _ _ | .reading _ | .writing _ => some ⟨.pipe, none, 0, 0o600, 0, 1⟩

def status (s : State) (process : Nat) (follow : Bool) (path : String) : Except OsError Status :=
  match if follow then descriptorAt? path else none with
  | some number =>
    match s.statusOfDescriptor? process number with
    | some status => .ok status
    | none => .error .notFound
  | none => (s.lookUp process follow path).map fun (place, node) => s.settle.statusOf place node

def status? (s : State) (process : Nat) (follow : Bool) (path : String) : Option Status :=
  (s.status process follow path).toOption

def isSame (s : State) (process : Nat) (a b : String) : Bool :=
  match s.status? process true a, s.status? process true b with
  | some x, some y =>
    match x.place, y.place with
    | some p, some q => p = q || (s.places p).contains q
    | _, _ => false
  | _, _ => false

end State

end Converge.Process
