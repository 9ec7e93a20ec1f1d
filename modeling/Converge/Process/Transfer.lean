import Converge.Process.Files

set_option autoImplicit false

namespace Converge.Process

open Converge.Text

namespace State

def readNow? (s : State) (process descriptor n : Nat) : Option (Except OsError Utf8.Octets × State) :=
  match s.descriptor? process descriptor with
  | none => some (.error .badDescriptor, s)
  | some (number, o) =>
    if !o.readable then some (.error .badDescriptor, s)
    else
      let taken (content : Utf8.Octets) (s : State) : Option (Except OsError Utf8.Octets × State) :=
        let octets := (content.drop o.position).take n
        some (.ok octets,
          s.changeOpening number fun o => { o with position := o.position + octets.length })
      match o.target with
      | .file place => let s := s.settle; taken (s.content place) s
      | .loose content => taken content s
      | .directory _ => some (.error .isDirectory, s)
      | .device .null => some (.ok [], s)
      | .device _ => some (.ok (List.replicate n 0), s)
      | .reading pipe =>
        match s.pipes.lookup pipe with
        | none => some (.ok [], s)
        | some channel =>
          if 0 < channel.size then
            let (octets, left) := channel.pop n
            some (.ok octets, s.changePipe pipe fun _ => left)
          else if s.isWritten pipe then none
          else some (.ok [], s)
      | .captured _ _ | .writing _ => some (.error .badDescriptor, s)

def overlay (content : Utf8.Octets) (position : Nat) (octets : Utf8.Octets) : Utf8.Octets :=
  content.take position ++ List.replicate (position - content.length) 0 ++ octets ++
    content.drop (position + octets.length)

def writeNow? (s : State) (process descriptor : Nat) (octets : Utf8.Octets) :
    Option (Except OsError Nat × State) :=
  match s.descriptor? process descriptor with
  | none => some (.error .badDescriptor, s)
  | some (number, o) =>
    if !o.writable then some (.error .badDescriptor, s)
    else
      let n := octets.length
      match o.target with
      | .captured run stream =>
        some (.ok n, if run = s.run then
            { s with writes := (s.clock, stream, octets) :: s.writes, written := s.written + n }
          else s)
      | .file place =>
        let length := s.length place
        if o.appends || o.position = length then
          some (.ok n, (s.append place octets).changeOpening number fun o =>
            { o with position := length + n })
        else
          let s := s.settle
          some (.ok n,
            (s.setContent place (overlay (s.content place) o.position octets)).changeOpening number
              fun o => { o with position := o.position + n })
      | .loose content =>
        let at_ := if o.appends then content.length else o.position
        some (.ok n, s.changeOpening number fun o =>
          { o with target := .loose (overlay content at_ octets), position := at_ + n })
      | .device .full => some (.error .noSpace, s)
      | .device _ => some (.ok n, s)
      | .writing pipe =>
        if !s.isRead pipe then some (.error .brokenPipe, s.send process Signal.brokenPipe)
        else
          match s.pipes.lookup pipe with
          | none => some (.error .brokenPipe, s.send process Signal.brokenPipe)
          | some channel =>
            let room := Channel.capacity - channel.size
            -- A short piece goes in as a whole.
            if room = 0 || (n ≤ 4096 && room < n) then none
            else
              let part := octets.take room
              some (.ok part.length, s.changePipe pipe fun c => c.push part)
      | _ => some (.error .badDescriptor, s)

end State

namespace Act

def read (descriptor n : Nat) : Act (Except OsError Utf8.Octets) := do
  match ← doing fun self s => match s.readNow? self descriptor n with
    | some (result, s) => (some result, s)
    | none => (none, s) with
  | some result => return result
  | none =>
    await (fun self s => (s.readNow? self descriptor 1).isSome ||
      (s.entry? self).any fun e => !e.delivered.isEmpty) none
    doing fun self s => (s.readNow? self descriptor n).getD (.ok [], s)

def readAllWithin (descriptor : Nat) : Nat → List Utf8.Octets → Act (Except OsError Utf8.Octets)
  | 0, chunks => return .ok chunks.reverse.flatten
  | room + 1, chunks => do
    match ← read descriptor Channel.capacity with
    | .error e => return .error e
    | .ok [] => return .ok chunks.reverse.flatten
    | .ok octets => readAllWithin descriptor room (octets :: chunks)

def readAll (descriptor : Nat) : Act (Except OsError Utf8.Octets) :=
  readAllWithin descriptor 512 []

def writeWithin (descriptor : Nat) : Nat → Utf8.Octets → Act (Except OsError Unit)
  | 0, _ => return .ok ()
  | room + 1, octets => do
    if octets.isEmpty then return .ok ()
    let attempt : Act (Option (Except OsError Nat)) :=
      doing fun self s => match s.writeNow? self descriptor octets with
        | some (result, s) => (some result, s)
        | none => (none, s)
    match ← attempt with
    | some (.ok n) =>
      if n = octets.length then return .ok () else writeWithin descriptor room (octets.drop n)
    | some (.error e) => return .error e
    | none =>
      await (fun self s => (s.writeNow? self descriptor octets).isSome) none
      writeWithin descriptor room octets

def write (descriptor : Nat) (octets : Utf8.Octets) : Act (Except OsError Unit) :=
  writeWithin descriptor (2 * octets.length + 2) octets

def say (descriptor : Nat) (text : String) : Act (Except OsError Unit) :=
  write descriptor (Raw.toOctets text)

def complain (text : String) : Act Unit := do
  let _ ← say 2 (text ++ "\n")

def openAt (first : Nat) (path : String) (m : Manner) (isPrivate : Bool) :
    Act (Except OsError Nat) :=
  doing fun self s =>
    match s.openPath self path m with
    | .error e => (.error e, s)
    | .ok (opening, s) =>
      let number := ((s.entry? self).map fun e => State.freeDescriptor e first).getD first
      (.ok number, s.setDescriptor self number (some ⟨opening, isPrivate⟩))

def openOnto (descriptor : Nat) (path : String) (m : Manner) : Act (Except OsError Unit) :=
  doing fun self s =>
    match s.openPath self path m with
    | .error e => (.error e, s)
    | .ok (opening, s) => (.ok (), s.setDescriptor self descriptor (some ⟨opening, false⟩))

def documentOnto (descriptor : Nat) (content : Utf8.Octets) : Act Unit := doing fun self s =>
  let (opening, s) := s.open_ { target := .loose content }
  ((), s.setDescriptor self descriptor (some ⟨opening, false⟩))

def close (descriptor : Nat) : Act Unit :=
  doing fun self s => ((), s.setDescriptor self descriptor none)

def duplicate (source goal : Nat) : Act Bool := doing fun self s =>
  match (s.entry? self).bind fun e => e.descriptors.lookup source with
  | some d =>
    (true, if source = goal then s.setDescriptor self goal (some ⟨d.opening, false⟩)
      else s.setDescriptor self goal (some ⟨d.opening, false⟩))
  | none => (false, s)

def duplicateFrom (first source : Nat) : Act (Option Nat) := doing fun self s =>
  match s.entry? self with
  | none => (none, s)
  | some e =>
    match e.descriptors.lookup source with
    | none => (none, s)
    | some d =>
      let number := State.freeDescriptor e first
      (some number, s.setDescriptor self number (some ⟨d.opening, true⟩))

def pipe : Act (Nat × Nat) := doing fun self s =>
  let number := s.next
  let s := { s with next := number + 1, pipes := (number, {}) :: s.pipes }
  let (input, s) := s.open_ { target := .reading number }
  let (output, s) := s.open_ { target := .writing number, readable := false, writable := true }
  match s.entry? self with
  | none => ((0, 0), s)
  | some e =>
    let first := State.freeDescriptor e 0
    let second := State.freeDescriptor
      { e with descriptors := (first, ⟨input, false⟩) :: e.descriptors } 0
    let s := s.changeEntry self fun e =>
      { e with descriptors := (second, ⟨output, false⟩) :: (first, ⟨input, false⟩) :: e.descriptors }
    ((first, second), s)

def attempt {α : Type} (f : Nat → State → Except OsError (α × State)) : Act (Except OsError α) :=
  doing fun self s => match f self s with
    | .ok (a, s) => (.ok a, s)
    | .error e => (.error e, s)

def change (f : Nat → State → Except OsError State) : Act (Except OsError Unit) :=
  attempt fun self s => (f self s).map fun s => ((), s)

def kill (process signal : Nat) : Act Bool := doing fun _ s =>
  match s.entry? process with
  | some _ => (true, s.send process signal)
  | none => (false, s)

end Act

end Converge.Process
