import Converge.Text.Utf8

set_option autoImplicit false

namespace Converge.Execution

open Converge.Text

inductive Stream where
  | stdout
  | stderr
  deriving DecidableEq, Repr

/-- Where the reader of a pipe stands. -/
inductive Pipe.Reader where
  | reading
  -- It has taken octets from the pipe that are not in the buffer yet.
  | holding (octets : Utf8.Octets)
  -- It reads no more, at the end of the pipe or after a failure.
  | stopped (atEnd : Bool)
  -- It has sent word that it stopped.
  | gone (atEnd : Bool)
  deriving DecidableEq, Repr

/-- One pipe with its reader, and what the caller has got from them. -/
structure Pipe where
  pending : Utf8.Octets := []
  reader : Pipe.Reader := .reading
  buffer : Utf8.Octets := []
  -- The reader's word is on its way.
  word : Bool := false
  closed : Bool := false
  taken : Option Utf8.Octets := none
  deriving DecidableEq, Repr

namespace Pipe

def write (p : Pipe) (octets : Utf8.Octets) : Pipe := { p with pending := p.pending ++ octets }

/-- The reader takes at most so many octets; with nothing left to come it finds the end. -/
def read (p : Pipe) (held : Bool) (size : Nat) : Pipe :=
  match p.reader with
  | .reading =>
    if p.pending.isEmpty then
      if held then p else { p with reader := .stopped true }
    else if size = 0 then p
    else { p with reader := .holding (p.pending.take size), pending := p.pending.drop size }
  | _ => p

def fail (p : Pipe) : Pipe :=
  match p.reader with
  | .reading => { p with reader := .stopped false }
  | _ => p

-- The reader adds to the buffer what it has taken from the pipe.
def store (p : Pipe) : Pipe :=
  match p.reader with
  | .holding octets => { p with reader := .reading, buffer := p.buffer ++ octets }
  | _ => p

def send (p : Pipe) : Pipe :=
  match p.reader with
  | .stopped atEnd => { p with reader := .gone atEnd, word := true }
  | _ => p

def receive (p : Pipe) : Pipe := { p with word := false, closed := true }

-- The caller takes the buffer and leaves an empty one behind.
def take (p : Pipe) : Pipe := { p with buffer := [], taken := some p.buffer }

def text (p : Pipe) : String := ofOctetsLossy (p.taken.getD [])

theorem filled (octets : Utf8.Octets) :
    ((({} : Pipe).write octets).read true octets.length).store = { buffer := octets } := by
  cases octets with
  | nil => rfl
  | cons first rest => simp [write, read, store]

end Pipe

/-- Where the caller stands. Of the two pipes, the one for errors always comes second. -/
inductive Caller (σ : Type) where
  -- It looks whether the process has ended.
  | watching
  | awaiting (stream : Stream) (status : σ)
  | taking (stream : Stream) (status : σ)
  | returned (status : σ)
  -- It gave up on the process.
  | failed
  deriving DecidableEq, Repr

def Caller.next {σ : Type} : Caller σ → Caller σ
  | .awaiting .stdout status => .awaiting .stderr status
  | .awaiting .stderr status => .taking .stdout status
  | .taking .stdout status => .taking .stderr status
  | .taking .stderr status => .returned status
  | caller => caller

/-- A process that was started, its readers and its caller. -/
structure Capture (σ : Type) where
  stdout : Pipe := {}
  stderr : Pipe := {}
  -- Which processes hold which pipes open. The process that was started has number zero.
  holders : List (Nat × Stream) := [(0, .stdout), (0, .stderr)]
  status : Option σ := none
  caller : Caller σ := .watching
  deriving DecidableEq, Repr

namespace Capture

variable {σ : Type}

inductive Step (σ : Type) where
  | write (process : Nat) (stream : Stream) (octets : Utf8.Octets)
  -- A process passes a pipe on, as to one that it starts.
  | pass (giver taker : Nat) (stream : Stream)
  | close (process : Nat) (stream : Stream)
  | exit (process : Nat) (status : σ)
  | read (stream : Stream) (size : Nat)
  | fail (stream : Stream)
  | store (stream : Stream)
  | send (stream : Stream)
  -- The caller looks at the process.
  | look
  | giveUp
  -- The caller receives the word that it waits for.
  | receive
  -- The caller waits no longer for a word.
  | cutOff
  | take
  deriving DecidableEq, Repr

def pipe (c : Capture σ) : Stream → Pipe
  | .stdout => c.stdout
  | .stderr => c.stderr

def change (c : Capture σ) (f : Pipe → Pipe) : Stream → Capture σ
  | .stdout => { c with stdout := f c.stdout }
  | .stderr => { c with stderr := f c.stderr }

def holds (c : Capture σ) (process : Nat) (stream : Stream) : Bool :=
  c.holders.contains (process, stream)

def isHeld (c : Capture σ) (stream : Stream) : Bool := c.holders.any (·.2 = stream)

def step (c : Capture σ) : Step σ → Capture σ
  | .write process stream octets =>
    if c.holds process stream then c.change (·.write octets) stream else c
  | .pass giver taker stream =>
    if c.holds giver stream then { c with holders := (taker, stream) :: c.holders } else c
  | .close process stream => { c with holders := c.holders.filter (· ≠ (process, stream)) }
  | .exit process status =>
    { c with
      holders := c.holders.filter (·.1 ≠ process)
      status := if process = 0 then c.status <|> some status else c.status }
  | .read stream size => c.change (·.read (c.isHeld stream) size) stream
  | .fail stream => c.change (·.fail) stream
  | .store stream => c.change (·.store) stream
  | .send stream => c.change (·.send) stream
  | .look =>
    match c.caller, c.status with
    | .watching, some status => { c with caller := .awaiting .stdout status }
    | _, _ => c
  | .giveUp =>
    match c.caller with
    | .watching => { c with caller := .failed }
    | _ => c
  | .receive =>
    match c.caller with
    | .awaiting stream _ =>
      if (c.pipe stream).word then { c.change (·.receive) stream with caller := c.caller.next }
      else c
    | _ => c
  | .cutOff =>
    match c.caller with
    | .awaiting _ _ => { c with caller := c.caller.next }
    | _ => c
  | .take =>
    match c.caller with
    | .taking stream _ => { c.change (·.take) stream with caller := c.caller.next }
    | _ => c

def run (c : Capture σ) (steps : List (Step σ)) : Capture σ := steps.foldl step c

def isClosed (c : Capture σ) : Bool := c.stdout.closed && c.stderr.closed

/-- A course in which so much is written and all of it is read in time. A pipe that stays open is
left to another process. -/
def course (status : σ) (octets : Stream → Utf8.Octets) (isOpen : Stream → Bool) : List (Step σ) :=
  let streams := [Stream.stdout, .stderr]
  (streams.flatMap fun s => [.write 0 s (octets s), .read s (octets s).length, .store s]) ++
  (streams.flatMap fun s => if isOpen s then [.pass 0 1 s] else []) ++
  [.exit 0 status, .look] ++
  (streams.flatMap fun s => if isOpen s then [] else [.read s 1, .send s]) ++
  (streams.map fun s => if isOpen s then .cutOff else .receive) ++
  [.take, .take]

theorem run_append (c : Capture σ) (front back : List (Step σ)) :
    c.run (front ++ back) = (c.run front).run back := List.foldl_append

theorem run_course (status : σ) (octets : Stream → Utf8.Octets) (isOpen : Stream → Bool) :
    let c := run {} (course status octets isOpen)
    c.caller = .returned status ∧
      ∀ s, (c.pipe s).taken = some (octets s) ∧ (c.pipe s).closed = !isOpen s := by
  have filled : run ({} : Capture σ) ([Stream.stdout, .stderr].flatMap fun s =>
      [.write 0 s (octets s), .read s (octets s).length, .store s]) =
      { stdout := { buffer := octets .stdout }, stderr := { buffer := octets .stderr } } := by
    change ({
      stdout := ((({} : Pipe).write (octets .stdout)).read true _).store
      stderr := ((({} : Pipe).write (octets .stderr)).read true _).store } : Capture σ) = _
    rw [Pipe.filled, Pipe.filled]
  simp only [course, run_append, filled]
  -- What is left of the course does not depend on the octets, only on which pipes stay open.
  cases out : isOpen .stdout <;> cases err : isOpen .stderr <;>
    simp only [List.flatMap_cons, List.map_cons, out, err] <;>
    refine ⟨rfl, fun s => ?_⟩ <;> cases s <;> simp only [out, err] <;> exact ⟨rfl, rfl⟩

end Capture

end Converge.Execution
