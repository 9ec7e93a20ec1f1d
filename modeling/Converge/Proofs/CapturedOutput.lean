import Mathlib.Tactic.SplitIfs
import Converge.Execution.Run

set_option autoImplicit false

namespace Converge

open Execution (Stream)

def CommandResult.output (r : CommandResult) : Stream → String
  | .stdout => r.stdout
  | .stderr => r.stderr

namespace Execution

open Text

namespace Pipe

def Reader.inHand : Reader → Utf8.Octets
  | .holding octets => octets
  | _ => []

def Reader.foundEnd : Reader → Bool
  | .stopped atEnd | .gone atEnd => atEnd
  | _ => false

def Reader.isGone : Reader → Bool
  | .gone _ => true
  | _ => false

/-- A pipe to which `stream` was written, held open or not, and with its buffer taken or not. -/
structure Sound (held taken : Bool) (stream : Utf8.Octets) (p : Pipe) : Prop where
  -- Every octet is in one place, in the order in which it was written.
  kept : p.taken.getD [] ++ p.buffer ++ p.reader.inHand ++ p.pending = stream
  ended : p.reader.foundEnd = true → p.pending = [] ∧ held = false
  told : (p.word || p.closed) = true → p.reader.isGone = true
  taken_eq : p.taken.isSome = taken
  drained : taken = true → p.closed = true → p.buffer = []

namespace Sound

variable {held taken : Bool} {stream : Utf8.Octets} {p : Pipe}

theorem released (sound : p.Sound held taken stream) {still : Bool}
    (fewer : still = true → held = true) : p.Sound still taken stream := by
  refine { sound with ended := fun found => ?_ }
  obtain ⟨empty, free⟩ := sound.ended found
  exact ⟨empty, by cases still <;> simp_all⟩

theorem write (sound : p.Sound true taken stream) (octets : Utf8.Octets) :
    (p.write octets).Sound true taken (stream ++ octets) := by
  refine { sound with kept := ?_, ended := fun found => ?_ }
  · rw [← sound.kept]
    simp [Pipe.write]
  · -- The reader has not found the end of a pipe that somebody holds.
    exact absurd (sound.ended found).2 (by decide)

theorem read (sound : p.Sound held taken stream) (size : Nat) :
    (p.read held size).Sound held taken stream := by
  unfold Pipe.read
  split
  case h_2 => exact sound
  case h_1 reading =>
    have kept := sound.kept
    have unheard : (p.word || p.closed) = false := by
      simpa [reading, Reader.isGone] using sound.told
    split_ifs with empty open_ nothing
    · exact sound
    · refine { sound with kept := ?_, ended := fun _ => ?_, told := ?_ }
      · simpa [reading, Reader.inHand] using kept
      · exact ⟨List.isEmpty_iff.1 empty, by simpa using open_⟩
      · simp [unheard]
    · exact sound
    · refine { sound with kept := ?_, ended := ?_, told := ?_ }
      · simpa [reading, Reader.inHand] using kept
      · simp [Reader.foundEnd]
      · simp [unheard]

theorem fail (sound : p.Sound held taken stream) : p.fail.Sound held taken stream := by
  unfold Pipe.fail
  split
  case h_2 => exact sound
  case h_1 reading =>
    refine { sound with kept := ?_, ended := ?_, told := ?_ }
    · simpa [reading, Reader.inHand] using sound.kept
    · simp [Reader.foundEnd]
    · simpa [reading, Reader.isGone] using sound.told

theorem store (sound : p.Sound held taken stream) : p.store.Sound held taken stream := by
  unfold Pipe.store
  split
  case h_2 => exact sound
  case h_1 octets holding =>
    -- The caller has not heard from a reader at work, so that an emptied buffer may fill again.
    have unheard : (p.word || p.closed) = false := by
      simpa [holding, Reader.isGone] using sound.told
    refine { sound with kept := ?_, ended := ?_, told := ?_, drained := ?_ }
    · simpa [holding, Reader.inHand] using sound.kept
    · simp [Reader.foundEnd]
    · simp [unheard]
    · intro _ closed
      simp [show p.closed = true from closed] at unheard

theorem send (sound : p.Sound held taken stream) : p.send.Sound held taken stream := by
  unfold Pipe.send
  split
  case h_2 => exact sound
  case h_1 atEnd stopped =>
    refine { sound with kept := ?_, ended := ?_, told := ?_ }
    · simpa [stopped, Reader.inHand] using sound.kept
    · simpa [stopped, Reader.foundEnd] using sound.ended
    · simp [Reader.isGone]

theorem receive (sound : p.Sound held false stream) (word : p.word = true) :
    p.receive.Sound held false stream where
  kept := sound.kept
  ended := sound.ended
  told := fun _ => sound.told (by simp [word])
  taken_eq := sound.taken_eq
  drained := fun taken => absurd taken (by decide)

theorem take (sound : p.Sound held false stream) : p.take.Sound held true stream where
  kept := by
    have first : p.taken = none := by simpa using sound.taken_eq
    simpa [Pipe.take, first] using sound.kept
  ended := sound.ended
  told := sound.told
  taken_eq := rfl
  drained := fun _ _ => rfl

theorem taken_front (sound : p.Sound held taken stream) : p.taken.getD [] <+: stream := by
  rw [← sound.kept, List.append_assoc, List.append_assoc]
  exact List.prefix_append _ _

theorem taken_whole (sound : p.Sound held true stream) (closed : p.closed = true)
    (found : p.reader.foundEnd = true) : p.taken.getD [] = stream := by
  -- Whoever is gone has nothing in hand, and the end was found with nothing left in the pipe.
  have gone := sound.told (by simp [closed])
  have empty : p.reader.inHand = [] := by
    cases reader : p.reader <;> simp [reader, Reader.isGone, Reader.inHand] at gone ⊢
  rw [← sound.kept, sound.drained rfl closed, empty, (sound.ended found).1]
  simp

end Sound

end Pipe

variable {σ : Type}

def Caller.hasTaken : Caller σ → Stream → Bool
  | .taking .stderr _, .stdout => true
  | .returned _, _ => true
  | _, _ => false

theorem Caller.hasTaken_awaited (s t : Stream) (status : σ) :
    (awaiting s status).next.hasTaken t = (awaiting s status).hasTaken t := by
  cases s <;> rfl

theorem Caller.hasTaken_next (s t : Stream) (status : σ) :
    (taking s status).next.hasTaken t = (decide (t = s) || (taking s status).hasTaken t) := by
  cases s <;> cases t <;> rfl

namespace Capture

theorem pipe_change (c : Capture σ) (f : Pipe → Pipe) (s t : Stream) :
    (c.change f s).pipe t = if t = s then f (c.pipe t) else c.pipe t := by
  cases s <;> cases t <;> rfl

theorem change_isHeld (c : Capture σ) (f : Pipe → Pipe) (s t : Stream) :
    (c.change f s).isHeld t = c.isHeld t := by
  cases s <;> rfl

theorem change_caller (c : Capture σ) (f : Pipe → Pipe) (s : Stream) :
    (c.change f s).caller = c.caller := by
  cases s <;> rfl

theorem isHeld_of_mem {c : Capture σ} {h : Nat × Stream} (member : h ∈ c.holders) :
    c.isHeld h.2 = true :=
  List.any_eq_true.2 ⟨h, member, by simp⟩

def octetsTo (c : Capture σ) (s : Stream) : Step σ → Utf8.Octets
  | .write process stream octets => if stream = s ∧ c.holds process stream then octets else []
  | _ => []

-- What is written to a pipe in a run.
def written (s : Stream) : Capture σ → List (Step σ) → Utf8.Octets
  | _, [] => []
  | c, step :: rest => c.octetsTo s step ++ written s (c.step step) rest

def Sound (c : Capture σ) (streams : Stream → Utf8.Octets) : Prop :=
  ∀ s, (c.pipe s).Sound (c.isHeld s) (c.caller.hasTaken s) (streams s)

section

variable {c : Capture σ} {streams : Stream → Utf8.Octets}

theorem Sound.change (sound : c.Sound streams) {f : Pipe → Pipe} {s : Stream}
    (here : (f (c.pipe s)).Sound (c.isHeld s) (c.caller.hasTaken s) (streams s)) :
    (c.change f s).Sound streams := by
  intro t
  rw [pipe_change, change_isHeld, change_caller]
  split_ifs with same
  · exact same ▸ here
  · exact sound t

theorem Sound.release (sound : c.Sound streams) {holders : List (Nat × Stream)}
    (fewer : ∀ h ∈ holders, c.isHeld h.2 = true) (status : Option σ) :
    { c with holders := holders, status := status }.Sound streams := by
  intro s
  refine (sound s).released fun held => ?_
  obtain ⟨h, member, same⟩ := List.any_eq_true.1 held
  obtain rfl : h.2 = s := by simpa using same
  exact fewer h member

theorem Sound.goOn (sound : c.Sound streams) {caller : Caller σ}
    (same : ∀ s, caller.hasTaken s = c.caller.hasTaken s) :
    { c with caller := caller }.Sound streams := by
  intro s
  change (c.pipe s).Sound (c.isHeld s) (caller.hasTaken s) (streams s)
  rw [same]
  exact sound s

theorem Sound.write (sound : c.Sound streams) {process : Nat} {s : Stream}
    (holds : c.holds process s = true) (octets : Utf8.Octets) :
    (c.change (·.write octets) s).Sound
      (fun t => streams t ++ c.octetsTo t (.write process s octets)) := by
  intro t
  rw [pipe_change, change_isHeld, change_caller]
  by_cases same : t = s
  · subst same
    have held : c.isHeld t = true := isHeld_of_mem (List.contains_iff_mem.1 holds)
    have before := sound t
    rw [held] at before ⊢
    simpa [octetsTo, holds] using before.write octets
  · simpa [octetsTo, same, Ne.symm same] using sound t

theorem Sound.receive (sound : c.Sound streams) {s : Stream} {status : σ}
    (awaiting : c.caller = .awaiting s status) (word : (c.pipe s).word = true) :
    { c.change (·.receive) s with caller := c.caller.next }.Sound streams := by
  have first : c.caller.hasTaken s = false := by
    rw [awaiting]
    cases s <;> rfl
  have here := sound s
  rw [first] at here
  refine (sound.change (first ▸ here.receive word)).goOn fun t => ?_
  rw [change_caller, awaiting, Caller.hasTaken_awaited]

theorem Sound.take (sound : c.Sound streams) {s : Stream} {status : σ}
    (taking : c.caller = .taking s status) :
    { c.change (·.take) s with caller := c.caller.next }.Sound streams := by
  intro t
  change ((c.change (·.take) s).pipe t).Sound ((c.change (·.take) s).isHeld t)
    (c.caller.next.hasTaken t) (streams t)
  have before := sound t
  rw [taking] at before
  rw [pipe_change, change_isHeld, taking, Caller.hasTaken_next]
  by_cases same : t = s
  · subst same
    have first : (Caller.taking t status).hasTaken t = false := by cases t <;> rfl
    rw [first] at before
    simpa using before.take
  · simpa [same] using before

-- Whoever takes a step keeps the order, and only writers add to the streams.
theorem Sound.step (sound : c.Sound streams) (e : Step σ) :
    (c.step e).Sound (fun s => streams s ++ c.octetsTo s e) := by
  cases e <;> simp only [Capture.step, octetsTo, List.append_nil]
  case write process s octets =>
    split_ifs with holds
    · exact sound.write holds octets
    · simpa [holds] using sound
  case pass giver taker s =>
    split_ifs with holds
    · refine sound.release (List.forall_mem_cons.2 ⟨?_, fun h => isHeld_of_mem⟩) c.status
      exact isHeld_of_mem (h := (giver, s)) (List.contains_iff_mem.1 holds)
    · exact sound
  case close process s =>
    exact sound.release (fun h member => isHeld_of_mem (List.mem_filter.1 member).1) c.status
  case exit process status =>
    exact sound.release (fun h member => isHeld_of_mem (List.mem_filter.1 member).1) _
  case read s size => exact sound.change ((sound s).read size)
  case fail s => exact sound.change (sound s).fail
  case store s => exact sound.change (sound s).store
  case send s => exact sound.change (sound s).send
  -- The caller's own steps leave all as it is where they are not possible.
  case look =>
    split
    case h_1 status watching ended => exact sound.goOn fun s => by rw [watching]; rfl
    case h_2 => exact sound
  case giveUp =>
    split
    case h_1 watching => exact sound.goOn fun s => by rw [watching]; rfl
    case h_2 => exact sound
  case receive =>
    split
    case h_1 s status awaiting =>
      split_ifs with word
      · exact sound.receive awaiting word
      · exact sound
    case h_2 => exact sound
  case cutOff =>
    split
    case h_1 s status awaiting =>
      exact sound.goOn fun t => by rw [awaiting, Caller.hasTaken_awaited]
    case h_2 => exact sound
  case take =>
    split
    case h_1 s status taking => exact sound.take taking
    case h_2 => exact sound

theorem Sound.run (sound : c.Sound streams) (steps : List (Step σ)) :
    (c.run steps).Sound (fun s => streams s ++ written s c steps) := by
  induction steps generalizing c streams with
  | nil => simpa [written, Capture.run] using sound
  | cons e rest ih => simpa [written, Capture.run, List.append_assoc] using ih (sound.step e)

end

theorem sound_start : ({} : Capture σ).Sound (fun _ => []) := by
  intro s
  cases s <;> exact ⟨rfl, by simp [pipe, Pipe.Reader.foundEnd], by simp [pipe], rfl, by simp [pipe]⟩

end Capture

theorem conclude_captures {ρ : Type} {ps : Processes ρ} {timeout start deadline process : Nat}
    {host : Host ρ} {c : Command} {waited : Waited (Option Int)} {w : World ρ} {r : CommandResult}
    (ok : (conclude ps timeout start deadline host c process waited w).result = .ok r) :
    ∃ steps status, (Capture.run {} steps).caller = .returned status ∧
      r = resultOf status (Capture.run {} steps) := by
  simp only [conclude] at ok
  generalize (obey ps process waited.orders w).2 = after at ok
  split at ok
  case h_1 => cases ok
  case h_2 status _ =>
    split at ok
    case h_1 => cases ok
    case h_2 graceEnd _ =>
      exact ⟨_, status, (ps.drain process status (min graceEnd deadline) after).returns,
        (Except.ok.inj ok).symm⟩

theorem run_captures {ρ : Type} {ps : Processes ρ} {timeout : Nat} {host : Host ρ} {c : Command}
    {r : CommandResult} (ok : (run ps timeout host c).result = .ok r) :
    ∃ steps status, (Capture.run {} steps).caller = .returned status ∧
      r = resultOf status (Capture.run {} steps) := by
  unfold run at ok
  split at ok
  case h_1 => cases ok
  case h_2 =>
    split at ok
    case h_1 => cases ok
    case h_2 => exact conclude_captures ok

namespace Capture

theorem sound_of_returned {steps : List (Step σ)} {status : σ}
    (returned : (run {} steps).caller = .returned status) (s : Stream) :
    ((run {} steps).pipe s).Sound ((run {} steps).isHeld s) true (written s {} steps) := by
  have sound := sound_start.run steps s
  rw [returned] at sound
  exact sound

theorem output_resultOf (status : Option Int) (c : Capture (Option Int)) (s : Stream) :
    (resultOf status c).output s = ofOctetsLossy ((c.pipe s).taken.getD []) := by
  cases s <;> rfl

/-- What is told of a stream is the text of a front of it, and only the length of that depends on how
the readers cut it and on who came when. -/
theorem result_tells_fronts (steps : List (Step (Option Int))) {status : Option Int}
    (returned : (run {} steps).caller = .returned status) (s : Stream) :
    let c := run {} steps
    let stream := written s {} steps
    let front := (c.pipe s).taken.getD []
    front <+: stream ∧ (resultOf status c).output s = ofOctetsLossy front ∧
      ((c.pipe s).closed = true → (c.pipe s).reader.foundEnd = true → front = stream) ∧
      ∀ steps' status', let c' := run {} steps'
        c'.caller = .returned status' → written s {} steps' = stream →
        ((c'.pipe s).taken.getD []).length = front.length →
        (resultOf status' c').output s = (resultOf status c).output s := by
  intro c stream front
  have sound := sound_of_returned returned s
  refine ⟨sound.taken_front, output_resultOf status c s, sound.taken_whole, ?_⟩
  intro steps' status' c' returned' same long
  have other := (sound_of_returned returned' s).taken_front
  rw [same] at other
  -- Two fronts of one stream that are equally long are one.
  have shorter := List.prefix_of_prefix_length_le other sound.taken_front (Nat.le_of_eq long)
  rw [output_resultOf, output_resultOf, shorter.eq_of_length long]

/-- The process leaves its output to another one, which ends a character that it began, but only
when the caller has taken the buffer. -/
def torn : List (Step (Option Int)) :=
  [.write 0 .stdout [0x61, 0xC3], .read .stdout 1, .store .stdout, .pass 0 1 .stdout,
    .write 0 .stderr [0x21], .exit 0 (some 0), .look, .read .stdout 8, .store .stdout,
    .read .stderr 8, .store .stderr, .read .stderr 8, .send .stderr, .cutOff, .receive, .take,
    .write 1 .stdout [0xA9], .read .stdout 8, .store .stdout, .take]

theorem result_tells_fronts_torn :
    let c := run {} torn
    c.caller = .returned (some 0) ∧ written .stdout {} torn = [0x61, 0xC3, 0xA9] ∧
      (∃ front, front <+: written .stdout {} torn ∧ "a\uFFFD" = ofOctetsLossy front) ∧
      (resultOf (some 0) c).stderr = ofOctetsLossy (written .stderr {} torn) := by
  intro c
  have returned : (run {} torn).caller = .returned (some 0) := by decide
  obtain ⟨before, output, -⟩ := result_tells_fronts torn returned .stdout
  obtain ⟨-, errors, whole, -⟩ := result_tells_fronts torn returned .stderr
  have cut : (resultOf (some 0) c).stdout = "a\uFFFD" := by decide
  refine ⟨returned, by decide, ⟨_, before, cut.symm.trans output⟩, ?_⟩
  rw [← whole (by decide) (by decide)]
  exact errors

end Capture

end Execution

end Converge
