import Converge.Execution.Capture
import Converge.Execution.Wait
import Converge.Host

set_option autoImplicit false

namespace Converge.Execution

/-- What an ended process left in its pipes came to its caller by these steps. -/
structure Drained (ρ : Type) (exitCode : Option Int) where
  steps : List (Capture.Step (Option Int))
  returns : (Capture.run {} steps).caller = .returned exitCode
  world : World ρ

/-- The processes of a world, as their caller meets them. -/
structure Processes (ρ : Type) where
  -- Starts the program of a command and gives the number of its process.
  spawn : Command → World ρ → Except OsError (Nat × World ρ)
  look : Nat → World ρ → Observation (Option Int) × World ρ
  sleep : Nat → World ρ → World ρ
  order : Order → Nat → World ρ → Option OsError × World ρ
  -- Waits for the ends of both pipes, at most up to a time.
  drain : Nat → (exitCode : Option Int) → Nat → World ρ → Drained ρ exitCode
  clock_le_look : ∀ process w, w.clock ≤ (look process w).2.clock
  clock_le_sleep : ∀ duration w, w.clock + duration ≤ (sleep duration w).clock

-- How long the pipes may stay open after the end of a process.
def grace : Nat := 250 * millisecond

variable {ρ : Type} (ps : Processes ρ)

def await (process deadline : Nat) (w : World ρ) : Waited (Option Int) × World ρ :=
  let seen := (ps.look process w).2
  match (ps.look process w).1 with
  | .exited exitCode => (⟨.exited exitCode, [], 1⟩, seen)
  | .unknown reason => (⟨.lost reason, [], 1⟩, seen)
  | .running =>
    if deadline ≤ (ps.look process w).2.clock then (⟨.timedOut, [.kill, .reap], 1⟩, seen)
    else
      let (waited, after) := await process deadline (ps.sleep pollInterval seen)
      ({ waited with polls := waited.polls + 1 }, after)
  termination_by deadline - w.clock
  decreasing_by
    -- A look and a nap bring the clock nearer to a deadline that is still ahead.
    have looked := ps.clock_le_look process w
    have slept := ps.clock_le_sleep pollInterval (ps.look process w).2
    simp only [pollInterval] at slept ⊢
    omega

def startedEvent (c : Command) (timeout : Nat) : LogEvent :=
  ⟨.debug, .process, "Executing subprocess", [
    ("program", .text c.program),
    ("args", .text (Text.quotedList c.args)),
    ("timeout_secs", .nat (timeout / second))]⟩

def givenUpEvent (c : Command) (timeout : Nat) : LogEvent :=
  ⟨.warn, .process, "Process timed out, killing", [
    ("program", .text c.program), ("timeout_secs", .nat (timeout / second))]⟩

def aliveEvent (e : OsError) : LogEvent :=
  ⟨.warn, .process, "Failed to kill timed-out process", [("error", .text e.message)]⟩

def heldEvent (c : Command) : LogEvent :=
  ⟨.debug, .process, "Output pipes still held open after exit, keeping partial output", [
    ("program", .text c.program)]⟩

def completedEvent (result : CommandResult) (duration : Nat) : LogEvent :=
  ⟨.debug, .process, "Subprocess completed", [
    ("success", .bool result.success),
    ("exit_code", Log.exitCode result.exitCode),
    ("duration_ms", .nat (duration / millisecond))]⟩

/-- Gives the orders in turn. A process that cannot be killed is waited for all the same. -/
def obey (process : Nat) : List Order → World ρ → List LogEvent × World ρ
  | [], w => ([], w)
  | order :: rest, w =>
    let (refusal, after) := ps.order order process w
    let (events, left) := obey process rest after
    match order, refusal with
    | .kill, some e => (aliveEvent e :: events, left)
    | _, _ => (events, left)

def resultOf (exitCode : Option Int) (capture : Capture (Option Int)) : CommandResult where
  success := exitCode == some 0
  exitCode := exitCode
  stdout := capture.stdout.text
  stderr := capture.stderr.text

def Ending.told {σ : Type} (timeout : Nat) : Ending σ → Except ApplyError σ
  | .exited status => .ok status
  | .timedOut => .error (.command (.timeout (timeout / second)))
  | .lost reason => .error (.command (.notRun ("Failed to check process status: " ++ reason)))

/-- The program breaks down where it adds to the clock. No result comes of it, and the work ends. -/
def broken (host : Host ρ) (w : World ρ) (place : String) (events : List LogEvent) :
    Response ρ where
  result := .error (.command (.notRun overflow))
  host := { host with toWorld := w, crash := some ⟨place, overflow⟩ }
  events := events

def deadlinePlace : String := "src/executor/subprocess.rs:171:24"

def gracePlace : String := "src/executor/subprocess.rs:177:28"

-- What a run comes to when the waiting for its process has ended.
def conclude (timeout start deadline : Nat) (host : Host ρ) (c : Command) (process : Nat)
    (waited : Waited (Option Int)) (w : World ρ) : Response ρ :=
  let (refusals, after) := obey ps process waited.orders w
  match waited.ending.told timeout with
  | .error e =>
    { result := .error e
      host := { host with toWorld := after }
      events := startedEvent c timeout ::
        (if waited.ending matches .timedOut then [givenUpEvent c timeout] else []) ++ refusals }
  | .ok exitCode =>
    match later? after.clock grace with
    | none => broken host after gracePlace [startedEvent c timeout]
    | some graceEnd =>
      let drained := ps.drain process exitCode (min graceEnd deadline) after
      let capture := Capture.run {} drained.steps
      let result := resultOf exitCode capture
      { result := .ok result
        host := { host with toWorld := drained.world }
        events := startedEvent c timeout ::
          (if capture.isClosed then [] else [heldEvent c]) ++
            [completedEvent result (drained.world.clock - start)] }

-- Runs commands as processes, each for at most `timeout` nanoseconds.
def run (timeout : Nat) : Runner ρ := fun host c =>
  match ps.spawn c host.toWorld with
  | .error e =>
    { result := .error (.command (.notRun ("Failed to spawn " ++ c.program ++ ": " ++ e.message)))
      host := host
      events := [startedEvent c timeout] }
  | .ok (process, begun) =>
    match later? begun.clock timeout with
    -- The process runs already, and is left to itself.
    | none => broken host begun deadlinePlace [startedEvent c timeout]
    | some deadline =>
      let (waited, w) := await ps process deadline begun
      conclude ps timeout begun.clock deadline host c process waited w

end Converge.Execution
