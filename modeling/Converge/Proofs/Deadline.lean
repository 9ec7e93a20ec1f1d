import Mathlib
import Converge.Process.Hosting
import Converge.Proofs.Planning
import Converge.Proofs.Polling
import Converge.Settings.Load

set_option autoImplicit false

namespace Converge

namespace Execution

variable {ρ : Type}

theorem later?_eq (now duration : Nat) :
    later? now duration =
      if (now + duration) / second < clockSeconds then some (now + duration) else none := by
  have shows : now < clockSeconds * second - duration ↔ (now + duration) / second < clockSeconds := by
    rw [Nat.div_lt_iff_lt_mul (by decide), Nat.lt_sub_iff_add_lt]
  simp only [later?, shows]

theorem later?_seconds (now seconds : Nat) :
    later? now (seconds * second) =
      if now / second + seconds < clockSeconds then some (now + seconds * second) else none := by
  rw [later?_eq, Nat.add_mul_div_right _ _ (by decide)]

section

variable {ps : Processes ρ} {host : Host ρ} {c : Command} {timeout process : Nat} {begun : World ρ}
  (started : ps.spawn c host.toWorld = .ok (process, begun))

include started

theorem run_of_overflow (beyond : later? begun.clock timeout = none) :
    run ps timeout host c = broken host begun deadlinePlace [startedEvent c timeout] := by
  simp only [run, started, beyond]

theorem run_of_deadline {deadline : Nat} (due : later? begun.clock timeout = some deadline) :
    run ps timeout host c =
      conclude ps timeout begun.clock deadline host c process (await ps process deadline begun).1
        (await ps process deadline begun).2 := by
  simp only [run, started, due]

end

/-- A process that was started is waited for as long as the clock can show the end of its timeout:
the first look that decides makes the result, or the program breaks down over the grace for an end
near the end of the clock. With a longer timeout it breaks down at once, without a look. -/
theorem run_waits_iff_clock_shows {ps : Processes ρ} {host : Host ρ} {c : Command} {process : Nat}
    {begun : World ρ} (started : ps.spawn c host.toWorld = .ok (process, begun)) (seconds : Nat) :
    let response := run ps (seconds * second) host c
    let deadline := begun.clock + seconds * second
    if begun.clock / second + seconds < clockSeconds then
      ∃ before last seen, ps.Watched process begun (before ++ [last]) seen ∧
        (∀ earlier ∈ before, ¬ earlier.Decides deadline) ∧ last.Decides deadline ∧
        match last.seen with
        | .exited status =>
          match later? seen.clock grace with
          | some _ => response.host.crash = host.crash ∧
              ∃ r, response.result = .ok r ∧ r.exitCode = status ∧ r.success = (status == some 0)
          | none => response.host = { toWorld := seen, crash := some ⟨gracePlace, overflow⟩ }
        | .running =>
          response.result = .error (.command (.timeout seconds)) ∧
            response.host.toWorld = (ps.order .reap process (ps.order .kill process seen).2).2 ∧
            response.host.crash = host.crash
        | .unknown reason =>
          response.result =
              .error (.command (.notRun ("Failed to check process status: " ++ reason))) ∧
            response.host.toWorld = seen ∧ response.host.crash = host.crash
    else response.host = { toWorld := begun, crash := some ⟨deadlinePlace, overflow⟩ } := by
  intro response deadline
  have length : seconds * second / second = seconds := Nat.mul_div_cancel _ (by decide)
  have shown := later?_seconds begun.clock seconds
  split
  next inside =>
    have due : later? begun.clock (seconds * second) = some deadline := by
      rw [shown, if_pos inside]
    have ends := run_of_deadline started due
    have decided := await_decided deadline ps process begun
    generalize await ps process deadline begun = ended at ends decided
    obtain ⟨waited, seen⟩ := ended
    obtain ⟨before, last, watched, waits, decides, rfl⟩ := decided
    have told := conclude_told deadline ps process (seconds * second) begun.clock host c
      ⟨last.outcome, last.outcome.orders, before.length + 1⟩ seen
    rw [← ends] at told
    refine ⟨before, last, seen, watched, waits, decides, ?_⟩
    simp only [Poll.outcome] at told
    cases shows : last.seen with
    | exited status =>
      simp only [shows, Ending.told, Ending.orders, Processes.carryOut, List.foldl_nil] at told
      exact told
    | running =>
      simp only [shows, Ending.told, length] at told
      exact ⟨told.1, congrArg (·.toWorld) told.2, congrArg (·.crash) told.2⟩
    | unknown reason =>
      simp only [shows, Ending.told] at told
      exact ⟨told.1, congrArg (·.toWorld) told.2, congrArg (·.crash) told.2⟩
  next outside =>
    have beyond : later? begun.clock (seconds * second) = none := by rw [shown, if_neg outside]
    have breaks := run_of_overflow started beyond
    exact congrArg Response.host breaks

end Execution

namespace Process.Image

variable {files : FileSystem} {directory place : Location} {path tool : String}

theorem formAt_tool
    (found : files.lookUp (State.absolute directory path) = .ok (place, toolFile tool)) :
    formAt files directory path = .ok (.tool (Text.ofOctetsLossy (Text.toOctets tool))) := by
  have marked : mark.isPrefixOf (mark ++ Text.toOctets tool) = true :=
    List.isPrefixOf_iff_prefix.2 (List.prefix_append _ _)
  have named : (mark ++ Text.toOctets tool).drop mark.length = Text.toOctets tool := List.drop_left
  unfold formAt
  rw [found]
  simp only [toolFile, form, marked, named, if_true]

theorem load_tool (known : formAt files directory path = .ok (.tool tool)) (words : List String) :
    load files directory path words = .ok ⟨path, tool, words⟩ := by
  simp only [load, depthLimit, loadWithin, known]
  rfl

end Process.Image

namespace Sample

open Execution
open Process (Entry Image Machine State)

def awake : Host Machine where
  files := {
    nodes := [
      (["etc"], .directory true),
      (["etc", "init.d"], .directory true),
      (["etc", "init.d", "db"], Image.toolFile "db")] }
  clock := second
  wall := 0
  rest := .idle

def ask : Command := ⟨"/etc/init.d/db", ["status"]⟩

theorem image_ask : Process.image [] awake.files ask = .ok ⟨"/etc/init.d/db", "db", ["status"]⟩ := by
  have script : awake.files.lookUp "/etc/init.d/db" =
      .ok (["etc", "init.d", "db"], Image.toolFile "db") := by
    rw [FileSystem.lookUp, FileSystem.target_absolute _ _ ["etc", "init.d", "db"] (by decide)]
    simp [awake, FileSystem.walk, FileSystem.find?, List.lookup_cons, FileSystem.nameLimit,
      Text.Utf8.size, Char.utf8Size, Image.toolFile]
  have here : State.absolute awake.files.workingDirectory ask.program = "/etc/init.d/db" := by decide
  have named : Text.ofOctetsLossy (Text.toOctets "db") = "db" := by decide
  have known := Image.formAt_tool (here.symm ▸ script)
  rw [named] at known
  have clean : (ask.program :: ask.args).any (fun word => word.toList.contains (Char.ofNat 0)) =
      false := by decide
  have program : Text.Raw.ofText ask.program = ask.program := by decide
  have words : ask.args.map Text.Raw.ofText = ["status"] := by decide
  have slashed : ask.program.toList.contains '/' = true := by decide
  simp only [Process.image, clean, program, words, Image.find, slashed, Bool.false_eq_true,
    if_false, if_true]
  exact Image.load_tool known ["status"]

-- Whatever is started ends with status 3.
def ending : Processes Machine := Machine.processes (fun _ _ k => k 3) []

def begun : World Machine :=
  Machine.parked awake.toWorld {
    state := (Machine.awoken awake.toWorld).state.opened.2
    tasks := [(1001, .exit 3)]
    budget := Process.allowance }

theorem spawn_ask : ending.spawn ask awake.toWorld = .ok (1001, begun) := by
  have known : Process.image [] awake.toWorld.files ask = _ := image_ask
  simp only [ending, Machine.processes, Machine.spawn, known, Except.map]
  rfl

-- The world after a nap and a second look.
def ended : World Machine :=
  (ending.look 1001 (ending.sleep pollInterval (ending.look 1001 begun).2)).2

-- The first look shows the process running, and the second one its end.
theorem watched_begun {before : List (Poll (Option Int))} {last : Poll (Option Int)}
    {seen : World Machine} {deadline : Nat} (ahead : second < deadline)
    (watched : ending.Watched 1001 begun (before ++ [last]) seen)
    (waits : ∀ earlier ∈ before, ¬ earlier.Decides deadline) (decides : last.Decides deadline) :
    last.seen = .exited (some 3) ∧ seen = ended := by
  have running : ending.poll 1001 begun = ⟨.running, second⟩ := by decide
  have exited : (ending.poll 1001 (ending.sleep pollInterval (ending.look 1001 begun).2)).seen =
      .exited (some 3) := by
    decide +kernel
  have open_ : ¬ (ending.poll 1001 begun).Decides deadline := by
    rw [running]
    exact fun late => absurd (late rfl) (Nat.not_le.2 ahead)
  obtain ⟨rest, rfl, later⟩ := watched.of_waits open_ decides
  have late : (ending.poll 1001 (ending.sleep pollInterval (ending.look 1001 begun).2)).Decides
      deadline :=
    fun runs => absurd (exited.symm.trans runs) (by simp)
  obtain ⟨rfl, rfl⟩ := later.of_decides late fun earlier member => waits earlier (.tail _ member)
  exact ⟨exited, rfl⟩

theorem run_waits_iff_clock_shows_awake :
    ending.spawn ask awake.toWorld = .ok (1001, begun) ∧
      let response := run ending (120 * second) awake ask
      response.host.crash = none ∧
        ∃ r, response.result = .ok r ∧ r.exitCode = some 3 ∧ r.success = false := by
  refine ⟨spawn_ask, ?_⟩
  have waits := run_waits_iff_clock_shows spawn_ask 120
  rw [if_pos (by decide)] at waits
  obtain ⟨before, last, seen, watched, waiting, decides, told⟩ := waits
  obtain ⟨shown, rfl⟩ := watched_begun (by decide) watched waiting decides
  have due : later? ended.clock grace = some (ended.clock + grace) := by decide +kernel
  rw [shown] at told
  simp only [due] at told
  exact told

def longest : Settings := { limits := ⟨9223372036854775807⟩ }

theorem parse_longest :
    Settings.parse "[limits]\naction_timeout_seconds = 9223372036854775807" = .ok longest := by
  have read : Toml.parse? "[limits]\naction_timeout_seconds = 9223372036854775807" =
      some (.table [("limits",
        .table [("action_timeout_seconds", .integer 9223372036854775807)])]) := by
    cbv
  have decoded : Settings.ofToml?
      (.table [("limits", .table [("action_timeout_seconds", .integer 9223372036854775807)])]) =
        some longest := rfl
  have allowed : longest.fault? = none := by decide
  rw [Settings.parse, read, Option.bind_some, decoded]
  simp only [Settings.checked, allowed]

-- The program breaks down over the longest timeout, and the process that it started has not ended.
theorem longest_timeout_crashes :
    Settings.parse "[limits]\naction_timeout_seconds = 9223372036854775807" = .ok longest ∧
      let response := run ending (longest.limits.timeoutSeconds * second) awake ask
      response.host.crash = some ⟨deadlinePlace, overflow⟩ ∧
        ∃ e : Entry, (1001, e) ∈ response.host.rest.state.processes ∧ e.ending = none := by
  refine ⟨parse_longest, ?_⟩
  have beyond : later? begun.clock (longest.limits.timeoutSeconds * second) = none := by decide
  rw [run_of_overflow spawn_ask beyond]
  have started : (begun.rest.state.processes.map fun p => (p.1, p.2.ending)) = [(1001, none)] := by
    decide
  obtain ⟨p, member, left⟩ := List.mem_map.1 (started ▸ List.mem_singleton_self (1001, none))
  refine ⟨rfl, p.2, ?_, congrArg Prod.snd left⟩
  rwa [show (1001, p.2) = p from Prod.ext (congrArg Prod.fst left).symm rfl]

end Sample

end Converge
