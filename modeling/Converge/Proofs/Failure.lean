import Converge.Proofs.Confinement
import Converge.Proofs.Reporting

set_option autoImplicit false

namespace Converge

variable {ρ : Type}

-- The errors of declarations, which no command has to run for.
def ApplyError.isRefusal : ApplyError → Bool
  | .unknownService _ | .unsupportedAction _ _ | .duplicateService _ | .invalidName _ _ => true
  | .command (.invalidLine _) => true
  | .actionFailed _ _ _ _ | .command (.notRun _) | .command (.timeout _) => false

theorem Plan.isRefusal_of_make_eq_error {paths : Paths} {files : FileSystem} {platform : String}
    {ds : List Declaration} {e : ApplyError} (refused : make paths files platform ds = .error e) :
    e.isRefusal = true := by
  obtain ⟨_, _, _, -, -, first⟩ := (make_eq_error_iff paths files platform ds e).1 refused
  cases first <;> rfl

/-- How an issue ends its step with an error. -/
inductive Issue.FailsWith (s : Step) (i : Issue ρ) : ApplyError → Prop where
  | runner (e : ApplyError) (given : i.reply.result = .error e) : FailsWith s i e
  | unsuccessful (purpose : i.purpose = .change) (r : CommandResult)
      (given : i.reply.result = .ok r) (failed : r.success = false) :
      FailsWith s i (.actionFailed s.1.name s.2 r.exitCode (failureText r.stderr))

namespace Issue

variable {s : Step} {i : Issue ρ} {e : ApplyError}

theorem failsWith_of_failure? (failed : i.failure? s = some e) : i.FailsWith s e := by
  unfold failure? at failed
  split at failed
  next cause given =>
    cases failed
    exact .runner e given
  next r given =>
    split at failed
    next => cases failed
    next unsuccessful =>
      cases failed
      have change : i.purpose = .change := by
        cases purpose : i.purpose <;> simp_all
      exact .unsuccessful change r given (by simpa [change] using unsuccessful)

theorem FailsWith.of_isRefusal (fails : i.FailsWith s e) (refusal : e.isRefusal = true) :
    i.reply.result = .error e := by
  cases fails with
  | runner _ given => exact given
  | unsuccessful => cases refusal

end Issue

namespace Course

variable (paths : Paths) (runner : Runner ρ)

theorem step_fails_last {s : Step} {h : Host ρ} {e : ApplyError}
    (failed : (step paths runner s h).failure = some e) :
    ∃ passed last, (step paths runner s h).issues = passed ++ [last] ∧ last.FailsWith s e := by
  have shape := step_cases paths runner s h
  generalize step paths runner s h = c at shape failed ⊢
  cases shape with
  | linked => cases failed
  | unanswered => exact ⟨[], _, rfl, Issue.failsWith_of_failure? failed⟩
  | settled => exact ⟨[], _, rfl, Issue.failsWith_of_failure? failed⟩
  | unsettled _ r given =>
    rw [andThen_of_success (ask_passes paths runner given)] at failed ⊢
    exact ⟨[ask paths runner s.1 h], _, rfl, Issue.failsWith_of_failure? failed⟩
  | unasked => exact ⟨[], _, rfl, Issue.failsWith_of_failure? failed⟩

theorem reply_of_follow_eq {ss : List Step} {h : Host ρ} {passed : List (Issue ρ)} {last : Issue ρ}
    (parts : (follow paths runner ss h).issues = passed ++ [last]) :
    last.reply = runner (hostAfter runner h (passed.map (·.command))) last.command := by
  -- The dialogue ends with what the last command met, and both sides of it have one length.
  have told := (follow_exchanges paths runner ss h).1
  simp only [commands, dialogue, parts, List.map_append, exchanges_append] at told
  have ends := List.append_inj_right' told rfl
  simpa [exchanges, eq_comm] using ends

end Course

namespace Pass

open Course

/-- What was planned cannot be refused later: if a planned pass ends with an error, it had issued a
command, and the error is the runner's for the last command or tells that this command, a change of
the step under way, did not succeed. -/
theorem failure_is_of_last_command {paths : Paths} (runner : Runner ρ) {platform : String}
    {ds : List Declaration} {host : Host ρ} {plan : Plan}
    (planned : Plan.make paths host.files platform ds = .ok plan) (runId : RunId) {e : ApplyError}
    (failed : (apply paths runner runId platform ds host).result = .error e) :
    let ending := apply paths runner runId platform ds host
    ∃ done s rest passed last, steps ds = done ++ s :: rest ∧
      ending.report.outcomes.map (fun o => (o.service, o.action)) =
        done.map (fun s => (s.1.name, s.2)) ∧
      log paths runner platform ds host = passed ++ [last] ∧
      ending.issued = passed.map (·.command) ++ [last.command] ∧
      last.reply = runner (hostAfter runner host (passed.map (·.command))) last.command ∧
      last.Serves paths s ∧ last.FailsWith s e ∧
      (e.isRefusal = true → last.reply.result = .error e) := by
  obtain ⟨result, issued, -, report⟩ := apply_of_planned paths runner planned runId
  have failure : (follow paths runner (steps ds) host).failure = some e := by
    rw [result] at failed
    cases stopped : (follow paths runner (steps ds) host).failure <;>
      simp_all [Course.result]
  have reached := outcomes_steps paths runner (.ofPlatform platform) (steps ds) host
  simp only [failure] at reached
  obtain ⟨done, s, rest, parts, recorded, before, stops⟩ := reached
  obtain ⟨asked, last, own, fails⟩ := step_fails_last paths runner stops
  -- The steps before the failed one have passed, so that their issues stand before its own.
  have whole : (follow paths runner (steps ds) host).issues =
      ((follow paths runner done host).issues ++ asked) ++ [last] := by
    rw [parts, follow_append, andThen_of_success before, follow, andThen_of_failure stops, own,
      List.append_assoc]
  have serves : last.Serves paths s :=
    step_serves paths runner s (follow paths runner done host).host last (by simp [own])
  refine ⟨done, s, rest, _, last, parts, ?_, ?_, ?_, reply_of_follow_eq paths runner whole, serves,
    fails, fails.of_isRefusal⟩
  · simp [report, recorded]
  · simp only [log, planned]
    exact whole
  · rw [issued, commands, whole, List.map_append, List.map_singleton]

end Pass

namespace Sample

-- The first status is told; the other never comes.
def stalling : Runner Unit := fun h c =>
  if c = ⟨"/etc/init.d/db", ["status"]⟩ then
    { result := .error (.command (.timeout 120)), host := h }
  else willing h c

end Sample

namespace Pass

open Course Sample

theorem failure_is_of_last_command_stalling :
    let ending := apply {} stalling (.ofNat 7) "ubuntu" [web, db] host
    Plan.make {} host.files "ubuntu" [web, db] =
        .ok ⟨"ubuntu", [⟨web, .debianInit⟩, ⟨db, .debianInit⟩]⟩ ∧
      ending.result = .error (.command (.timeout 120)) ∧
      ending.issued = [⟨"update-rc.d", ["web", "defaults"]⟩, ⟨"/etc/init.d/web", ["status"]⟩,
          ⟨"/etc/init.d/web", ["start"]⟩, ⟨"/etc/init.d/db", ["status"]⟩] ∧
      ∃ (s : Step) (last : Issue Unit), s ∈ steps [web, db] ∧ last.Serves {} s ∧
        last.FailsWith s (.command (.timeout 120)) ∧
        last.command = ⟨"/etc/init.d/db", ["status"]⟩ := by
  have planned : Plan.make {} host.files "ubuntu" [web, db] =
      .ok ⟨"ubuntu", [⟨web, .debianInit⟩, ⟨db, .debianInit⟩]⟩ := Sample.planned (.inl rfl)
  obtain ⟨result, issued, -⟩ := apply_of_planned {} stalling planned (.ofNat 7)
  have course : (follow {} stalling (steps [web, db]) host).failure =
        some (.command (.timeout 120)) ∧
      (follow {} stalling (steps [web, db]) host).commands =
        [⟨"update-rc.d", ["web", "defaults"]⟩, ⟨"/etc/init.d/web", ["status"]⟩,
          ⟨"/etc/init.d/web", ["start"]⟩, ⟨"/etc/init.d/db", ["status"]⟩] := by
    rw [follow_steps]
    decide
  have failed : (apply {} stalling (.ofNat 7) "ubuntu" [web, db] host).result =
      .error (.command (.timeout 120)) := by
    rw [result, Course.result, course.1]
  obtain ⟨done, s, rest, passed, last, parts, -, -, told, -, serves, fails, -⟩ :=
    failure_is_of_last_command stalling planned (.ofNat 7) failed
  rw [issued, course.2] at told
  refine ⟨planned, failed, by rw [issued, course.2], s, last, by simp [parts], serves, fails, ?_⟩
  have ends := congrArg List.getLast? told
  simpa [eq_comm] using ends

end Pass

end Converge
