import Converge.Proofs.CommandSequence

set_option autoImplicit false

namespace Converge

variable {ρ : Type}

namespace Report

variable (r : Report) (now : Timestamp) (result : Except ApplyError Unit)

@[simp] theorem close_outcomes : (r.close now result).outcomes = r.outcomes := by
  cases result <;> rfl

@[simp] theorem close_finished : (r.close now result).finished = some now := by
  cases result <;> rfl

@[simp] theorem close_verdict : (r.close now result).verdict =
    match result with
    | .ok () => .success
    | .error e => .failure e.code e.message := by
  cases result <;> rfl

@[simp] theorem isSuccess_close : (r.close now result).isSuccess = true ↔ result = .ok () := by
  cases result <;> simp [isSuccess]

end Report

namespace Issue

def changed (i : Issue ρ) : Bool := i.purpose == .change && i.succeeded

theorem changed_of_not_stops {i : Issue ρ} (passes : ¬ i.Stops) :
    i.changed = (i.purpose == .change) := by
  unfold Stops at passes
  unfold changed succeeded Response.succeeded
  cases given : i.reply.result <;> cases purpose : i.purpose <;> simp_all

theorem changed_of_stops {i : Issue ρ} (stops : i.Stops) : i.changed = false := by
  unfold Stops at stops
  unfold changed succeeded Response.succeeded
  cases given : i.reply.result <;> simp_all

end Issue

namespace Course

variable (paths : Paths) (runner : Runner ρ)

def achieved (c : Course ρ) : List (Issue ρ) := c.issues.filter (·.changed)

-- A failed course of several steps may have changed something; this is about one step.
def AllOrNone (c : Course ρ) : Prop :=
  (c.failure = none → c.achieved = c.changes) ∧ (c.failure ≠ none → c.achieved = [])

theorem change_allOrNone (s : Step) (h : Host ρ) : (change paths runner s h).AllOrNone := by
  have stops := Issue.failure?_eq_none_iff s (attempt paths runner s h)
  constructor
  · intro passed
    have changed := Issue.changed_of_not_stops (stops.1 passed)
    simp [change, alone, achieved, changes, List.filter_cons, changed]
  · intro failed
    have stopped : (attempt paths runner s h).Stops := by
      by_contra passes
      exact failed (stops.2 passes)
    simp [change, alone, achieved, Issue.changed_of_stops stopped]

theorem step_allOrNone (s : Step) (h : Host ρ) : (step paths runner s h).AllOrNone := by
  have shape := step_cases paths runner s h
  generalize step paths runner s h = c at shape ⊢
  cases shape with
  | linked => simp [AllOrNone, idle, achieved, changes]
  | unanswered _ _ e given => simp [AllOrNone, alone, ask, achieved, changes, Issue.changed]
  | settled _ r given => simp [AllOrNone, alone, ask, achieved, changes, Issue.changed]
  | unsettled _ r given =>
    have acts := change_allOrNone paths runner s (alone s (ask paths runner s.1 h)).host
    rw [andThen_of_success (ask_passes paths runner given)]
    simpa [AllOrNone, achieved, changes, alone, ask, Issue.changed] using acts
  | unasked => exact change_allOrNone paths runner s h

theorem outcomes_commands (kind : ProviderKind) (ss : List Step) (h : Host ρ) :
    (outcomes paths runner kind ss h).flatMap (·.commands) =
      (follow paths runner ss h).achieved.map (·.command.line) := by
  induction ss generalizing h with
  | nil => rfl
  | cons s rest ih =>
    have achieves := step_allOrNone paths runner s h
    cases failed : (step paths runner s h).failure with
    | some e =>
      have nothing := achieves.2 (by simp [failed])
      simp [outcomes, follow, andThen_of_failure failed, failed, nothing]
    | none =>
      have everything := achieves.1 failed
      rw [outcomes, follow, andThen_of_success failed]
      simp only [failed, List.flatMap_cons, ih]
      simp [achieved, outcome, lines, ← everything]

theorem outcomes_steps (kind : ProviderKind) (ss : List Step) (h : Host ρ) :
    match (follow paths runner ss h).failure with
    | none => (outcomes paths runner kind ss h).map (fun o => (o.service, o.action)) =
        ss.map fun s => (s.1.name, s.2)
    | some e => ∃ done s rest, ss = done ++ s :: rest ∧
        (outcomes paths runner kind ss h).map (fun o => (o.service, o.action)) =
          done.map (fun s => (s.1.name, s.2)) ∧
        (follow paths runner done h).failure = none ∧
        (step paths runner s (follow paths runner done h).host).failure = some e := by
  induction ss generalizing h with
  | nil => rfl
  | cons s rest ih =>
    cases failed : (step paths runner s h).failure with
    | some e =>
      rw [follow, andThen_of_failure failed, failed]
      exact ⟨[], s, rest, rfl, by simp [outcomes, failed], rfl, failed⟩
    | none =>
      have tail := ih (step paths runner s h).host
      rw [follow, andThen_of_success failed]
      simp only [outcomes, failed]
      cases stopped : (follow paths runner rest (step paths runner s h).host).failure with
      | none =>
        simp only [stopped] at tail ⊢
        simp [tail, outcome]
      | some e =>
        simp only [stopped] at tail ⊢
        obtain ⟨done, last, left, rfl, recorded, before, stops⟩ := tail
        refine ⟨s :: done, last, left, rfl, by simp [recorded, outcome], ?_, ?_⟩
        · rw [follow, andThen_of_success failed, before]
        · rw [follow, andThen_of_success failed]
          exact stops

theorem mem_outcomes {kind : ProviderKind} {ss : List Step} {h : Host ρ} {o : Outcome}
    (member : o ∈ outcomes paths runner kind ss h) :
    o.provider = kind ∧ (o.changed = true ↔ o.commands ≠ []) := by
  induction ss generalizing h with
  | nil => simp [outcomes] at member
  | cons s rest ih =>
    simp only [outcomes] at member
    split at member
    next =>
      rcases List.mem_cons.1 member with rfl | later
      · exact ⟨rfl, by simp [outcome]⟩
      · exact ih later
    next => simp at member

theorem filter_changed_eq_nil {kind : ProviderKind} {ss : List Step} {h : Host ρ}
    (unchanged : (follow paths runner ss h).achieved = []) :
    (outcomes paths runner kind ss h).filter (·.changed) = [] := by
  have lines := outcomes_commands paths runner kind ss h
  rw [unchanged, List.map_nil, List.flatMap_eq_nil_iff] at lines
  rw [List.filter_eq_nil_iff]
  intro o member
  rw [(mem_outcomes paths runner member).2]
  simpa using lines o member

/-- The changes among issued commands; if the last command is one and ended the pass in an error,
it is left out. -/
def reportable (result : Except ApplyError Unit) (log : List (Issue ρ)) : List (Issue ρ) :=
  match result, log.getLast? with
  | .error _, some ⟨.change, _, _⟩ => (log.filter (·.purpose == .change)).dropLast
  | _, _ => log.filter (·.purpose == .change)

theorem filter_changed_of_passed {log : List (Issue ρ)} (passed : ∀ i ∈ log, ¬ i.Stops) :
    log.filter (·.changed) = log.filter (·.purpose == .change) :=
  List.filter_congr fun i member => Issue.changed_of_not_stops (passed i member)

theorem reportable_eq_achieved {c : Course ρ} (stops : c.StopsAtFailure) :
    reportable c.result c.issues = c.achieved := by
  unfold StopsAtFailure at stops
  cases failed : c.failure with
  | none =>
    simp only [failed] at stops
    simp [reportable, Course.result, failed, achieved, filter_changed_of_passed stops]
  | some e =>
    simp only [failed] at stops
    obtain ⟨passed, last, parts, before, stopped⟩ := stops
    have achieves := filter_changed_of_passed before
    have undone := Issue.changed_of_stops stopped
    rcases last with ⟨_ | _, command, reply⟩ <;>
      simp [reportable, Course.result, failed, achieved, parts, achieves, undone]

end Course

namespace Pass

open Course

def log (paths : Paths) (runner : Runner ρ) (platform : String) (ds : List Declaration)
    (host : Host ρ) : List (Issue ρ) :=
  match Plan.make paths host.files platform ds with
  | .ok _ => (follow paths runner (steps ds) host).issues
  | .error _ => []

theorem report_agrees_with_run (paths : Paths) (runner : Runner ρ) (runId : RunId)
    (platform : String) (ds : List Declaration) (host : Host ρ) :
    let ending := apply paths runner runId platform ds host
    let outcomes := ending.report.outcomes
    let reached := outcomes.map fun o => (o.service, o.action)
    let log := log paths runner platform ds host
    (match Plan.make paths host.files platform ds, ending.result with
      | .error _, _ => reached = []
      | .ok _, .ok () => reached = (steps ds).map fun s => (s.1.name, s.2)
      | .ok _, .error e => ∃ done s rest, steps ds = done ++ s :: rest ∧
          reached = done.map (fun s => (s.1.name, s.2)) ∧
          (follow paths runner done host).failure = none ∧
          (step paths runner s (follow paths runner done host).host).failure = some e) ∧
    (∀ o ∈ outcomes, o.provider = .ofPlatform platform) ∧
    (∀ o ∈ outcomes, o.changed = true ↔ o.commands ≠ []) ∧
    ending.report.changedCount = (outcomes.filter fun o => o.commands ≠ []).length ∧
    ending.issued = log.map (·.command) ∧
    outcomes.flatMap (·.commands) = (reportable ending.result log).map (·.command.line) ∧
    ending.report.finished = some ⟨ending.host.wall⟩ ∧
    (ending.report.isSuccess = true ↔ ending.result = .ok ()) ∧
    ending.report.verdict = match ending.result with
      | .ok () => .success
      | .error e => .failure e.code e.message := by
  cases planned : Plan.make paths host.files platform ds with
  | error e =>
    obtain ⟨result, issued, left, report⟩ :=
      apply_of_ends (work_ends_of_unplanned planned runner) runId
    simp [result, issued, left, report, log, planned, reportable, Report.changedCount, Report.start]
  | ok plan =>
    obtain ⟨result, issued, left, report⟩ := apply_of_planned paths runner planned runId
    have reached := outcomes_steps paths runner (.ofPlatform platform) (steps ds) host
    have lines := outcomes_commands paths runner (.ofPlatform platform) (steps ds) host
    have kept := reportable_eq_achieved (follow_stopsAtFailure paths runner (steps ds) host)
    have recorded {o : Outcome}
        (member : o ∈ Course.outcomes paths runner (.ofPlatform platform) (steps ds) host) :=
      mem_outcomes paths runner member
    have counted : (Course.outcomes paths runner (.ofPlatform platform) (steps ds) host).filter
          (·.changed) = (Course.outcomes paths runner (.ofPlatform platform) (steps ds) host).filter
            fun o => o.commands ≠ [] := by
      apply List.filter_congr
      intro o member
      rw [Bool.eq_iff_iff, (recorded member).2]
      simp
    simp only [result, issued, left, report, log, planned, Report.close_outcomes,
      Report.close_finished, Report.close_verdict, Report.isSuccess_close, kept, lines,
      Report.changedCount, counted, commands, and_true]
    refine ⟨?_, fun o member => (recorded member).1, ?_⟩
    · cases failed : (follow paths runner (steps ds) host).failure <;>
        simpa [Course.result, failed] using reached
    · exact fun o member => (recorded member).2

end Pass

end Converge
