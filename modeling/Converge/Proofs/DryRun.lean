import Converge.Cli.Run
import Converge.Proofs.PlanText
import Converge.Proofs.Reporting

set_option autoImplicit false

namespace Converge

variable {ρ : Type}

abbrev Triple := String × Action × ProviderKind

def Plan.triples (plan : Plan) : List Triple :=
  plan.services.flatMap fun s =>
    s.declaration.desired.map fun a => (s.declaration.name, a, s.provider)

def Pass.Ending.reached (pass : Pass.Ending ρ) : List Triple :=
  pass.report.outcomes.map fun o => (o.service, o.action, o.provider)

namespace Course

variable (paths : Paths) (runner : Runner ρ)

def triple (kind : ProviderKind) (s : Step) : Triple := (s.1.name, s.2, kind)

theorem triples_of_steps (platform : String) (kind : ProviderKind) (ds : List Declaration) :
    Plan.triples ⟨platform, ds.map fun d => ⟨d, kind⟩⟩ = (steps ds).map (triple kind) := by
  simp only [Plan.triples, steps, List.flatMap_map, List.map_flatMap, List.map_map]
  rfl

theorem outcomes_triples (kind : ProviderKind) (ss : List Step) (h : Host ρ) :
    let reached := (outcomes paths runner kind ss h).map fun o => (o.service, o.action, o.provider)
    match (follow paths runner ss h).failure with
    | none => reached = ss.map (triple kind)
    | some _ => ∃ next rest, ss.map (triple kind) = reached ++ next :: rest := by
  have pairs := outcomes_steps paths runner kind ss h
  -- The provider is the same everywhere, so that the pairs tell the triples.
  have widen : ((outcomes paths runner kind ss h).map fun o => (o.service, o.action, o.provider)) =
      ((outcomes paths runner kind ss h).map fun o => (o.service, o.action)).map
        fun pair => (pair.1, pair.2, kind) := by
    rw [List.map_map]
    apply List.map_congr_left
    intro o member
    simp [(mem_outcomes paths runner member).1]
  simp only [widen]
  cases failed : (follow paths runner ss h).failure with
  | none =>
    simp only [failed] at pairs ⊢
    rw [pairs, List.map_map]
    rfl
  | some e =>
    simp only [failed] at pairs ⊢
    obtain ⟨done, s, rest, rfl, recorded, -⟩ := pairs
    refine ⟨triple kind s, rest.map (triple kind), ?_⟩
    rw [recorded, List.map_map, List.map_append, List.map_cons]
    rfl

theorem commands_ne_nil_of_failure {ss : List Step} {h : Host ρ} {e : ApplyError}
    (failed : (follow paths runner ss h).failure = some e) :
    (follow paths runner ss h).commands ≠ [] := by
  have stops := follow_stopsAtFailure paths runner ss h
  simp only [StopsAtFailure, failed] at stops
  obtain ⟨passed, last, parts, -⟩ := stops
  simp [commands, parts]

end Course

namespace Pass

open Course

-- A planned pass reaches what was planned, all of it or up to the command that failed.
theorem apply_reaches {paths : Paths} (runner : Runner ρ) {platform : String}
    {ds : List Declaration} {host : Host ρ} {plan : Plan}
    (planned : Plan.make paths host.files platform ds = .ok plan) (runId : RunId) :
    let pass := apply paths runner runId platform ds host
    match pass.result with
    | .ok () => pass.reached = plan.triples
    | .error _ => pass.issued ≠ [] ∧ ∃ next rest, plan.triples = pass.reached ++ next :: rest := by
  obtain ⟨-, rfl⟩ := (Plan.make_eq_ok_iff _ _ _ _ _).1 planned
  obtain ⟨result, issued, -, report⟩ := apply_of_planned paths runner planned runId
  have reached := outcomes_triples paths runner (.ofPlatform platform) (steps ds) host
  simp only [result, issued, Ending.reached, report, Report.close_outcomes, triples_of_steps]
  cases failed : (follow paths runner (steps ds) host).failure with
  | none => simpa only [Course.result, failed] using reached
  | some e =>
    simp only [Course.result, failed] at reached ⊢
    exact ⟨commands_ne_nil_of_failure paths runner failed, reached⟩

end Pass

namespace Convergence

def Ending.issued (ending : Ending ρ) : List Command :=
  match ending.pass with
  | some pass => pass.issued
  | none => []

/-- The run ends in an error before it hands over any command. -/
structure Ending.Refuses (ending : Ending ρ) (host : Host ρ) (e : Failure) : Prop where
  result : ending.result = .error e
  issued : ending.issued = []
  plan : ending.plan = none
  crash : ending.host.crash = host.crash

variable {settings : Settings} {asked : Option String} {host : Host ρ}

theorem run_of_unknown {e : Failure} (unknown : task settings host.files asked = .error e)
    (dryRun : Bool) (runner : Runner ρ) (runId : RunId) :
    run settings ⟨asked, dryRun⟩ runner runId host =
      { result := .error e, events := taskEvents settings host.files asked, host := host } := by
  simp only [run, unknown]

theorem refuses_of_unknown {e : Failure} (unknown : task settings host.files asked = .error e)
    (dryRun : Bool) (runner : Runner ρ) (runId : RunId) :
    (run settings ⟨asked, dryRun⟩ runner runId host).Refuses host e := by
  rw [run_of_unknown unknown]
  exact ⟨rfl, rfl, rfl, rfl⟩

section

variable {platform : String} {ds : List Declaration}
  (known : task settings host.files asked = .ok ⟨platform, ds⟩)

include known

theorem dryRun_of_known (runner : Runner ρ) (runId : RunId) :
    let ending := run settings ⟨asked, true⟩ runner runId host
    ending.pass = none ∧ ending.host = host ∧
      match Plan.make settings.paths host.files platform ds with
      | .ok plan => ending.result = .ok () ∧ ending.plan = some plan
      | .error e => ending.result = .error (.apply e) ∧ ending.plan = none := by
  simp only [run, known, if_true]
  cases Plan.make settings.paths host.files platform ds <;> simp

theorem realRun_of_known (runner : Runner ρ) (runId : RunId) :
    let ending := run settings ⟨asked, false⟩ runner runId host
    let pass := Pass.apply settings.paths runner runId platform ds host
    ending.pass = some pass ∧ ending.result = pass.result.mapError .apply ∧ ending.plan = none := by
  simp [run, known]

theorem realRun_host (runner : Runner ρ) (runId : RunId) :
    let pass := Pass.apply settings.paths runner runId platform ds host
    (run settings ⟨asked, false⟩ runner runId host).host =
      if pass.host.crash.isSome then pass.host
      else { pass.host with files := (file settings.report pass.report pass.host.files).1 } := by
  simp only [run, known, Bool.false_eq_true, if_false]
  split <;> rfl

theorem realRun_crash (runner : Runner ρ) (runId : RunId) :
    (run settings ⟨asked, false⟩ runner runId host).host.crash =
      (Pass.apply settings.paths runner runId platform ds host).host.crash := by
  rw [realRun_host known runner runId]
  split <;> rfl

-- The steps of the plan are reached in order, up to one that fails.
theorem realRun_carries_out {plan : Plan}
    (planned : Plan.make settings.paths host.files platform ds = .ok plan) (runner : Runner ρ)
    (runId : RunId) :
    let ending := run settings ⟨asked, false⟩ runner runId host
    let pass := Pass.apply settings.paths runner runId platform ds host
    match ending.result with
    | .ok () => pass.reached = plan.triples
    | .error _ => ending.issued ≠ [] ∧ ∃ next rest, plan.triples = pass.reached ++ next :: rest := by
  intro ending pass
  obtain ⟨passed, ends, -⟩ := realRun_of_known known runner runId
  have issued : ending.issued = pass.issued := by
    rw [Ending.issued, show ending.pass = some pass from passed]
  have reaches := Pass.apply_reaches runner planned runId
  rw [show ending.result = pass.result.mapError .apply from ends, issued]
  cases result : pass.result with
  | ok _ =>
    simp only [pass] at result
    simp only [result] at reaches
    exact reaches
  | error e =>
    simp only [pass] at result
    simp only [result] at reaches
    exact reaches

theorem refuses_of_unplanned {e : ApplyError}
    (unplanned : Plan.make settings.paths host.files platform ds = .error e) (dryRun : Bool)
    (runner : Runner ρ) (runId : RunId) :
    (run settings ⟨asked, dryRun⟩ runner runId host).Refuses host (.apply e) := by
  cases dryRun with
  | true =>
    obtain ⟨passless, still, shows⟩ := dryRun_of_known known runner runId
    simp only [unplanned] at shows
    exact ⟨shows.1, by rw [Ending.issued, passless], shows.2, congrArg Host.crash still⟩
  | false =>
    obtain ⟨passed, ends, silent⟩ := realRun_of_known known runner runId
    obtain ⟨refused, nothing, -, left⟩ := Pass.apply_of_unplanned unplanned runner runId
    refine ⟨ends.trans (by rw [refused]; rfl), ?_, silent,
      (realRun_crash known runner runId).trans (congrArg Host.crash left)⟩
    rw [Ending.issued, passed]
    exact nothing

end

theorem dryRun_leaves (settings : Settings) (asked : Option String) (host : Host ρ)
    (runner : Runner ρ) (runId : RunId) :
    let ending := run settings ⟨asked, true⟩ runner runId host
    ending.issued = [] ∧ ending.host = host := by
  cases found : task settings host.files asked with
  | error e => simp only [run_of_unknown found, Ending.issued, and_self]
  | ok known =>
    obtain ⟨nothing, still, -⟩ := dryRun_of_known found runner runId
    exact ⟨by rw [Ending.issued, nothing], still⟩

end Convergence

namespace Cli

open Convergence

variable (context : Context) (settings : Settings) (options : Options) (runner : Nat → Runner ρ)
  (host : Host ρ)

/-- The runner of a run: commands may take as long as the settings say. -/
def commands : Runner ρ := runner (settings.limits.timeoutSeconds * Execution.second)

def ending : Convergence.Ending ρ :=
  Convergence.run settings ⟨options.platform, options.dryRun⟩ (commands settings runner)
    context.runId host

theorem converge_host : (converge context settings options runner host).host =
    (ending context settings options runner host).host := rfl

theorem converge_stdout : (converge context settings options runner host).stdout =
    planText (ending context settings options runner host).plan := rfl

theorem converge_success : (converge context settings options runner host).success = true ↔
    (ending context settings options runner host).result = .ok () := by
  simp only [converge, ending, commands]
  split <;> simp [*]

theorem status_eq_zero_iff : (converge context settings options runner host).status = 0 ↔
    (ending context settings options runner host).host.crash = none ∧
      (ending context settings options runner host).result = .ok () := by
  rw [← converge_success, Conclusion.status, converge_host]
  cases (ending context settings options runner host).host.crash <;> simp [crashStatus]

theorem converge_of_refuses {e : Failure}
    (refuses : (ending context settings options runner host).Refuses host e) :
    let shown := converge context settings options runner host
    shown.status = (if host.crash.isSome then crashStatus else 1) ∧ shown.stdout = "" := by
  intro shown
  have unsuccessful : shown.success = false := by
    rw [Bool.eq_false_iff, ne_eq, converge_success, refuses.result]
    simp
  refine ⟨?_, ?_⟩
  · rw [Conclusion.status, converge_host, unsuccessful, refuses.crash]
    simp
  · rw [converge_stdout, refuses.plan]
    rfl

-- What was refused is told alike, whatever else was asked for.
theorem refusals_agree (otherContext : Context) (otherOptions : Options) {e : Failure}
    (refuses : (ending context settings options runner host).Refuses host e)
    (otherRefuses : (ending otherContext settings otherOptions runner host).Refuses host e) :
    let shown := converge context settings options runner host
    let other := converge otherContext settings otherOptions runner host
    shown.status ≠ 0 ∧ shown.stdout = "" ∧ other.status = shown.status ∧ other.stdout = "" := by
  intro shown other
  obtain ⟨status, silent⟩ := converge_of_refuses context settings options runner host refuses
  obtain ⟨otherStatus, silentToo⟩ :=
    converge_of_refuses otherContext settings otherOptions runner host otherRefuses
  refine ⟨?_, silent, otherStatus.trans status.symm, silentToo⟩
  rw [status]
  split <;> simp [crashStatus]

theorem dryRun_ignores_runner (other : Nat → Runner ρ) (otherId : RunId)
    (dry : options.dryRun = true) :
    converge { context with runId := otherId } settings options other host =
      converge context settings options runner host := by
  have same : Convergence.run settings ⟨options.platform, options.dryRun⟩ (commands settings other)
        otherId host =
      Convergence.run settings ⟨options.platform, options.dryRun⟩ (commands settings runner)
        context.runId host := by
    rw [dry]
    cases found : task settings host.files options.platform with
    | error e => rw [run_of_unknown found, run_of_unknown found]
    | ok known => simp only [Convergence.run, found, if_true]
  simp only [converge, commands] at same ⊢
  rw [same]
  rfl

theorem planText_injective {plan other : Plan} (same : planText (some plan) = planText (some other)) :
    plan = other :=
  Plan.toJson_injective (Json.pretty_injective ((String.append_left_inj _).1 same))

/-- What a dry run shows holds of the run itself: the same failure and no command, or a plan that
can be read off the output and is carried out in order, up to the first command that fails. The dry
run leaves the host alone. -/
theorem dryRun_foretells_run (otherContext : Context) :
    let dryOptions : Options := { options with dryRun := true }
    let realOptions : Options := { options with dryRun := false }
    let dry := converge context settings dryOptions runner host
    let real := converge otherContext settings realOptions runner host
    let foretold := ending context settings dryOptions runner host
    let ran := ending otherContext settings realOptions runner host
    (match foretold.result with
      | .error e => dry.status ≠ 0 ∧ dry.stdout = "" ∧
          real.status = dry.status ∧ real.stdout = "" ∧ ran.result = .error e ∧ ran.issued = []
      | .ok () => (dry.status = 0 ↔ host.crash = none) ∧
          (real.status = 0 ↔ real.host.crash = none ∧ ran.result = .ok ()) ∧ real.stdout = "" ∧
          ∃ platform ds plan pass,
            task settings host.files options.platform = .ok ⟨platform, ds⟩ ∧
            Plan.make settings.paths host.files platform ds = .ok plan ∧
            dry.stdout = plan.toJson.pretty ++ "\n" ∧
            (∀ other : Plan, dry.stdout = other.toJson.pretty ++ "\n" → other = plan) ∧
            ran.pass = some pass ∧
            match ran.result with
            | .ok () => pass.reached = plan.triples
            | .error _ => ran.issued ≠ [] ∧
                ∃ next rest, plan.triples = pass.reached ++ next :: rest) ∧
    foretold.issued = [] ∧ dry.host = host ∧
    ∀ (other : Nat → Runner ρ) (otherId : RunId),
      converge { context with runId := otherId } settings dryOptions other host = dry := by
  intro dryOptions realOptions dry real foretold ran
  obtain ⟨unissued, still⟩ :=
    dryRun_leaves settings options.platform host (commands settings runner) context.runId
  refine ⟨?_, unissued, still,
    fun other otherId => dryRun_ignores_runner context settings dryOptions runner host other otherId rfl⟩
  -- Both runs find out the same task and make the same plan; they part only after that.
  have refused {e : Failure} (first : foretold.Refuses host e) (second : ran.Refuses host e) :=
    refusals_agree context settings dryOptions runner host otherContext realOptions first second
  cases found : task settings host.files options.platform with
  | error e =>
    have dryRefuses : foretold.Refuses host e := refuses_of_unknown found true _ _
    have realRefuses : ran.Refuses host e := refuses_of_unknown found false _ _
    obtain ⟨status, output, statuses, outputToo⟩ := refused dryRefuses realRefuses
    simp only [dryRefuses.result]
    exact ⟨status, output, statuses, outputToo, realRefuses.result, realRefuses.issued⟩
  | ok known =>
    obtain ⟨platform, ds⟩ := known
    cases planned : Plan.make settings.paths host.files platform ds with
    | error e =>
      have dryRefuses : foretold.Refuses host (.apply e) :=
        refuses_of_unplanned found planned true _ _
      have realRefuses : ran.Refuses host (.apply e) :=
        refuses_of_unplanned found planned false _ _
      obtain ⟨status, output, statuses, outputToo⟩ := refused dryRefuses realRefuses
      simp only [dryRefuses.result]
      exact ⟨status, output, statuses, outputToo, realRefuses.result, realRefuses.issued⟩
    | ok plan =>
      let pass :=
        Pass.apply settings.paths (commands settings runner) otherContext.runId platform ds host
      obtain ⟨-, -, shows⟩ := dryRun_of_known found (commands settings runner) context.runId
      obtain ⟨passed, -, silent⟩ :=
        realRun_of_known found (commands settings runner) otherContext.runId
      simp only [planned] at shows
      obtain ⟨dryPasses, shown⟩ : foretold.result = .ok () ∧ foretold.plan = some plan := shows
      have output : dry.stdout = planText (some plan) := congrArg planText shown
      have status : dry.status = 0 ↔ foretold.host.crash = none ∧ foretold.result = .ok () :=
        status_eq_zero_iff context settings dryOptions runner host
      rw [dryPasses, show foretold.host = host from still] at status
      simp only [dryPasses]
      refine ⟨by simpa using status, status_eq_zero_iff otherContext settings realOptions runner host,
        congrArg planText silent, platform, ds, plan, pass, rfl, planned, output,
        fun other same => planText_injective (same.symm.trans output), passed, ?_⟩
      exact realRun_carries_out found planned (commands settings runner) otherContext.runId

end Cli

end Converge
