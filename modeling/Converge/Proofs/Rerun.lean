import Converge.Proofs.ModelHost
import Converge.Proofs.Reporting

set_option autoImplicit false

namespace Converge.Rerun

open Course Effect

variable {ρ : Type} {paths : Paths} {runner : Runner ρ} {running : Host ρ → String → Bool}
  {ds : List Declaration}

/-- Declarations of which each service is asked for one state. -/
structure OneState (ds : List Declaration) : Prop where
  status : ∀ d ∈ ds, d.supports .status = true
  noRestart : ∀ d ∈ ds, .restart ∉ d.desired
  oneWay : ∀ d ∈ ds, ¬ (.start ∈ d.desired ∧ .stop ∈ d.desired)

-- Whether what a step is for holds on a host.
def settled (paths : Paths) (running : Host ρ → String → Bool) (h : Host ρ) (s : Step) : Bool :=
  match s.2 with
  | .enable => BootLink.present h.files paths.rcRoot s.1.name
  | .start | .restart => running h s.1.name
  | .stop => !running h s.1.name

theorem settled_of_nothing {h h' : Host ρ} (same : nothing.Shows paths ds running h h') (s : Step) :
    settled paths running h' s = settled paths running h s := by
  have links : BootLink.present h'.files paths.rcRoot s.1.name =
      BootLink.present h.files paths.rcRoot s.1.name := by
    rw [Bool.eq_iff_iff]
    simpa using same.present_iff s.1.name
  have runs := same.switched s.1.name
  rcases s with ⟨d, _ | _ | _ | _⟩ <;> simp_all [settled, Effect.runs]

theorem settled_of_effect {h h' : Host ρ} {s : Step}
    (done : (ofStep s).Shows paths ds running h h') : settled paths running h' s = true := by
  have links := done.present_iff s.1.name
  have runs := done.switched s.1.name
  rcases s with ⟨d, _ | _ | _ | _⟩ <;> simp_all [settled, ofStep, Effect.runs]

theorem settled_mono {h h' : Host ρ} {s t : Step} (distinct : Distinct paths ds)
    (oneState : OneState ds) (first : s ∈ steps ds) (second : t ∈ steps ds)
    (done : (ofStep s).Shows paths ds running h h') (before : settled paths running h t = true) :
    settled paths running h' t = true := by
  obtain ⟨declared, desired⟩ := mem_steps.1 first
  obtain ⟨declaredToo, desiredToo⟩ := mem_steps.1 second
  have links := done.present_iff t.1.name
  have runs := done.switched t.1.name
  rcases s with ⟨d, a⟩
  rcases t with ⟨other, b⟩
  -- Only a stop and a start of one service are at odds, and no service is asked for both.
  by_cases same : other.name = d.name
  · obtain rfl := distinct.eq_of_name declaredToo declared same
    have oneWay := oneState.oneWay _ declared
    have noRestart := oneState.noRestart _ declared
    cases a <;> cases b <;> simp_all [settled, ofStep, Effect.runs]
  · cases a <;> cases b <;> simp_all [settled, ofStep, Effect.runs]

inductive StepEnds (paths : Paths) (running : Host ρ → String → Bool) (ds : List Declaration)
    (s : Step) (h : Host ρ) (c : Course ρ) : Prop where
  | quiet (before : settled paths running h s = true) (passed : c.failure = none)
      (same : nothing.Shows paths ds running h c.host)
      (asked : ∀ i ∈ c.issues, i.purpose = .query ∧ i.command = statusCommand paths s.1)
  | done (asked : List (Issue ρ)) (last : Issue ρ) (before : settled paths running h s = false)
      (passed : c.failure = none) (effect : (ofStep s).Shows paths ds running h c.host)
      (parts : c.issues = asked ++ [last])
      (queries : ∀ i ∈ asked, i.command = statusCommand paths s.1)
      (acts : last.command = actionCommand paths s.1 s.2)
  | missed (asked : List (Issue ρ)) (last : Issue ρ) (before : settled paths running h s = false)
      (failed : c.failure ≠ none)
      (same : nothing.Shows paths ds running h c.host) (parts : c.issues = asked ++ [last])
      (queries : ∀ i ∈ asked, i.command = statusCommand paths s.1)
      (unsuccessful : last.succeeded = false)

theorem change_ends (fair : AllOrNothing paths runner running ds) {s : Step} (member : s ∈ steps ds)
    {h h' : Host ρ} (same : nothing.Shows paths ds running h h')
    (before : settled paths running h s = false) (asked : List (Issue ρ))
    (queries : ∀ i ∈ asked, i.command = statusCommand paths s.1) :
    StepEnds paths running ds s h
      ⟨asked ++ (change paths runner s h').issues, (change paths runner s h').host,
        (change paths runner s h').failure⟩ := by
  have passes := (attempt paths runner s h').passes_iff_of_change s rfl
  rcases fair.change s member h' with ⟨success, effect⟩ | ⟨failure, unchanged⟩
  · exact .done asked _ before (passes.2 success) (same.after effect) rfl queries rfl
  · refine .missed asked _ before ?_ (same.after unchanged) rfl queries failure
    rw [ne_eq, change, alone, passes]
    simpa [Issue.succeeded, attempt] using failure

theorem step_ends (oneState : OneState ds) (fair : AllOrNothing paths runner running ds) {s : Step}
    (member : s ∈ steps ds) (h : Host ρ) :
    StepEnds paths running ds s h (step paths runner s h) := by
  obtain ⟨declared, desired⟩ := mem_steps.1 member
  obtain ⟨r, answer, truth, same⟩ := fair.status s.1 declared h
  have shape := step_cases paths runner s h
  generalize step paths runner s h = c at shape ⊢
  cases shape with
  | linked enables present =>
    exact .quiet (by simp [settled, enables, present]) rfl (shows_refl h) (by simp [idle])
  | unanswered _ _ e given => simp [ask, answer] at given
  | settled _ r' given agrees =>
    obtain rfl : r = r' := by simpa [ask, answer] using given
    refine .quiet ?_ ?_ same (by simp [alone, ask])
    · rcases agrees with ⟨action, success⟩ | ⟨action, success⟩ <;>
        simp [settled, action, ← truth, success]
    · exact ask_passes paths runner given
  | unsettled _ r' given differs =>
    obtain rfl : r = r' := by simpa [ask, answer] using given
    rw [andThen_of_success (ask_passes paths runner given)]
    refine change_ends fair member same ?_ _ (by simp [alone, ask])
    rcases differs with ⟨action, success⟩ | ⟨action, success⟩ <;>
      simp [settled, action, ← truth, success]
  | unasked reason =>
    rcases reason with ⟨action, absent⟩ | ⟨-, mute⟩ | action
    · exact change_ends fair member (shows_refl h) (by simp [settled, action, absent]) [] (by simp)
    · simp [oneState.status s.1 declared] at mute
    · exact absurd (action ▸ desired) (oneState.noRestart s.1 declared)

def successes (c : Command) (log : List (Command × Response ρ)) : Nat :=
  log.countP fun x => x.1 = c ∧ x.2.succeeded

@[simp] theorem successes_append (c : Command) (xs ys : List (Command × Response ρ)) :
    successes c (xs ++ ys) = successes c xs + successes c ys :=
  List.countP_append

def mark (paths : Paths) (running : Host ρ → String → Bool) (h : Host ρ) (s : Step) : Nat :=
  if s.2 ∈ s.1.desired ∧ settled paths running h s = true then 1 else 0

/-- Each success of a step's command settles what was not settled, and nothing is unsettled. -/
structure Advances (paths : Paths) (running : Host ρ → String → Bool) (ds : List Declaration)
    (h : Host ρ) (log : List (Command × Response ρ)) (h' : Host ρ) : Prop where
  scripts : ∀ d ∈ ds, Plan.scripts paths h.files d.name = true →
    Plan.scripts paths h'.files d.name = true
  bound : ∀ s : Step, s.1 ∈ ds →
    successes (actionCommand paths s.1 s.2) log + mark paths running h s ≤ mark paths running h' s

theorem Advances.trans {h h₁ h₂ : Host ρ} {xs ys : List (Command × Response ρ)}
    (first : Advances paths running ds h xs h₁) (next : Advances paths running ds h₁ ys h₂) :
    Advances paths running ds h (xs ++ ys) h₂ where
  scripts d declared there := next.scripts d declared (first.scripts d declared there)
  bound s declared := by
    have one := first.bound s declared
    have two := next.bound s declared
    rw [successes_append]
    omega

theorem successes_of_queries (distinct : Distinct paths ds) {d other : Declaration} (first : d ∈ ds)
    (second : other ∈ ds) (a : Action) {asked : List (Issue ρ)}
    (queries : ∀ i ∈ asked, i.command = statusCommand paths d) :
    successes (actionCommand paths other a) (asked.map fun i => (i.command, i.reply)) = 0 := by
  simp only [successes, List.countP_eq_zero, List.mem_map]
  rintro x ⟨i, member, rfl⟩
  simp [queries i member, distinct.statusCommand_ne first second a]

theorem mark_of_nothing {h h' : Host ρ} (same : nothing.Shows paths ds running h h') (s : Step) :
    mark paths running h' s = mark paths running h s := by
  simp [mark, settled_of_nothing same s]

theorem mark_mono {h h' : Host ρ} {s t : Step} (distinct : Distinct paths ds)
    (oneState : OneState ds) (first : s ∈ steps ds) (declared : t.1 ∈ ds)
    (done : (ofStep s).Shows paths ds running h h') :
    mark paths running h t ≤ mark paths running h' t := by
  unfold mark
  split
  next before =>
    have second := mem_steps.2 ⟨declared, before.1⟩
    simp [before.1, settled_mono distinct oneState first second done before.2]
  next => omega

theorem step_advances (distinct : Distinct paths ds) (oneState : OneState ds)
    (fair : AllOrNothing paths runner running ds) {s : Step} (member : s ∈ steps ds) (h : Host ρ) :
    Advances paths running ds h (step paths runner s h).dialogue (step paths runner s h).host := by
  have ends := step_ends oneState fair member h
  generalize step paths runner s h = c at ends ⊢
  obtain ⟨declared, desired⟩ := mem_steps.1 member
  cases ends with
  | quiet before passed same asked =>
    refine ⟨same.scripts, fun t other => ?_⟩
    have unsuccessful := successes_of_queries distinct declared other t.2 fun i there =>
      (asked i there).2
    simp [dialogue, unsuccessful, mark_of_nothing same]
  | done asked last before passed effect parts queries acts =>
    refine ⟨effect.scripts, fun t other => ?_⟩
    have idle := successes_of_queries distinct declared other t.2 queries
    have kept := mark_mono distinct oneState member other effect
    rw [dialogue, parts, List.map_append, successes_append, idle]
    -- The command counts for its own step and for no other, whichever step `t` is.
    by_cases same : actionCommand paths s.1 s.2 = actionCommand paths t.1 t.2
    · obtain rfl := distinct.actionCommand_injective declared other same
      have once : successes (actionCommand paths s.1 s.2) [(last.command, last.reply)] ≤ 1 :=
        List.countP_le_length
      simpa [mark, desired, before, settled_of_effect effect] using once
    · simpa [successes, acts, same] using kept
  | missed asked last before failed same parts queries unsuccessful =>
    refine ⟨same.scripts, fun t other => ?_⟩
    have idle := successes_of_queries distinct declared other t.2 queries
    rw [dialogue, parts, List.map_append, successes_append, idle, mark_of_nothing same]
    have missed : last.reply.succeeded = false := unsuccessful
    simp [successes, missed]

theorem follow_advances (distinct : Distinct paths ds) (oneState : OneState ds)
    (fair : AllOrNothing paths runner running ds) {ss : List Step}
    (members : ∀ s ∈ ss, s ∈ steps ds) (h : Host ρ) :
    Advances paths running ds h (follow paths runner ss h).dialogue
      (follow paths runner ss h).host := by
  induction ss generalizing h with
  | nil => exact ⟨fun _ _ there => there, fun s _ => by simp [follow, idle, dialogue, successes]⟩
  | cons s rest ih =>
    have first := step_advances distinct oneState fair (members s (by simp)) h
    cases failed : (step paths runner s h).failure with
    | some e =>
      rw [follow, andThen_of_failure failed]
      exact first
    | none =>
      have next := ih (fun t later => members t (by simp [later])) (step paths runner s h).host
      have both := first.trans next
      rw [follow, andThen_of_success failed]
      simpa [dialogue] using both

theorem Advances.settled {h h' : Host ρ} {log : List (Command × Response ρ)}
    (advances : Advances paths running ds h log h') {s : Step} (member : s ∈ steps ds)
    (before : settled paths running h s = true) : settled paths running h' s = true := by
  obtain ⟨declared, desired⟩ := mem_steps.1 member
  have bound := advances.bound s declared
  by_contra undone
  simp [mark, desired, before, undone] at bound

theorem follow_settles (distinct : Distinct paths ds) (oneState : OneState ds)
    (fair : AllOrNothing paths runner running ds) {ss : List Step}
    (members : ∀ s ∈ ss, s ∈ steps ds) {h : Host ρ}
    (passed : (follow paths runner ss h).failure = none) :
    ∀ s ∈ ss, settled paths running (follow paths runner ss h).host s = true := by
  induction ss generalizing h with
  | nil => simp
  | cons s rest ih =>
    have later : ∀ t ∈ rest, t ∈ steps ds := fun t there => members t (by simp [there])
    cases failed : (step paths runner s h).failure with
    | some e => simp [follow, andThen_of_failure failed, failed] at passed
    | none =>
      rw [follow, andThen_of_success failed] at passed ⊢
      -- What this step settled has to stay settled through the rest.
      have advances := follow_advances distinct oneState fair later (step paths runner s h).host
      have now : settled paths running (step paths runner s h).host s = true := by
        cases step_ends oneState fair (members s (by simp)) h with
        | quiet before _ same => rw [settled_of_nothing same, before]
        | done _ _ _ _ effect => exact settled_of_effect effect
        | missed _ _ _ stopped => exact absurd failed stopped
      rintro t member
      rcases List.mem_cons.1 member with rfl | there
      · exact advances.settled (members t (by simp)) now
      · exact ih later passed t there

theorem follow_quiet (oneState : OneState ds) (fair : AllOrNothing paths runner running ds)
    {ss : List Step} (members : ∀ s ∈ ss, s ∈ steps ds) {h : Host ρ}
    (before : ∀ s ∈ ss, settled paths running h s = true) :
    let c := follow paths runner ss h
    c.failure = none ∧ nothing.Shows paths ds running h c.host ∧
      ∀ i ∈ c.issues, i.purpose = .query ∧ ∃ d ∈ ds, i.command = statusCommand paths d := by
  induction ss generalizing h with
  | nil => exact ⟨rfl, shows_refl h, by simp [follow, idle]⟩
  | cons s rest ih =>
    have here := before s (by simp)
    cases step_ends oneState fair (members s (by simp)) h with
    | done _ _ unsettled => simp [here] at unsettled
    | missed _ _ unsettled => simp [here] at unsettled
    | quiet _ passed same asked =>
      obtain ⟨passedRest, sameRest, askedRest⟩ :=
        ih (fun t there => members t (by simp [there])) (h := (step paths runner s h).host)
          fun t there => by rw [settled_of_nothing same, before t (by simp [there])]
      rw [follow, andThen_of_success passed]
      refine ⟨passedRest, same.after sameRest, fun i member => ?_⟩
      rcases List.mem_append.1 member with there | there
      · obtain ⟨query, command⟩ := asked i there
        exact ⟨query, s.1, (mem_steps.1 (members s (by simp))).1, command⟩
      · exact askedRest i there

-- Every pass starts on the host that the last one left.
def passes (paths : Paths) (runner : Runner ρ) (platform : String) (ds : List Declaration) :
    List RunId → Host ρ → List (Pass.Ending ρ)
  | [], _ => []
  | id :: ids, h =>
    let ending := Pass.apply paths runner id platform ds h
    ending :: passes paths runner platform ds ids ending.host

variable {platform : String}

theorem planned_again {h h' : Host ρ} {plan : Plan}
    (planned : Plan.make paths h.files platform ds = .ok plan)
    (scripts : ∀ d ∈ ds, Plan.scripts paths h.files d.name = true →
      Plan.scripts paths h'.files d.name = true) :
    Plan.make paths h'.files platform ds = .ok plan := by
  rw [Plan.make_eq_ok_iff] at planned ⊢
  obtain ⟨⟨sound, once⟩, made⟩ := planned
  refine ⟨⟨fun d declared => ?_, once⟩, made⟩
  have before := sound d declared
  exact { before with script := scripts d declared before.script }

theorem apply_advances (distinct : Distinct paths ds) (oneState : OneState ds)
    (fair : AllOrNothing paths runner running ds) {h : Host ρ} {plan : Plan}
    (planned : Plan.make paths h.files platform ds = .ok plan) (id : RunId) :
    let ending := Pass.apply paths runner id platform ds h
    Advances paths running ds h (exchanges runner h ending.issued) ending.host ∧
      hostAfter runner h ending.issued = ending.host := by
  obtain ⟨-, issued, left, -⟩ := Pass.apply_of_planned paths runner planned id
  obtain ⟨told, after⟩ := follow_exchanges paths runner (steps ds) h
  dsimp only
  rw [issued, left, told]
  exact ⟨follow_advances distinct oneState fair (fun _ member => member) h, after⟩

theorem passes_advance (distinct : Distinct paths ds) (oneState : OneState ds)
    (fair : AllOrNothing paths runner running ds) (ids : List RunId) {h : Host ρ} {plan : Plan}
    (planned : Plan.make paths h.files platform ds = .ok plan) :
    ∃ h', Advances paths running ds h
      (exchanges runner h ((passes paths runner platform ds ids h).flatMap (·.issued))) h' := by
  induction ids generalizing h with
  | nil => exact ⟨h, fun _ _ there => there, fun s _ => by simp [passes, exchanges, successes]⟩
  | cons id ids ih =>
    obtain ⟨first, after⟩ := apply_advances distinct oneState fair planned id
    obtain ⟨h', rest⟩ := ih (planned_again planned first.scripts)
    refine ⟨h', ?_⟩
    simp only [passes, List.flatMap_cons, exchanges_append, after]
    exact first.trans rest

structure ChangesNothing (paths : Paths) (ds : List Declaration) (running : Host ρ → String → Bool)
    (h : Host ρ) (ending : Pass.Ending ρ) : Prop where
  result : ending.result = .ok ()
  changed : ending.report.changedCount = 0
  issued : ∀ c ∈ ending.issued, ∃ d ∈ ds, c = statusCommand paths d
  host : nothing.Shows paths ds running h ending.host

theorem apply_changesNothing (oneState : OneState ds) (fair : AllOrNothing paths runner running ds)
    {h : Host ρ} {plan : Plan} (planned : Plan.make paths h.files platform ds = .ok plan)
    (before : ∀ s ∈ steps ds, settled paths running h s = true) (id : RunId) :
    ChangesNothing paths ds running h (Pass.apply paths runner id platform ds h) := by
  obtain ⟨result, issued, left, report⟩ := Pass.apply_of_planned paths runner planned id
  obtain ⟨passed, same, asked⟩ := follow_quiet oneState fair (fun _ member => member) before
  constructor
  · simp [result, Course.result, passed]
  · have unchanged : (follow paths runner (steps ds) h).achieved = [] := by
      simp only [achieved, List.filter_eq_nil_iff]
      intro i member
      simp [Issue.changed, (asked i member).1]
    simp [report, Report.changedCount, filter_changed_eq_nil paths runner unchanged]
  · rw [issued]
    intro c member
    obtain ⟨i, there, rfl⟩ := List.mem_map.1 member
    exact (asked i there).2
  · rw [left]
    exact same

theorem passes_changeNothing (oneState : OneState ds) (fair : AllOrNothing paths runner running ds)
    (ids : List RunId) {h : Host ρ} {plan : Plan}
    (planned : Plan.make paths h.files platform ds = .ok plan)
    (before : ∀ s ∈ steps ds, settled paths running h s = true) :
    ∀ later ∈ passes paths runner platform ds ids h, ChangesNothing paths ds running h later := by
  induction ids generalizing h with
  | nil => simp [passes]
  | cons id ids ih =>
    have quiet := apply_changesNothing oneState fair planned before id
    have rest := ih (planned_again planned quiet.host.scripts) fun s member => by
      rw [settled_of_nothing quiet.host, before s member]
    rintro later member
    rcases List.mem_cons.1 member with rfl | there
    · exact quiet
    · have last := rest later there
      exact { last with host := quiet.host.after last.host }

theorem apply_settles (distinct : Distinct paths ds) (oneState : OneState ds)
    (fair : AllOrNothing paths runner running ds) {h : Host ρ} {plan : Plan}
    (planned : Plan.make paths h.files platform ds = .ok plan) (id : RunId)
    (success : (Pass.apply paths runner id platform ds h).result = .ok ()) :
    ∀ s ∈ steps ds,
      settled paths running (Pass.apply paths runner id platform ds h).host s = true := by
  obtain ⟨result, -, left, -⟩ := Pass.apply_of_planned paths runner planned id
  rw [left]
  apply follow_settles distinct oneState fair fun _ member => member
  by_contra failed
  obtain ⟨e, failed⟩ := Option.ne_none_iff_exists'.1 failed
  rw [result, Course.result, failed] at success
  cases success

theorem passes_settle (distinct : Distinct paths ds) (oneState : OneState ds)
    (fair : AllOrNothing paths runner running ds) (ids : List RunId) {h : Host ρ} {plan : Plan}
    (planned : Plan.make paths h.files platform ds = .ok plan)
    {earlier after : List (Pass.Ending ρ)} {first : Pass.Ending ρ}
    (parts : passes paths runner platform ds ids h = earlier ++ first :: after)
    (success : first.result = .ok ()) :
    (∀ s ∈ steps ds, settled paths running first.host s = true) ∧
      ∀ later ∈ after, ChangesNothing paths ds running first.host later := by
  induction ids generalizing h earlier with
  | nil => simp [passes] at parts
  | cons id ids ih =>
    have advances := (apply_advances distinct oneState fair planned id).1
    have again := planned_again planned advances.scripts
    cases earlier with
    | nil =>
      simp only [passes, List.nil_append, List.cons.injEq] at parts
      obtain ⟨rfl, rfl⟩ := parts
      have reached := apply_settles distinct oneState fair planned id success
      exact ⟨reached, passes_changeNothing oneState fair ids again reached⟩
    | cons _ earlier =>
      simp only [passes, List.cons_append, List.cons.injEq] at parts
      exact ih again parts.2

section Sample

open Sample ModelHost

theorem step_flaky_enable (up : List String) (fates : List Bool) :
    step {} flaky (web, .enable) (flakyHost files up fates) =
        change {} flaky (web, .enable) (flakyHost files up fates) ∧
      step {} flaky (web, .enable) (flakyHost linkedFiles up fates) =
        idle (flakyHost linkedFiles up fates) := by
  have present : BootLink.present linkedFiles Settings.Default.rcRoot web.name = true := by
    refine (present_eq (.inr rfl) _).trans ?_
    decide
  constructor
  · exact step_web_enable flaky rfl
  · simp [step, flakyHost, present]

theorem follow_flaky :
    let run (h : Host ModelHost.State) :=
      ((follow {} flaky (steps [web, db]) h).host, (follow {} flaky (steps [web, db]) h).failure)
    run (flakyHost files ["db"] [false, true, true, false]) =
        (flakyHost files ["db"] [true, true, false],
          some (.actionFailed "web" .enable (some 1) "")) ∧
      run (flakyHost files ["db"] [true, true, false]) =
        (flakyHost linkedFiles ["web", "db"] [],
          some (.actionFailed "db" .stop (some 1) "")) ∧
      run (flakyHost linkedFiles ["web", "db"] []) = (flakyHost linkedFiles ["web"] [], none) ∧
      run (flakyHost linkedFiles ["web"] []) = (flakyHost linkedFiles ["web"] [], none) := by
  have parts (h : Host ModelHost.State) : follow {} flaky (steps [web, db]) h =
      (step {} flaky (web, .enable) h).andThen
        (follow {} flaky [(web, .start), (db, .stop)]) := rfl
  simp only [parts, step_flaky_enable]
  refine ⟨rfl, ?_, rfl, rfl⟩
  simp only [change, alone, attempt, flaky_links]
  rfl

theorem results_flaky (first second third fourth : RunId) :
    (passes {} flaky "ubuntu" [web, db] [first, second, third, fourth]
      (flakyHost files ["db"] [false, true, true, false])).map (·.result) =
        [.error (.actionFailed "web" .enable (some 1) ""),
          .error (.actionFailed "db" .stop (some 1) ""), .ok (), .ok ()] := by
  have ends {fs : FileSystem} (known : fs = files ∨ fs = linkedFiles) (up : List String)
      (fates : List Bool) (id : RunId) :
      let ending := Pass.apply {} flaky id "ubuntu" [web, db] (flakyHost fs up fates)
      let c := follow {} flaky (steps [web, db]) (flakyHost fs up fates)
      ending.result = c.result ∧ ending.host = c.host := by
    have made : Plan.make {} (flakyHost fs up fates).files "ubuntu" [web, db] = _ :=
      Sample.planned known
    obtain ⟨result, -, left, -⟩ := Pass.apply_of_planned {} flaky made id
    exact ⟨result, left⟩
  have runs := follow_flaky
  simp only [Prod.mk.injEq] at runs
  obtain ⟨⟨host₁, failed₁⟩, ⟨host₂, failed₂⟩, ⟨host₃, passed₃⟩, -, passed₄⟩ := runs
  simp only [passes, List.map_cons, List.map_nil, ends (.inl rfl), ends (.inr rfl), host₁, host₂,
    host₃, Course.result, failed₁, failed₂, passed₃, passed₄]

end Sample

/-- Passes may be repeated after any failures: over all of them each change of a service succeeds at
most once, and after the first success all that is declared holds, nothing is changed and nothing
but the status asked. -/
theorem rerun_changes_at_most_once {host : Host ρ} {plan : Plan}
    (planned : Plan.make paths host.files platform ds = .ok plan)
    (status : ∀ d ∈ ds, d.supports .status = true)
    (noRestart : ∀ d ∈ ds, .restart ∉ d.desired)
    (oneWay : ∀ d ∈ ds, ¬ (.start ∈ d.desired ∧ .stop ∈ d.desired))
    (apart : OverridesApart paths ds) (fair : AllOrNothing paths runner running ds)
    (ids : List RunId) :
    let all := passes paths runner platform ds ids host
    (∀ d ∈ ds, ∀ a, successes (actionCommand paths d a)
      (exchanges runner host (all.flatMap (·.issued))) ≤ 1) ∧
    ∀ earlier first after, all = earlier ++ first :: after → first.result = .ok () →
      (∀ s ∈ steps ds, settled paths running first.host s = true) ∧
      ∀ later ∈ after, later.result = .ok () ∧ later.report.changedCount = 0 ∧
        (∀ c ∈ later.issued, ∃ d ∈ ds, c = statusCommand paths d) ∧
        nothing.Shows paths ds running first.host later.host := by
  obtain ⟨⟨sound, once⟩, -⟩ := (Plan.make_eq_ok_iff _ _ _ _ _).1 planned
  have distinct : Distinct paths ds := ⟨fun d declared => (sound d declared).named, once, apart⟩
  have oneState : OneState ds := ⟨status, noRestart, oneWay⟩
  constructor
  · intro d declared a
    obtain ⟨h', advances⟩ := passes_advance distinct oneState fair ids planned
    have bound := advances.bound (d, a) declared
    have most : mark paths running h' (d, a) ≤ 1 := by
      unfold mark
      split <;> omega
    dsimp only at bound
    omega
  · intro earlier first after parts success
    obtain ⟨reached, unchanged⟩ := passes_settle distinct oneState fair ids planned parts success
    refine ⟨reached, fun later member => ?_⟩
    have quiet := unchanged later member
    exact ⟨quiet.result, quiet.changed, quiet.issued, quiet.host⟩

section Sample

open Sample ModelHost

theorem rerun_changes_at_most_once_flaky :
    (∀ d ∈ [web, db], d.supports .status = true) ∧ (∀ d ∈ [web, db], .restart ∉ d.desired) ∧
      (∀ d ∈ [web, db], ¬ (.start ∈ d.desired ∧ .stop ∈ d.desired)) ∧
      OverridesApart {} [web, db] ∧ AllOrNothing {} flaky ModelHost.running [web, db] ∧
      let host := flakyHost files ["db"] [false, true, true, false]
      let all := passes {} flaky "ubuntu" [web, db] [.ofNat 1, .ofNat 2, .ofNat 3, .ofNat 4] host
      let log := exchanges flaky host (all.flatMap (·.issued))
      Plan.make {} host.files "ubuntu" [web, db] =
          .ok ⟨"ubuntu", [⟨web, .debianInit⟩, ⟨db, .debianInit⟩]⟩ ∧
        successes ⟨"update-rc.d", ["web", "defaults"]⟩ log ≤ 1 ∧
        successes ⟨"/etc/init.d/web", ["start"]⟩ log ≤ 1 ∧ successes ⟨"dbctl", ["halt"]⟩ log ≤ 1 ∧
        ∃ failed stopped success last, all = [failed, stopped, success, last] ∧
          failed.result = .error (.actionFailed "web" .enable (some 1) "") ∧
          stopped.result = .error (.actionFailed "db" .stop (some 1) "") ∧
          success.result = .ok () ∧ last.result = .ok () ∧ last.report.changedCount = 0 := by
  have distinct : Distinct {} [web, db] := ⟨by decide, by decide, overridesApart_sample⟩
  have fair := ModelHost.runner_allOrNothing distinct
  have planned : Plan.make {} (flakyHost files ["db"] [false, true, true, false]).files "ubuntu"
      [web, db] = .ok ⟨"ubuntu", [⟨web, .debianInit⟩, ⟨db, .debianInit⟩]⟩ :=
    Sample.planned (.inl rfl)
  obtain ⟨once, quiet⟩ := rerun_changes_at_most_once planned (by decide) (by decide) (by decide)
    overridesApart_sample fair [.ofNat 1, .ofNat 2, .ofNat 3, .ofNat 4]
  have results := results_flaky (.ofNat 1) (.ofNat 2) (.ofNat 3) (.ofNat 4)
  refine ⟨by decide, by decide, by decide, overridesApart_sample, fair, planned,
    once web (by simp) .enable, once web (by simp) .start, once db (by simp) .stop, ?_⟩
  obtain ⟨failed, stopped, success, last, parts⟩ :
      ∃ failed stopped success last, passes {} flaky "ubuntu" [web, db]
        [.ofNat 1, .ofNat 2, .ofNat 3, .ofNat 4]
        (flakyHost files ["db"] [false, true, true, false]) = [failed, stopped, success, last] :=
    ⟨_, _, _, _, rfl⟩
  simp only [parts, List.map_cons, List.map_nil, List.cons.injEq, and_true] at results
  obtain ⟨first, second, third, fourth⟩ := results
  have unchanged := (quiet [failed, stopped] success [last] parts third).2 last (by simp)
  exact ⟨failed, stopped, success, last, parts, first, second, third, fourth, unchanged.2.1⟩

end Sample

end Converge.Rerun
