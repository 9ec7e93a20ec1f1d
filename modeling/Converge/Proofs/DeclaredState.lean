import Converge.Proofs.CommandSequence
import Converge.Proofs.ModelHost

set_option autoImplicit false

namespace Converge

-- Whether a service runs after an action, if the action decides it.
def Action.leaves? : Action → Option Bool
  | .enable => none
  | .start | .restart => some true
  | .stop => some false

/-- Whether a service runs in its declared state: the last action that decides it counts. -/
def Declaration.leaves? (d : Declaration) : Option Bool :=
  (d.desired.filterMap Action.leaves?).getLast?

namespace DeclaredState

open Course Effect

variable {ρ : Type} {paths : Paths} {runner : Runner ρ} {running : Host ρ → String → Bool}
  {ds : List Declaration} {fit : Host ρ → Prop}

/-- Status verbs tell the truth, and each other command of a declared service has exactly its own
effect. This is asked of the fit hosts, which commands do not leave. -/
structure Obliging (paths : Paths) (runner : Runner ρ) (running : Host ρ → String → Bool)
    (ds : List Declaration) (fit : Host ρ → Prop) : Prop where
  status : ∀ d ∈ ds, d.supports .status = true → ∀ h, fit h →
    let reply := runner h (statusCommand paths d)
    fit reply.host ∧ (∃ r, reply.result = .ok r ∧ r.success = running h d.name) ∧
      nothing.Shows paths ds running h reply.host
  change : ∀ s ∈ steps ds, ∀ h, fit h →
    let reply := runner h (actionCommand paths s.1 s.2)
    fit reply.host ∧ reply.succeeded = true ∧ (ofStep s).Shows paths ds running h reply.host

def turned (ss : List Step) (service : String) : Option Bool :=
  (ss.filterMap fun s => if service = s.1.name then s.2.leaves? else none).getLast?

def enables (ss : List Step) (service : String) : Bool :=
  ss.any fun s => service = s.1.name ∧ s.2 = .enable

/-- A host is what the effects of steps, all of them and nothing else, make of another. -/
structure Reaches (paths : Paths) (running : Host ρ → String → Bool) (ss : List Step)
    (h h' : Host ρ) : Prop where
  runs : ∀ service, running h' service = (turned ss service).getD (running h service)
  linked : ∀ service, BootLink.present h'.files paths.rcRoot service =
    (enables ss service || BootLink.present h.files paths.rcRoot service)

theorem reaches_nil (h : Host ρ) : Reaches paths running [] h h := by
  constructor <;> simp [turned, enables]

theorem Reaches.append {xs ys : List Step} {h h₁ h₂ : Host ρ}
    (first : Reaches paths running xs h h₁) (next : Reaches paths running ys h₁ h₂) :
    Reaches paths running (xs ++ ys) h h₂ := by
  constructor
  · intro service
    rw [next.runs, first.runs, turned, turned, turned, List.filterMap_append, List.getLast?_append,
      Option.getD_or]
  · intro service
    rw [next.linked, first.linked, enables, enables, enables, List.any_append, ← Bool.or_assoc,
      Bool.or_comm (ys.any _)]

theorem reaches_of_effect {h h' : Host ρ} {s : Step}
    (done : (ofStep s).Shows paths ds running h h') : Reaches paths running [s] h h' := by
  rcases s with ⟨d, a⟩
  constructor
  · intro service
    rw [done.switched]
    by_cases own : service = d.name <;> cases a <;>
      simp [ofStep, Effect.runs, turned, Action.leaves?, own]
  · intro service
    rw [Bool.eq_iff_iff, done.present_iff]
    cases a <;> simp [ofStep, enables, or_comm, @eq_comm _ service]

theorem reaches_of_nothing {h h' : Host ρ} {s : Step} (same : nothing.Shows paths ds running h h')
    (runs : ∀ up, s.2.leaves? = some up → running h s.1.name = up)
    (linked : s.2 = .enable → BootLink.present h.files paths.rcRoot s.1.name = true) :
    Reaches paths running [s] h h' := by
  constructor
  · intro service
    rw [same.switched]
    by_cases own : service = s.1.name
    · subst own
      cases left : s.2.leaves? with
      | none => simp [turned, left, Effect.runs]
      | some up => simp [turned, left, Effect.runs, runs up left]
    · simp [turned, own, Effect.runs]
  · intro service
    rw [Bool.eq_iff_iff, same.present_iff]
    by_cases own : service = s.1.name ∧ s.2 = .enable
    · simp [enables, own, linked own.2]
    · simp [enables, own]

theorem step_reaches (obliging : Obliging paths runner running ds fit) {s : Step}
    (member : s ∈ steps ds) {h : Host ρ} (fits : fit h) :
    let c := step paths runner s h
    c.failure = none ∧ fit c.host ∧ Reaches paths running [s] h c.host := by
  obtain ⟨declared, desired⟩ := mem_steps.1 member
  have still : nothing.Shows paths ds running h h := shows_refl h
  -- A step may ask before it acts; what is asked changes nothing, so that both ways end alike.
  have changed {h' : Host ρ} (fits' : fit h') (same : nothing.Shows paths ds running h h') :
      (change paths runner s h').failure = none ∧ fit (change paths runner s h').host ∧
        Reaches paths running [s] h (change paths runner s h').host := by
    obtain ⟨left, success, effect⟩ := obliging.change s member h' fits'
    have passes := (attempt paths runner s h').passes_iff_of_change s rfl
    exact ⟨passes.2 success, left, reaches_of_effect (same.after effect)⟩
  have shape := step_cases paths runner s h
  generalize step paths runner s h = c at shape ⊢
  cases shape with
  | linked enables present =>
    refine ⟨rfl, fits, reaches_of_nothing still ?_ fun _ => present⟩
    simp [enables, Action.leaves?]
  | unanswered _ asks e given =>
    obtain ⟨-, ⟨r, answer, -⟩, -⟩ := obliging.status s.1 declared asks h fits
    simp [ask, answer] at given
  | settled asks r given agrees =>
    obtain ⟨left, ⟨r', answer, truth⟩, same⟩ := obliging.status s.1 declared asks h fits
    obtain rfl : r' = r := by simpa [ask, answer] using given
    refine ⟨ask_passes paths runner given, left, reaches_of_nothing same ?_ ?_⟩
    · rcases agrees with ⟨action, success⟩ | ⟨action, success⟩ <;>
        simp [action, Action.leaves?, ← truth, success]
    · rcases agrees with ⟨action, success⟩ | ⟨action, success⟩ <;> simp [action]
  | unsettled asks r given =>
    obtain ⟨left, -, same⟩ := obliging.status s.1 declared asks h fits
    rw [andThen_of_success (ask_passes paths runner given)]
    exact changed left same
  | unasked => exact changed fits still

theorem follow_reaches (obliging : Obliging paths runner running ds fit) {ss : List Step}
    (members : ∀ s ∈ ss, s ∈ steps ds) {h : Host ρ} (fits : fit h) :
    let c := follow paths runner ss h
    c.failure = none ∧ Reaches paths running ss h c.host := by
  induction ss generalizing h with
  | nil => exact ⟨rfl, reaches_nil h⟩
  | cons s rest ih =>
    obtain ⟨passed, left, first⟩ := step_reaches obliging (members s (by simp)) fits
    obtain ⟨passedRest, next⟩ := ih (fun t there => members t (by simp [there])) left
    rw [follow, andThen_of_success passed]
    exact ⟨passedRest, first.append next⟩

-- Among declarations with different names only one answers to each.
theorem flatMap_of_name {α : Type} (g : Declaration → List α) {d : Declaration} (declared : d ∈ ds)
    (once : (ds.map (·.name)).Nodup) :
    (ds.flatMap fun other => if d.name = other.name then g other else []) = g d := by
  induction ds with
  | nil => simp at declared
  | cons first rest ih =>
    -- The one that answers is the first, or it is later and the first has another name.
    simp only [List.map_cons, List.nodup_cons] at once
    obtain ⟨fresh, once⟩ := once
    have apart {other : Declaration} (later : other ∈ rest) : first.name ≠ other.name := by
      intro same
      exact fresh (same ▸ List.mem_map_of_mem later)
    rcases List.mem_cons.1 declared with rfl | later
    · have others : (rest.flatMap fun other => if d.name = other.name then g other else []) = [] := by
        rw [List.flatMap_eq_nil_iff]
        intro other later
        simp [apart later]
      simp [others]
    · simp [ih later once, (apart later).symm]

theorem turned_steps (service : String) :
    turned (steps ds) service =
      (ds.flatMap fun d => if service = d.name then d.desired.filterMap Action.leaves? else []).getLast? := by
  rw [turned, steps, List.filterMap_flatMap]
  congr 2
  funext d
  by_cases own : service = d.name <;> simp [List.filterMap_map, own]

theorem turned_steps_of_declared {d : Declaration} (declared : d ∈ ds)
    (once : (ds.map (·.name)).Nodup) : turned (steps ds) d.name = d.leaves? := by
  rw [turned_steps, flatMap_of_name _ declared once, Declaration.leaves?]

theorem turned_steps_of_missing {service : String} (missing : service ∉ ds.map (·.name)) :
    turned (steps ds) service = none := by
  have others : (ds.flatMap fun d =>
      if service = d.name then d.desired.filterMap Action.leaves? else []) = [] := by
    rw [List.flatMap_eq_nil_iff]
    intro d declared
    have other : service ≠ d.name := fun same => missing (same ▸ List.mem_map_of_mem declared)
    simp [other]
  rw [turned_steps, others, List.getLast?_nil]

theorem enables_steps {service : String} :
    enables (steps ds) service = true ↔ ∃ d ∈ ds, service = d.name ∧ .enable ∈ d.desired := by
  simp only [enables, List.any_eq_true, decide_eq_true_eq]
  constructor
  · rintro ⟨⟨d, a⟩, member, rfl, rfl⟩
    obtain ⟨declared, desired⟩ := mem_steps.1 member
    exact ⟨d, declared, rfl, desired⟩
  · rintro ⟨d, declared, rfl, desired⟩
    exact ⟨(d, .enable), mem_steps.2 ⟨declared, desired⟩, rfl, rfl⟩

theorem enables_steps_of_declared {d : Declaration} (declared : d ∈ ds)
    (once : (ds.map (·.name)).Nodup) :
    enables (steps ds) d.name = d.desired.contains .enable := by
  rw [Bool.eq_iff_iff, enables_steps]
  constructor
  · rintro ⟨other, declaredToo, same, desired⟩
    obtain rfl := List.inj_on_of_nodup_map once declared declaredToo same
    simpa using desired
  · intro desired
    exact ⟨d, declared, rfl, by simpa using desired⟩

theorem enables_steps_of_missing {service : String} (missing : service ∉ ds.map (·.name)) :
    enables (steps ds) service = false := by
  rw [Bool.eq_false_iff, ne_eq, enables_steps]
  rintro ⟨d, declared, rfl, -⟩
  exact missing (List.mem_map_of_mem declared)

/-- A planned pass succeeds and leaves every declared service as declared, from whatever state the
host is in. What is not declared stays as it was. -/
theorem apply_reaches_declared {platform : String} {host : Host ρ} {plan : Plan}
    (planned : Plan.make paths host.files platform ds = .ok plan)
    (obliging : Obliging paths runner running ds fit) (fits : fit host) (runId : RunId) :
    let ending := Pass.apply paths runner runId platform ds host
    ending.result = .ok () ∧
      (∀ d ∈ ds, running ending.host d.name = d.leaves?.getD (running host d.name) ∧
        BootLink.present ending.host.files paths.rcRoot d.name =
          (d.desired.contains .enable || BootLink.present host.files paths.rcRoot d.name)) ∧
      ∀ service, service ∉ ds.map (·.name) →
        running ending.host service = running host service ∧
          BootLink.present ending.host.files paths.rcRoot service =
            BootLink.present host.files paths.rcRoot service := by
  obtain ⟨⟨sound, once⟩, -⟩ := (Plan.make_eq_ok_iff _ _ _ _ _).1 planned
  obtain ⟨result, -, left, -⟩ := Pass.apply_of_planned paths runner planned runId
  obtain ⟨passed, reaches⟩ := follow_reaches obliging (fun _ member => member) fits
  dsimp only
  rw [result, left, Course.result, passed]
  refine ⟨rfl, fun d declared => ⟨?_, ?_⟩, fun service missing => ⟨?_, ?_⟩⟩
  · rw [reaches.runs, turned_steps_of_declared declared once]
  · rw [reaches.linked, enables_steps_of_declared declared once]
  · rw [reaches.runs, turned_steps_of_missing missing, Option.getD_none]
  · rw [reaches.linked, enables_steps_of_missing missing, Bool.false_or]

section Sample

open Sample ModelHost

-- A model host that makes every change obliges, on files where the links can be made.
theorem runner_obliging (distinct : Distinct paths ds) (known : FileSystem → Prop)
    (links : ∀ d ∈ ds, .enable ∈ d.desired → ∀ files, known files →
      ∃ made, linked? paths ds d.name files = some made ∧ known made) :
    Obliging paths (ModelHost.runner paths ds) ModelHost.running ds
      fun h => known h.files ∧ h.rest.fates = [] := by
  constructor
  · rintro d declared - h ⟨files, fates⟩
    obtain ⟨r, result, success, same⟩ := (runner_allOrNothing distinct).status d declared h
    refine ⟨?_, ⟨r, result, success⟩, same⟩
    simp only [ModelHost.runner, find_status distinct declared]
    exact ⟨files, fates⟩
  · rintro s member h ⟨files, fates⟩
    obtain ⟨declared, desired⟩ := mem_steps.1 member
    obtain ⟨query, own⟩ := find_action distinct member
    -- Where all changes are made no fate is left to be spent.
    have later : { h with rest := { h.rest with fates := h.rest.fates.tail } } = h := by
      rw [fates, List.tail_nil, ← fates]
    obtain ⟨changed, done, kept⟩ : ∃ changed, after? paths ds h (ofStep s) = some changed ∧
        known changed.files ∧ changed.rest.fates = [] := by
      rcases s with ⟨d, a⟩
      cases a with
      | enable =>
        obtain ⟨made, linked, keeps⟩ := links d declared desired h.files files
        exact ⟨{ h with files := made }, by simp [after?, ofStep, linked], keeps, fates⟩
      | start | stop | restart => exact ⟨_, rfl, files, fates⟩
    have answer : ModelHost.runner paths ds h (actionCommand paths s.1 s.2) =
        { result := .ok (.ofExitCode 0), host := changed } := by
      simp only [ModelHost.runner, query, own, later, Option.bind_some, done]
      rw [fates]
      rfl
    rw [answer]
    exact ⟨kept, rfl, after?_shows done⟩

theorem apply_reaches_declared_flaky :
    let host := flakyHost files ["db", "cron"] []
    let ending := Pass.apply {} flaky (.ofNat 5) "ubuntu" [web, db] host
    Plan.make {} host.files "ubuntu" [web, db] =
        .ok ⟨"ubuntu", [⟨web, .debianInit⟩, ⟨db, .debianInit⟩]⟩ ∧
      Obliging {} flaky ModelHost.running [web, db]
        (fun h => (h.files = files ∨ h.files = linkedFiles) ∧ h.rest.fates = []) ∧
      ending.result = .ok () ∧
      (ModelHost.running ending.host "web" = true ∧ ModelHost.running ending.host "db" = false ∧
        ModelHost.running ending.host "cron" = true) ∧
      BootLink.present ending.host.files "/etc" "web" = true ∧
      BootLink.present ending.host.files "/etc" "db" = false := by
  have distinct : Distinct {} [web, db] := ⟨by decide, by decide, overridesApart_sample⟩
  have obliging : Obliging {} flaky ModelHost.running [web, db]
      (fun h => (h.files = files ∨ h.files = linkedFiles) ∧ h.rest.fates = []) := by
    refine runner_obliging distinct (fun fs => fs = files ∨ fs = linkedFiles) ?_
    intro d declared desired fs known
    rcases List.mem_pair.1 declared with rfl | rfl
    · exact ⟨linkedFiles, linked_web known, .inr rfl⟩
    · simp [db] at desired
  have planned : Plan.make {} (flakyHost files ["db", "cron"] []).files "ubuntu" [web, db] =
      .ok ⟨"ubuntu", [⟨web, .debianInit⟩, ⟨db, .debianInit⟩]⟩ := Sample.planned (.inl rfl)
  obtain ⟨result, declared, others⟩ :=
    apply_reaches_declared planned obliging ⟨.inl rfl, rfl⟩ (.ofNat 5)
  have absent : BootLink.present files "/etc" db.name = false := present_eq (.inl rfl) _
  obtain ⟨webRuns, webLinked⟩ := declared web (by simp)
  obtain ⟨dbRuns, dbLinked⟩ := declared db (by simp)
  refine ⟨planned, obliging, result, ⟨webRuns, dbRuns, (others "cron" (by decide)).1⟩, webLinked, ?_⟩
  exact dbLinked.trans absent

end Sample

end DeclaredState

end Converge
