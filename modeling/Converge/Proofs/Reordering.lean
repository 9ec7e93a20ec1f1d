import Converge.Proofs.Confinement
import Converge.Proofs.Reporting

set_option autoImplicit false

namespace Converge

variable {ρ : Type}

/-- Each command has one result, and no command changes a file. -/
structure Runner.Steady (runner : Runner ρ) : Prop where
  result : ∀ c h h', (runner h c).result = (runner h' c).result
  files : ∀ c h, (runner h c).host.files = h.files

def Outcome.untimed (o : Outcome) : Outcome := { o with milliseconds := 0 }

namespace Course

def shape (c : Course ρ) : List (Purpose × Command) × Option ApplyError :=
  (c.issues.map fun i => (i.purpose, i.command), c.failure)

theorem failure_of_shape {c other : Course ρ} (same : c.shape = other.shape) :
    c.failure = other.failure :=
  congrArg Prod.snd same

theorem commands_of_shape {c other : Course ρ} (same : c.shape = other.shape) :
    c.commands = other.commands := by
  have issues := congrArg (fun s => s.1.map Prod.snd) same
  simpa [shape, commands, Function.comp_def] using issues

theorem lines_of_shape {c other : Course ρ} (same : c.shape = other.shape) :
    c.lines = other.lines := by
  have changes (c : Course ρ) :
      c.lines = (c.shape.1.filter (·.1 == .change)).map (·.2.line) := by
    simp [shape, lines, Course.changes, List.filter_map, Function.comp_def]
  rw [changes, changes, same]

theorem andThen_shape {c other : Course ρ} {next nextOther : Host ρ → Course ρ}
    (first : c.shape = other.shape) (rest : (next c.host).shape = (nextOther other.host).shape) :
    (c.andThen next).shape = (other.andThen nextOther).shape := by
  have failures := failure_of_shape first
  cases failed : c.failure with
  | some e =>
    rw [andThen_of_failure failed, andThen_of_failure (failures ▸ failed)]
    exact first
  | none =>
    rw [andThen_of_success failed, andThen_of_success (failures ▸ failed)]
    simp only [shape, Prod.mk.injEq, List.map_append] at first rest ⊢
    exact ⟨by rw [first.1, rest.1], rest.2⟩

theorem alone_shape (s : Step) {i other : Issue ρ} (purpose : i.purpose = other.purpose)
    (command : i.command = other.command) (result : i.reply.result = other.reply.result) :
    (alone s i).shape = (alone s other).shape := by
  simp only [shape, alone, Issue.failure?, List.map_singleton, purpose, command, result]

variable (paths : Paths) {runner : Runner ρ} (steady : runner.Steady)

include steady

theorem follow_files (ss : List Step) (h : Host ρ) :
    (follow paths runner ss h).host.files = h.files := by
  apply follow_induct paths runner (P := fun h c => c.host.files = h.files)
  · exact fun h => rfl
  · exact fun s h => steady.files _ h
  · exact fun s h => steady.files _ h
  · intro h c next first rest
    cases failed : c.failure with
    | some e => rwa [andThen_of_failure failed]
    | none =>
      rw [andThen_of_success failed]
      exact (rest c.host).trans first

theorem step_files (s : Step) (h : Host ρ) : (step paths runner s h).host.files = h.files := by
  rw [← follow_singleton]
  exact follow_files paths steady [s] h

theorem ask_shape (s : Step) (h h' : Host ρ) :
    (alone s (ask paths runner s.1 h)).shape = (alone s (ask paths runner s.1 h')).shape :=
  alone_shape s rfl rfl (steady.result _ h h')

theorem ask_succeeded (d : Declaration) (h h' : Host ρ) :
    (ask paths runner d h).succeeded = (ask paths runner d h').succeeded := by
  simp only [ask, Issue.succeeded, Response.succeeded, steady.result _ h h']

theorem change_shape (s : Step) (h h' : Host ρ) :
    (change paths runner s h).shape = (change paths runner s h').shape :=
  alone_shape s rfl rfl (steady.result _ h h')

theorem changeUnless_shape (settled : Bool) (s : Step) (h h' : Host ρ) :
    (changeUnless paths runner settled s h).shape =
      (changeUnless paths runner settled s h').shape := by
  simp only [changeUnless, ask_succeeded paths steady s.1 h h']
  split_ifs
  · exact ask_shape paths steady s h h'
  · exact andThen_shape (ask_shape paths steady s h h') (change_shape paths steady s _ _)
  · exact change_shape paths steady s h h'

-- Of a host only the files count, for the boot links in them.
theorem step_shape (s : Step) {h h' : Host ρ} (files : h.files = h'.files) :
    (step paths runner s h).shape = (step paths runner s h').shape := by
  rcases s with ⟨d, _ | _ | _ | _⟩
  · simp only [step, files]
    split_ifs
    · rfl
    · exact change_shape paths steady _ h h'
  · exact changeUnless_shape paths steady true _ h h'
  · exact changeUnless_shape paths steady false _ h h'
  · exact change_shape paths steady _ h h'

theorem follow_shape (ss : List Step) {h h' : Host ρ} (files : h.files = h'.files) :
    (follow paths runner ss h).shape = (follow paths runner ss h').shape := by
  induction ss generalizing h h' with
  | nil => rfl
  | cons s rest ih =>
    refine andThen_shape (step_shape paths steady s files) (ih ?_)
    rw [step_files paths steady, step_files paths steady, files]

theorem outcomes_untimed (kind : ProviderKind) (ss : List Step) {h h' : Host ρ}
    (files : h.files = h'.files) :
    (outcomes paths runner kind ss h).map (·.untimed) =
      (outcomes paths runner kind ss h').map (·.untimed) := by
  induction ss generalizing h h' with
  | nil => rfl
  | cons s rest ih =>
    have same := step_shape paths steady s files
    have left : (step paths runner s h).host.files = (step paths runner s h').host.files := by
      rw [step_files paths steady, step_files paths steady, files]
    simp only [outcomes, failure_of_shape same]
    cases (step paths runner s h').failure with
    | some e => rfl
    | none =>
      have head : (outcome kind s h (step paths runner s h)).untimed =
          (outcome kind s h' (step paths runner s h')).untimed := by
        simp only [outcome, Outcome.untimed, lines_of_shape same]
      simp only [List.map_cons, head, ih left]

omit steady in
theorem steps_cons (d : Declaration) (ds : List Declaration) :
    steps (d :: ds) = steps [d] ++ steps ds := by
  simp [steps]

-- A course over declarations is made of their courses alone, as far as it goes.
theorem follow_blocks (kind : ProviderKind) (ds : List Declaration) (h : Host ρ) :
    ((follow paths runner (steps ds) h).failure = none ↔
      ∀ d ∈ ds, (follow paths runner (steps [d]) h).failure = none) ∧
    ((follow paths runner (steps ds) h).failure = none →
      (follow paths runner (steps ds) h).commands =
          ds.flatMap (fun d => (follow paths runner (steps [d]) h).commands) ∧
        (outcomes paths runner kind (steps ds) h).map (·.untimed) =
          ds.flatMap fun d => (outcomes paths runner kind (steps [d]) h).map (·.untimed)) := by
  induction ds with
  | nil => simp [steps, follow, idle, commands, outcomes]
  | cons d rest ih =>
    obtain ⟨passes, blocks⟩ := ih
    rw [steps_cons, follow_append, outcomes_append]
    cases failed : (follow paths runner (steps [d]) h).failure with
    | some e =>
      rw [andThen_of_failure failed]
      simp [failed]
    | none =>
      -- What follows starts from another host, with the same files.
      have left := follow_files paths steady (steps [d]) h
      have same := follow_shape paths steady (steps rest) left
      have untimed := outcomes_untimed paths steady kind (steps rest) left
      rw [andThen_of_success failed]
      simp only [failure_of_shape same, passes, List.forall_mem_cons, failed, true_and,
        List.flatMap_cons, commands, List.map_append]
      intro all
      obtain ⟨issued, recorded⟩ := blocks (passes.2 all)
      have later := commands_of_shape same
      simp only [commands] at later issued
      exact ⟨by rw [later, issued], by rw [untimed, recorded]⟩

end Course

namespace Plan

theorem AllSound.perm {kind : ProviderKind} {hasScript : String → Bool}
    {ds others : List Declaration} (perm : ds.Perm others) :
    AllSound kind hasScript ds ↔ AllSound kind hasScript others := by
  unfold AllSound
  rw [(perm.map _).nodup_iff]
  simp only [perm.mem_iff]

theorem make_perm (paths : Paths) (files : FileSystem) (platform : String)
    {ds others : List Declaration} (perm : ds.Perm others) :
    (∃ plan, make paths files platform ds = .ok plan) ↔
      ∃ plan, make paths files platform others = .ok plan := by
  simp only [make_eq_ok_iff, AllSound.perm perm, exists_and_left, exists_eq, and_true]

theorem make_alone {paths : Paths} {files : FileSystem} {platform : String}
    {ds : List Declaration} {plan : Plan} (planned : make paths files platform ds = .ok plan)
    {d : Declaration} (declared : d ∈ ds) : ∃ own, make paths files platform [d] = .ok own := by
  obtain ⟨⟨sound, -⟩, -⟩ := (make_eq_ok_iff _ _ _ _ _).1 planned
  exact ⟨_, (make_eq_ok_iff _ _ _ _ _).2 ⟨⟨by simpa using sound d declared, by simp⟩, rfl⟩⟩

end Plan

namespace Pass

open Course

theorem result_eq_ok_iff {c : Course ρ} : c.result = .ok () ↔ c.failure = none := by
  unfold Course.result
  cases c.failure <;> simp

-- What a pass over one declaration alone issues and records, durations aside.
def block (paths : Paths) (runner : Runner ρ) (runId : RunId) (platform : String) (host : Host ρ)
    (d : Declaration) : List Command × List Outcome :=
  let alone := apply paths runner runId platform [d] host
  (alone.issued, alone.report.outcomes.map (·.untimed))

section

variable {paths : Paths} {runner : Runner ρ} {platform : String} {ds : List Declaration}
  {host : Host ρ}

theorem planned_of_passed {runId : RunId}
    (passed : (apply paths runner runId platform ds host).result = .ok ()) :
    ∃ plan, Plan.make paths host.files platform ds = .ok plan := by
  cases planned : Plan.make paths host.files platform ds with
  | ok plan => exact ⟨plan, rfl⟩
  | error e =>
    have refused := (apply_of_unplanned planned runner runId).1
    simp [refused] at passed

variable {plan : Plan} (planned : Plan.make paths host.files platform ds = .ok plan)

include planned

theorem apply_alone {d : Declaration} (declared : d ∈ ds) (runId : RunId) :
    let course := follow paths runner (steps [d]) host
    (apply paths runner runId platform [d] host).result = course.result ∧
      block paths runner runId platform host d =
        (course.commands,
          (outcomes paths runner (.ofPlatform platform) (steps [d]) host).map (·.untimed)) := by
  obtain ⟨own, alone⟩ := Plan.make_alone planned declared
  obtain ⟨result, issued, -, report⟩ := apply_of_planned paths runner alone runId
  exact ⟨result, by simp only [block, issued, report, Report.close_outcomes]⟩

theorem apply_blocks (steady : runner.Steady) (runId blockId : RunId) :
    let ending := apply paths runner runId platform ds host
    (ending.result = .ok () ↔
        ∀ d ∈ ds, (apply paths runner blockId platform [d] host).result = .ok ()) ∧
      (ending.result = .ok () →
        ending.issued = ds.flatMap (fun d => (block paths runner blockId platform host d).1) ∧
          ending.report.outcomes.map (·.untimed) =
            ds.flatMap fun d => (block paths runner blockId platform host d).2) := by
  obtain ⟨result, issued, -, report⟩ := apply_of_planned paths runner planned runId
  obtain ⟨passes, blocks⟩ := follow_blocks paths steady (.ofPlatform platform) ds host
  simp only [result, issued, report, Report.close_outcomes, result_eq_ok_iff]
  refine ⟨passes.trans (forall₂_congr fun d declared => ?_), fun passed => ?_⟩
  · rw [(apply_alone planned declared blockId).1, result_eq_ok_iff]
  · obtain ⟨commands, recorded⟩ := blocks passed
    rw [commands, recorded]
    constructor
    · refine List.flatMap_congr fun d declared => ?_
      rw [(apply_alone planned declared blockId).2]
    · refine List.flatMap_congr fun d declared => ?_
      rw [(apply_alone planned declared blockId).2]

theorem block_steps {d : Declaration} (declared : d ∈ ds) {runId : RunId}
    (passed : (apply paths runner runId platform [d] host).result = .ok ()) :
    (block paths runner runId platform host d).2.map (fun o => (o.service, o.action)) =
      d.desired.map fun a => (d.name, a) := by
  obtain ⟨result, own⟩ := apply_alone planned declared runId
  rw [result, result_eq_ok_iff] at passed
  have recorded := outcomes_steps paths runner (.ofPlatform platform) (steps [d]) host
  simp only [passed] at recorded
  rw [own, List.map_map]
  refine Eq.trans recorded ?_
  simp [steps]

end

theorem passed_iff {paths : Paths} {runner : Runner ρ} (steady : runner.Steady) {platform : String}
    {ds : List Declaration} {host : Host ρ} (runId blockId : RunId) :
    (apply paths runner runId platform ds host).result = .ok () ↔
      (∃ plan, Plan.make paths host.files platform ds = .ok plan) ∧
        ∀ d ∈ ds, (apply paths runner blockId platform [d] host).result = .ok () := by
  constructor
  · intro passed
    obtain ⟨plan, planned⟩ := planned_of_passed passed
    exact ⟨⟨plan, planned⟩, (apply_blocks planned steady runId blockId).1.1 passed⟩
  · rintro ⟨⟨plan, planned⟩, each⟩
    exact (apply_blocks planned steady runId blockId).1.2 each

/-- Declarations in another order are planned alike, and where commands are steady a pass over them
passes alike, with the blocks of the declarations in that order. -/
theorem reordering_moves_blocks (paths : Paths) (platform : String) {ds others : List Declaration}
    (perm : ds.Perm others) (host : Host ρ) :
    ((∃ plan, Plan.make paths host.files platform ds = .ok plan) ↔
      ∃ plan, Plan.make paths host.files platform others = .ok plan) ∧
    ∀ runner : Runner ρ, runner.Steady → ∀ runId otherId,
      let first := apply paths runner runId platform ds host
      let second := apply paths runner otherId platform others host
      let block := block paths runner runId platform host
      (first.result = .ok () ↔ second.result = .ok ()) ∧
      (first.result = .ok () →
        first.issued = ds.flatMap (fun d => (block d).1) ∧
        second.issued = others.flatMap (fun d => (block d).1) ∧
        first.report.outcomes.map (·.untimed) = ds.flatMap (fun d => (block d).2) ∧
        second.report.outcomes.map (·.untimed) = others.flatMap (fun d => (block d).2) ∧
        ∀ d ∈ ds, (block d).2.map (fun o => (o.service, o.action)) =
          d.desired.map fun a => (d.name, a)) := by
  have plans := Plan.make_perm paths host.files platform perm
  refine ⟨plans, fun runner steady runId otherId => ?_⟩
  intro first second block
  have passes : first.result = .ok () ↔ second.result = .ok () := by
    rw [passed_iff steady runId runId, passed_iff steady otherId runId, plans]
    simp only [perm.mem_iff]
  refine ⟨passes, fun passed => ?_⟩
  obtain ⟨plan, planned⟩ := planned_of_passed passed
  obtain ⟨other, plannedOther⟩ := plans.1 ⟨plan, planned⟩
  obtain ⟨each, blocks⟩ := apply_blocks planned steady runId runId
  obtain ⟨issued, recorded⟩ := blocks passed
  obtain ⟨issuedOther, recordedOther⟩ :=
    (apply_blocks plannedOther steady otherId runId).2 (passes.1 passed)
  exact ⟨issued, issuedOther, recorded, recordedOther,
    fun d declared => block_steps planned declared (each.1 passed d declared)⟩

end Pass

namespace Sample

theorem steady_willing : willing.Steady :=
  ⟨fun _ _ _ => rfl, fun _ _ => rfl⟩

end Sample

namespace Pass

open Course Sample

theorem reordering_moves_blocks_willing :
    [web, db].Perm [db, web] ∧
      let first := apply {} willing (.ofNat 7) "ubuntu" [web, db] host
      let second := apply {} willing (.ofNat 8) "ubuntu" [db, web] host
      first.result = .ok () ∧ second.result = .ok () ∧
        first.issued = [⟨"update-rc.d", ["web", "defaults"]⟩, ⟨"/etc/init.d/web", ["status"]⟩,
          ⟨"/etc/init.d/web", ["start"]⟩, ⟨"/etc/init.d/db", ["status"]⟩, ⟨"dbctl", ["halt"]⟩] ∧
        second.issued = [⟨"/etc/init.d/db", ["status"]⟩, ⟨"dbctl", ["halt"]⟩,
          ⟨"update-rc.d", ["web", "defaults"]⟩, ⟨"/etc/init.d/web", ["status"]⟩,
          ⟨"/etc/init.d/web", ["start"]⟩] := by
  have perm : [web, db].Perm [db, web] := .swap db web []
  have planned : Plan.make {} host.files "ubuntu" [web, db] = _ := Sample.planned (.inl rfl)
  obtain ⟨result, -⟩ := apply_of_planned {} willing planned (.ofNat 7)
  have passed : (apply {} willing (.ofNat 7) "ubuntu" [web, db] host).result = .ok () := by
    rw [result, result_eq_ok_iff, follow_steps]
    decide
  obtain ⟨passes, moves⟩ :=
    (reordering_moves_blocks {} "ubuntu" perm host).2 willing steady_willing (.ofNat 7) (.ofNat 8)
  obtain ⟨issued, issuedOther, -⟩ := moves passed
  have blockWeb : (block {} willing (.ofNat 7) "ubuntu" host web).1 =
      [⟨"update-rc.d", ["web", "defaults"]⟩, ⟨"/etc/init.d/web", ["status"]⟩,
        ⟨"/etc/init.d/web", ["start"]⟩] := by
    rw [(apply_alone planned (by simp) (.ofNat 7)).2]
    change ((step {} willing (web, .enable) host).andThen _).commands = _
    rw [step_web_enable willing rfl]
    decide
  have blockDb : (block {} willing (.ofNat 7) "ubuntu" host db).1 =
      [⟨"/etc/init.d/db", ["status"]⟩, ⟨"dbctl", ["halt"]⟩] := by
    rw [(apply_alone planned (by simp) (.ofNat 7)).2]
    decide
  refine ⟨perm, passed, passes.1 passed, ?_, ?_⟩
  · simp [issued, blockWeb, blockDb]
  · simp [issuedOther, blockWeb, blockDb]

end Pass

end Converge
