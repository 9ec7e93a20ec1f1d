import Converge.Proofs.Course

set_option autoImplicit false

namespace Converge

variable {ρ : Type}

namespace Provider

open Course Work

variable (kind : ProviderKind) (paths : Paths) (runner : Runner ρ)

theorem isEnabled_ends (service : String) (h : Host ρ) :
    Ends (isEnabled ⟨.debianInit, paths, runner⟩ service) h
      (.ok (BootLink.present h.files paths.rcRoot service)) h [] [] := by
  apply (ends_host h).after
  exact ends_pure _ h

theorem queryStatus_ends (d : Declaration) (h : Host ρ) :
    Ends (queryStatus ⟨kind, paths, runner⟩ d.name) h
      ((ask paths runner d h).reply.result.map (·.success)) (ask paths runner d h).reply.host
      [statusCommand paths d] [] := by
  have issued := ends_issue runner (statusCommand paths d) h
  cases given : (runner h (statusCommand paths d)).result with
  | error e =>
    rw [given] at issued
    simp only [ask, given, Except.map]
    exact issued.bind_error _
  | ok r =>
    rw [given] at issued
    simp only [ask, given, Except.map]
    apply issued.before
    apply (ends_say _ _ _ _ _).after
    exact ends_pure _ _

theorem runChecked_ends (d : Declaration) (a : Action) (h : Host ρ) :
    Ends (runChecked ⟨kind, paths, runner⟩ d.name a (actionCommand paths d a)) h
      ((change paths runner (d, a) h).result.map fun _ => (actionCommand paths d a).line)
      (change paths runner (d, a) h).host [actionCommand paths d a] [] := by
  have issued := ends_issue runner (actionCommand paths d a) h
  apply (ends_say _ _ _ _ _).after
  simp only [change, alone, attempt, Issue.failure?, Course.result, reduceCtorEq, false_or]
  cases given : (runner h (actionCommand paths d a)).result with
  | error e =>
    rw [given] at issued
    exact issued.bind_error _
  | ok r =>
    rw [given] at issued
    apply issued.before
    by_cases success : r.success = true
    · simp only [success, if_true, Except.map]
      apply (ends_say _ _ _ _ _).after
      exact ends_pure _ _
    · simp only [success, Except.map]
      apply (ends_say _ _ _ _ _).after
      exact ends_throw _ _

end Provider

namespace Pass

open Course Work

variable (paths : Paths) (runner : Runner ρ)

theorem change_ends (kind : ProviderKind) (d : Declaration) (a : Action) (h : Host ρ) :
    Ends (do
        return [← Provider.runChecked ⟨kind, paths, runner⟩ d.name a (actionCommand paths d a)])
      h (change paths runner (d, a) h).answer (change paths runner (d, a) h).host
      (change paths runner (d, a) h).commands [] := by
  have checked := Provider.runChecked_ends kind paths runner d a h
  cases failed : (change paths runner (d, a) h).failure with
  | some e =>
    simp only [Course.result, failed, Except.map] at checked
    simp only [Course.answer, failed]
    exact checked.bind_error _
  | none =>
    simp only [Course.result, failed, Except.map] at checked
    simp only [Course.answer, failed]
    exact checked.before (ends_pure _ _)

theorem stopCommand_eq {kind : ProviderKind} {hasScript : String → Bool} {d : Declaration}
    (sound : Plan.Sound kind hasScript d) :
    Provider.stopCommand ⟨kind, paths, runner⟩ d = .ok (actionCommand paths d .stop) := by
  cases given : d.stopOverride with
  | none => simp [Provider.stopCommand, Provider.script, actionCommand, given]
  | some line =>
    obtain ⟨command, read⟩ := sound.override_read given
    simp [Provider.stopCommand, actionCommand, given, read, (Command.ofOverride_eq_ok_iff _ _).2 read]

theorem running_ends (kind : ProviderKind) (d : Declaration) (h : Host ρ) :
    if d.supports .status then
      Ends (running ⟨kind, paths, runner⟩ d) h
        ((ask paths runner d h).reply.result.map fun r => some r.success)
        (ask paths runner d h).reply.host [statusCommand paths d] []
    else Ends (running ⟨kind, paths, runner⟩ d) h (.ok none) h [] [] := by
  by_cases asks : d.supports .status = true
  · have asked := Provider.queryStatus_ends kind paths runner d h
    simp only [running, asks, if_true]
    cases given : (ask paths runner d h).reply.result with
    | error e =>
      rw [given] at asked
      exact asked.bind_error _
    | ok r =>
      rw [given] at asked
      exact asked.before (ends_pure _ _)
  · simp only [running, asks]
    exact ends_pure none h

theorem changeUnless_ends {kind : ProviderKind} {settled : Bool} {d : Declaration} {a : Action}
    {w : Work ρ (List String)}
    (acts : ∀ h, Ends w h (change paths runner (d, a) h).answer (change paths runner (d, a) h).host
      (change paths runner (d, a) h).commands []) (h : Host ρ) :
    let c := changeUnless paths runner settled (d, a) h
    Ends (do
        if (← running ⟨kind, paths, runner⟩ d) = some settled then return []
        else w) h c.answer c.host c.commands [] := by
  have asked := running_ends paths runner kind d h
  by_cases asks : d.supports .status = true
  · simp only [asks, if_true] at asked
    simp only [changeUnless, asks, if_true]
    cases given : (ask paths runner d h).reply.result with
    | error e =>
      rw [given] at asked
      have failed := ask_fails paths runner (s := (d, a)) given
      rw [andThen_of_failure failed, ite_self]
      simp only [answer, failed]
      exact asked.bind_error _
    | ok r =>
      rw [given] at asked
      have passed := ask_passes paths runner (s := (d, a)) given
      have told : (ask paths runner d h).succeeded = r.success := by
        simp [Issue.succeeded, Response.succeeded, given]
      by_cases same : r.success = settled
      · simp only [told, same, if_true, answer, passed]
        apply asked.before
        simp only [same, if_true]
        exact ends_pure _ _
      · have rest := asked.bind (f := fun state => if state = some settled then pure [] else w)
          (by simpa [same] using acts _)
        simp only [told, same, andThen_of_success passed]
        exact rest
  · simp only [asks] at asked
    simp only [changeUnless, asks]
    exact asked.after (acts h)

theorem perform_ends {kind : ProviderKind} {hasScript : String → Bool} {d : Declaration}
    (sound : Plan.Sound kind hasScript d) {a : Action} (desired : a ∈ d.desired) (h : Host ρ) :
    let c := step paths runner (d, a) h
    Ends (perform ⟨kind, paths, runner⟩ d a) h c.answer c.host c.commands [] := by
  have acts := change_ends paths runner kind d a
  cases a with
  | enable =>
    -- Only the Debian provider recognizes enabling, and only it looks for boot links.
    have family : kind = .debianInit := by
      cases kind with
      | debianInit => rfl
      | genericInit => simpa [ProviderKind.recognizes] using sound.recognized .enable desired
    subst family
    apply (Provider.isEnabled_ends paths runner d.name h).after
    by_cases linked : BootLink.present h.files paths.rcRoot d.name = true
    · simp only [step, linked, if_true]
      exact ends_pure _ h
    · simp only [step, linked]
      exact acts h
  | start => exact changeUnless_ends paths runner acts h
  | stop =>
    refine changeUnless_ends paths runner (fun h => ?_) h
    have command := stopCommand_eq paths runner sound
    simp only [Provider.stop, command]
    exact acts h
  | restart => exact acts h

theorem reach_ends {kind : ProviderKind} {hasScript : String → Bool} {d : Declaration}
    (sound : Plan.Sound kind hasScript d) {a : Action} (desired : a ∈ d.desired) (h : Host ρ) :
    let c := step paths runner (d, a) h
    Ends (reach ⟨kind, paths, runner⟩ d a) h c.result c.host c.commands
      (outcomes paths runner kind [(d, a)] h) := by
  have performed := perform_ends paths runner sound desired h
  apply (ends_host h).after
  cases failed : (step paths runner (d, a) h).failure with
  | some e =>
    simp only [answer, failed] at performed
    simp only [result, outcomes, failed]
    exact performed.bind_error _
  | none =>
    simp only [answer, failed] at performed
    simp only [result, outcomes, failed]
    apply performed.before
    split
    next =>
      apply (ends_say _ _ _ _ _).after
      exact (ends_host _).after (ends_record _ _)
    next => exact (ends_host _).after (ends_record _ _)

def Carries (kind : ProviderKind) (w : Work ρ Unit) (ss : List Step) : Prop :=
  ∀ h, Ends w h (follow paths runner ss h).result (follow paths runner ss h).host
    (follow paths runner ss h).commands (outcomes paths runner kind ss h)

theorem Carries.append {paths : Paths} {runner : Runner ρ} {kind : ProviderKind}
    {w v : Work ρ Unit} {xs ys : List Step}
    (first : Carries paths runner kind w xs) (next : Carries paths runner kind v ys) :
    Carries paths runner kind (do w; v) (xs ++ ys) := by
  intro h
  have one := first h
  cases failed : (follow paths runner xs h).failure with
  | some e =>
    rw [follow_append, andThen_of_failure failed, outcomes_append, failed, List.append_nil]
    simp only [result, failed] at one ⊢
    exact one.bind_error _
  | none =>
    have two := next (follow paths runner xs h).host
    rw [follow_append, andThen_of_success failed, outcomes_append, failed]
    simp only [result, failed] at one
    simpa [commands, result] using one.bind two

theorem carries_forM {paths : Paths} {runner : Runner ρ} {kind : ProviderKind} {α : Type}
    {f : α → Work ρ Unit} {g : α → List Step} {xs : List α}
    (each : ∀ x ∈ xs, Carries paths runner kind (f x) (g x)) :
    Carries paths runner kind (xs.forM f) (xs.flatMap g) := by
  induction xs with
  | nil => exact fun h => ends_pure () h
  | cons x rest ih =>
    rw [List.flatMap_cons]
    exact (each x (by simp)).append (ih fun y member => each y (by simp [member]))

theorem converge_carries {kind : ProviderKind} {hasScript : String → Bool} {d : Declaration}
    (sound : Plan.Sound kind hasScript d) :
    Carries paths runner kind (converge paths runner ⟨d, kind⟩)
      (d.desired.map fun a => (d, a)) := by
  intro h
  apply (ends_say _ _ _ _ _).after
  -- Each action is a list of one step, so that actions and services run by the same loop.
  rw [List.map_eq_flatMap]
  refine carries_forM (fun a desired => ?_) h
  intro h
  simp only [follow_singleton]
  exact reach_ends paths runner sound desired h

theorem execute_carries {kind : ProviderKind} {hasScript : String → Bool} {ds : List Declaration}
    (sound : ∀ d ∈ ds, Plan.Sound kind hasScript d) (platform : String) :
    Carries paths runner kind
      (execute paths runner ⟨platform, ds.map fun d => ⟨d, kind⟩⟩) (steps ds) := by
  have carried : Carries paths runner kind
      ((ds.map fun d => PlannedService.mk d kind).forM (converge paths runner))
      ((ds.map fun d => PlannedService.mk d kind).flatMap fun s =>
        s.declaration.desired.map fun a => (s.declaration, a)) := by
    apply carries_forM
    intro s member
    obtain ⟨d, declared, rfl⟩ := List.mem_map.1 member
    exact converge_carries paths runner (sound d declared)
  rw [List.flatMap_map] at carried
  exact carried

theorem work_ends_of_planned {platform : String} {ds : List Declaration} {host : Host ρ}
    {plan : Plan} (planned : Plan.make paths host.files platform ds = .ok plan) :
    Ends (work paths runner platform ds) host (follow paths runner (steps ds) host).result
      (follow paths runner (steps ds) host).host (follow paths runner (steps ds) host).commands
      (outcomes paths runner (.ofPlatform platform) (steps ds) host) := by
  obtain ⟨⟨sound, -⟩, rfl⟩ := (Plan.make_eq_ok_iff _ _ _ _ _).1 planned
  apply (ends_host host).after
  apply (ends_tell _ host).after
  rw [planned]
  exact execute_carries paths runner sound platform host

theorem apply_of_planned {platform : String} {ds : List Declaration} {host : Host ρ}
    {plan : Plan} (planned : Plan.make paths host.files platform ds = .ok plan) (runId : RunId) :
    let course := follow paths runner (steps ds) host
    let ending := apply paths runner runId platform ds host
    ending.result = course.result ∧ ending.issued = course.commands ∧ ending.host = course.host ∧
      ending.report = { Report.start runId ⟨host.wall⟩ platform with
        outcomes := outcomes paths runner (.ofPlatform platform) (steps ds) host }.close
          ⟨course.host.wall⟩ course.result :=
  apply_of_ends (work_ends_of_planned paths runner planned) runId

/-- A planned pass issues the commands of its declared steps, each on the host that the last one
left, and nothing after the first runner error or unsuccessful change. -/
theorem issued_eq_declared {platform : String} {ds : List Declaration} {host : Host ρ} {plan : Plan}
    (planned : Plan.make paths host.files platform ds = .ok plan) (runId : RunId) :
    let ending := apply paths runner runId platform ds host
    let course := follow paths runner (steps ds) host
    ending.issued = course.commands ∧ ending.result = course.result ∧ ending.host = course.host ∧
      exchanges runner host ending.issued = course.dialogue ∧
      match ending.result with
      | .ok () => ∀ i ∈ course.issues, ¬ i.Stops
      | .error _ => ∃ passed last, course.issues = passed ++ [last] ∧
          (∀ i ∈ passed, ¬ i.Stops) ∧ last.Stops := by
  obtain ⟨result, issued, left, -⟩ := apply_of_planned paths runner planned runId
  have told := (follow_exchanges paths runner (steps ds) host).1
  have stops := follow_stopsAtFailure paths runner (steps ds) host
  refine ⟨issued, result, left, by rw [issued, told], ?_⟩
  rw [result]
  unfold StopsAtFailure at stops
  cases failed : (follow paths runner (steps ds) host).failure <;>
    simpa [Course.result, failed] using stops

end Pass

namespace Sample

def host : Host Unit := { files := files, clock := 0, wall := 0, rest := () }

-- No service runs, and none can be started.
def stuck : Runner Unit := fun h c =>
  let code := if c.args = ["status"] then 3 else if c.args = ["start"] then 1 else 0
  { result := .ok (.ofExitCode code), host := h }

theorem step_web_enable (runner : Runner ρ) {h : Host ρ} (unlinked : h.files = files) :
    Course.step {} runner (web, .enable) h = Course.change {} runner (web, .enable) h := by
  have absent : BootLink.present h.files Settings.Default.rcRoot web.name = false := by
    rw [unlinked]
    exact present_eq (.inl rfl) _
  simp [Course.step, absent]

end Sample

namespace Pass

open Course Sample

theorem issued_eq_declared_stuck :
    Plan.make {} host.files "ubuntu" [web, db] =
        .ok ⟨"ubuntu", [⟨web, .debianInit⟩, ⟨db, .debianInit⟩]⟩ ∧
      (apply {} stuck (.ofNat 7) "ubuntu" [web, db] host).issued =
        [⟨"update-rc.d", ["web", "defaults"]⟩, ⟨"/etc/init.d/web", ["status"]⟩,
          ⟨"/etc/init.d/web", ["start"]⟩] ∧
      (apply {} stuck (.ofNat 7) "ubuntu" [web, db] host).result =
        .error (.actionFailed "web" .start (some 1) "") := by
  have planned : Plan.make {} host.files "ubuntu" [web, db] =
      .ok ⟨"ubuntu", [⟨web, .debianInit⟩, ⟨db, .debianInit⟩]⟩ := Sample.planned (.inl rfl)
  obtain ⟨issued, result, -⟩ := issued_eq_declared {} stuck planned (.ofNat 7)
  have enabled : step {} stuck (web, .enable) host = change {} stuck (web, .enable) host := by
    have absent : BootLink.present host.files Settings.Default.rcRoot web.name = false :=
      present_eq (.inl rfl) _
    simp [step, absent]
  have course : follow {} stuck (steps [web, db]) host =
      ⟨[attempt {} stuck (web, .enable) host, ask {} stuck web host,
        attempt {} stuck (web, .start) host], host,
        some (.actionFailed "web" .start (some 1) "")⟩ := by
    change (step {} stuck (web, .enable) host).andThen _ = _
    rw [enabled]
    rfl
  rw [issued, result, course]
  exact ⟨planned, by decide, rfl⟩

end Pass

end Converge
