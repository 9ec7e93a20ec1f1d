import Converge.Proofs.Course
import Converge.Proofs.ServiceName

set_option autoImplicit false

namespace Converge

namespace BootLink

def startLink (service : String) : String := "S20" ++ service

theorem starts_startLink (a b : String) : starts (startLink a) b = true ↔ a = b := by
  have parts : (startLink a).toList = 'S' :: '2' :: '0' :: a.toList := by
    simp [startLink, String.toList_append]
  have digits : Text.Decimal.isDigit '2' = true ∧ Text.Decimal.isDigit '0' = true := by decide
  simp [starts, parts, digits, String.toList_inj]

def entries (paths : Paths) (files : FileSystem) (level : Nat) : List String :=
  match files.list (directory paths.rcRoot level) with
  | .ok names => names.map OsString.text
  | .error _ => []

theorem present_iff (paths : Paths) (files : FileSystem) (service : String) :
    present files paths.rcRoot service = true ↔
      ∃ level ∈ runlevels, ∃ entry ∈ entries paths files level, starts entry service = true := by
  unfold present
  rw [List.any_eq_true]
  refine exists_congr fun level => and_congr_right fun _ => ?_
  unfold entries
  split <;> simp_all

end BootLink

variable {ρ : Type}

namespace Course

variable {paths : Paths} {ds : List Declaration}

theorem mem_steps {s : Step} : s ∈ steps ds ↔ s.1 ∈ ds ∧ s.2 ∈ s.1.desired := by
  rcases s with ⟨d, a⟩
  simp only [steps, List.mem_flatMap, List.mem_map, Prod.mk.injEq]
  constructor
  · rintro ⟨_, declared, _, desired, rfl, rfl⟩
    exact ⟨declared, desired⟩
  · rintro ⟨declared, desired⟩
    exact ⟨d, declared, a, desired, rfl, rfl⟩

def OverridesApart (paths : Paths) (ds : List Declaration) : Prop :=
  ∀ d ∈ ds, d.stopOverride.isSome = true → ∀ other ∈ ds,
    statusCommand paths other ≠ actionCommand paths d .stop ∧
      ∀ a, actionCommand paths other a = actionCommand paths d .stop → other = d ∧ a = .stop

structure Distinct (paths : Paths) (ds : List Declaration) : Prop where
  named : ∀ d ∈ ds, ServiceName.fault? d.name = none
  once : (ds.map (·.name)).Nodup
  apart : OverridesApart paths ds

theorem Distinct.eq_of_name (distinct : Distinct paths ds) {d other : Declaration} (first : d ∈ ds)
    (second : other ∈ ds) (same : d.name = other.name) : d = other :=
  List.inj_on_of_nodup_map distinct.once first second same

theorem Distinct.eq_of_script (distinct : Distinct paths ds) {d other : Declaration}
    (first : d ∈ ds) (second : other ∈ ds)
    (same : (paths.initScript d.name).text = (paths.initScript other.name).text) : d = other :=
  distinct.eq_of_name first second
    (paths.text_initScript_injective (distinct.named d first) (distinct.named other second) same)

theorem actionCommand_of_plain (d : Declaration) (a : Action)
    (plain : a = .stop → d.stopOverride = none) :
    actionCommand paths d a =
      if a = .enable then ⟨"update-rc.d", [d.name, "defaults"]⟩
      else ⟨(paths.initScript d.name).text, [a.name]⟩ := by
  cases a <;> simp_all [actionCommand, Action.name]

theorem Distinct.statusCommand_ne (distinct : Distinct paths ds) {d other : Declaration}
    (first : d ∈ ds) (second : other ∈ ds) (a : Action) :
    statusCommand paths d ≠ actionCommand paths other a := by
  by_cases plain : a = .stop → other.stopOverride = none
  · rw [actionCommand_of_plain other a plain]
    cases a <;> simp [statusCommand, Action.name]
  · obtain ⟨rfl, given⟩ := Classical.not_imp.1 plain
    exact (distinct.apart other second (Option.isSome_iff_ne_none.2 given) d first).1

theorem Distinct.actionCommand_injective (distinct : Distinct paths ds) {s t : Step}
    (first : s.1 ∈ ds) (second : t.1 ∈ ds)
    (same : actionCommand paths s.1 s.2 = actionCommand paths t.1 t.2) : s = t := by
  rcases s with ⟨d, a⟩
  rcases t with ⟨other, b⟩
  by_cases plain : a = .stop → d.stopOverride = none
  · by_cases plainToo : b = .stop → other.stopOverride = none
    · rw [actionCommand_of_plain d a plain, actionCommand_of_plain other b plainToo] at same
      -- Both are plain: the verb tells the action, and the script or the name tells the service.
      have verbs : a = b ∧ d = other := by
        cases a <;> cases b <;> simp [Action.name] at same ⊢
        · exact distinct.eq_of_name first second same
        all_goals exact distinct.eq_of_script first second same
      rw [verbs.1, verbs.2]
    · obtain ⟨rfl, given⟩ := Classical.not_imp.1 plainToo
      obtain ⟨rfl, rfl⟩ :=
        (distinct.apart other second (Option.isSome_iff_ne_none.2 given) d first).2 a same
      rfl
  · obtain ⟨rfl, given⟩ := Classical.not_imp.1 plain
    obtain ⟨rfl, rfl⟩ :=
      (distinct.apart d first (Option.isSome_iff_ne_none.2 given) other second).2 b same.symm
    rfl

end Course

-- What a command may do to a host, as far as passes can see.
inductive Effect where
  | nothing
  | link (service : String)
  | switch (service : String) (on : Bool)
  deriving DecidableEq, Repr

namespace Effect

def ofStep (s : Step) : Effect :=
  match s.2 with
  | .enable => .link s.1.name
  | .start | .restart => .switch s.1.name true
  | .stop => .switch s.1.name false

def link? : Effect → Option String
  | .link service => some (BootLink.startLink service)
  | _ => none

def runs (service : String) (before : Bool) : Effect → Bool
  | .switch switched on => if service = switched then on else before
  | _ => before

/-- One host becomes another by exactly an effect. Only what passes look at is compared: scripts of
declared services, boot links, and what runs. -/
structure Shows (paths : Paths) (ds : List Declaration) (running : Host ρ → String → Bool)
    (e : Effect) (h h' : Host ρ) : Prop where
  scripts : ∀ d ∈ ds, Plan.scripts paths h.files d.name = true →
    Plan.scripts paths h'.files d.name = true
  kept : ∀ level ∈ BootLink.runlevels, ∀ entry ∈ BootLink.entries paths h.files level,
    entry ∈ BootLink.entries paths h'.files level
  -- The directory of another runlevel may be a link to that of runlevel 2.
  new : ∀ level ∈ BootLink.runlevels, ∀ entry ∈ BootLink.entries paths h'.files level,
    entry ∈ BootLink.entries paths h.files level ∨ e.link? = some entry
  linked : ∀ entry, e.link? = some entry → entry ∈ BootLink.entries paths h'.files 2
  switched : ∀ service, running h' service = e.runs service (running h service)

variable {paths : Paths} {ds : List Declaration} {running : Host ρ → String → Bool}

theorem shows_of_files {e : Effect} {h h' : Host ρ} (unlinked : e.link? = none)
    (files : h'.files = h.files)
    (switched : ∀ service, running h' service = e.runs service (running h service)) :
    e.Shows paths ds running h h' := by
  constructor
  · simp [files]
  · simp [files]
  · rw [files]
    exact fun _ _ _ there => .inl there
  · simp [unlinked]
  · exact switched

theorem shows_refl (h : Host ρ) : nothing.Shows paths ds running h h :=
  shows_of_files rfl rfl fun _ => rfl

theorem Shows.after {e : Effect} {h h₁ h₂ : Host ρ} (first : nothing.Shows paths ds running h h₁)
    (next : e.Shows paths ds running h₁ h₂) : e.Shows paths ds running h h₂ where
  scripts d declared there := next.scripts d declared (first.scripts d declared there)
  kept level listed entry there :=
    next.kept level listed entry (first.kept level listed entry there)
  new level listed entry there := by
    rcases next.new level listed entry there with old | new
    · rcases first.new level listed entry old with older | missing
      · exact .inl older
      · simp [link?] at missing
    · exact .inr new
  linked := next.linked
  switched service := by rw [next.switched, first.switched]; rfl

theorem Shows.present_iff {e : Effect} {h h' : Host ρ} (effect : e.Shows paths ds running h h')
    (service : String) :
    BootLink.present h'.files paths.rcRoot service = true ↔
      BootLink.present h.files paths.rcRoot service = true ∨ e = .link service := by
  rw [BootLink.present_iff, BootLink.present_iff]
  constructor
  · rintro ⟨level, listed, entry, there, starts⟩
    rcases effect.new level listed entry there with old | new
    · exact .inl ⟨level, listed, entry, old, starts⟩
    · right
      -- The new entry is the link of the effect, and it starts no other service.
      cases e <;> simp only [link?, reduceCtorEq, Option.some.injEq] at new
      subst new
      rw [(BootLink.starts_startLink _ _).1 starts]
  · rintro (⟨level, listed, entry, there, starts⟩ | rfl)
    · exact ⟨level, listed, entry, effect.kept level listed entry there, starts⟩
    · exact ⟨2, by simp [BootLink.runlevels], BootLink.startLink service, effect.linked _ rfl,
        (BootLink.starts_startLink service service).2 rfl⟩

/-- Status verbs tell the truth, and each other command of a declared service has exactly its own
effect or fails and has none. Which of the two is open each time. -/
structure AllOrNothing (paths : Paths) (runner : Runner ρ) (running : Host ρ → String → Bool)
    (ds : List Declaration) : Prop where
  status : ∀ d ∈ ds, ∀ h, ∃ r, (runner h (Course.statusCommand paths d)).result = .ok r ∧
    r.success = running h d.name ∧
      nothing.Shows paths ds running h (runner h (Course.statusCommand paths d)).host
  change : ∀ s ∈ steps ds, ∀ h,
    let reply := runner h (Course.actionCommand paths s.1 s.2)
    reply.succeeded = true ∧ (ofStep s).Shows paths ds running h reply.host ∨
      reply.succeeded = false ∧ nothing.Shows paths ds running h reply.host

end Effect

end Converge
