import Converge.Proofs.OsString
import Mathlib.Data.List.Nodup
import Converge.Proofs.CommandLine
import Converge.Proofs.Work

set_option autoImplicit false

namespace Converge.Plan

structure Sound (kind : ProviderKind) (hasScript : String → Bool) (d : Declaration) : Prop where
  named : ServiceName.fault? d.name = none
  script : hasScript d.name = true
  supported : ∀ a ∈ d.desired, ∀ c, a.needs? = some c → d.supports c = true
  recognized : ∀ a ∈ d.desired, kind.recognizes a = true
  override : ∀ line, d.stopOverride = some line → ∃ c ∈ line.toList, Text.isBlank c = false

def AllSound (kind : ProviderKind) (hasScript : String → Bool) (ds : List Declaration) : Prop :=
  (∀ d ∈ ds, Sound kind hasScript d) ∧ (ds.map (·.name)).Nodup

def Lacks (d : Declaration) (a : Action) : Prop := ∃ c, a.needs? = some c ∧ d.supports c = false

def IsFirst {α : Type} (p : α → Prop) (xs : List α) (x : α) : Prop :=
  ∃ before after, xs = before ++ x :: after ∧ (∀ y ∈ before, ¬ p y) ∧ p x

/-- The first check that a declaration fails after others with the names `earlier`. Every case
repeats that the checks above it are passed. -/
inductive FirstFault (kind : ProviderKind) (hasScript : String → Bool) (earlier : List String)
    (d : Declaration) : ApplyError → Prop where
  | name (fault : ServiceName.Fault) (broken : ServiceName.fault? d.name = some fault) :
      FirstFault kind hasScript earlier d (.invalidName d.name fault.message)
  | duplicate (named : ServiceName.fault? d.name = none) (again : d.name ∈ earlier) :
      FirstFault kind hasScript earlier d (.duplicateService d.name)
  | script (named : ServiceName.fault? d.name = none) (fresh : d.name ∉ earlier)
      (missing : hasScript d.name = false) :
      FirstFault kind hasScript earlier d (.unknownService d.name)
  | unsupported (named : ServiceName.fault? d.name = none) (fresh : d.name ∉ earlier)
      (script : hasScript d.name = true) (a : Action) (first : IsFirst (Lacks d) d.desired a) :
      FirstFault kind hasScript earlier d (.unsupportedAction d.name a)
  | unrecognized (named : ServiceName.fault? d.name = none) (fresh : d.name ∉ earlier)
      (script : hasScript d.name = true) (supported : ∀ a ∈ d.desired, ¬ Lacks d a) (a : Action)
      (first : IsFirst (fun a => kind.recognizes a = false) d.desired a) :
      FirstFault kind hasScript earlier d (.unsupportedAction d.name a)
  | override (named : ServiceName.fault? d.name = none) (fresh : d.name ∉ earlier)
      (script : hasScript d.name = true) (supported : ∀ a ∈ d.desired, ¬ Lacks d a)
      (recognized : ∀ a ∈ d.desired, kind.recognizes a = true) (line : String)
      (given : d.stopOverride = some line) (blank : ∀ c ∈ line.toList, Text.isBlank c = true) :
      FirstFault kind hasScript earlier d (.command (.invalidLine "stop override is empty"))

theorem isFirst_iff_find? {α : Type} (p : α → Prop) (q : α → Bool) (xs : List α) (x : α)
    (same : ∀ y, q y = true ↔ p y) : IsFirst p xs x ↔ xs.find? q = some x := by
  rw [List.find?_eq_some_iff_append]
  constructor
  · rintro ⟨before, after, rfl, none, here⟩
    refine ⟨(same x).2 here, before, after, rfl, ?_⟩
    intro y member
    have absent := mt (same y).1 (none y member)
    simpa using absent
  · rintro ⟨here, before, after, rfl, none⟩
    refine ⟨before, after, rfl, ?_, (same x).1 here⟩
    intro y member holds
    have absent := none y member
    simp [(same y).2 holds] at absent

theorem canDo_eq_false_iff (d : Declaration) (a : Action) : d.canDo a = false ↔ Lacks d a := by
  cases needed : a.needs? <;> simp [Declaration.canDo, Lacks, needed]

theorem firstUnsupported?_eq_some_iff (d : Declaration) (a : Action) :
    d.firstUnsupported? = some a ↔ IsFirst (Lacks d) d.desired a := by
  rw [isFirst_iff_find? (Lacks d) (fun a => !d.canDo a)]
  · rfl
  · intro b
    simpa using canDo_eq_false_iff d b

theorem firstUnsupported?_eq_none_iff (d : Declaration) :
    d.firstUnsupported? = none ↔ ∀ a ∈ d.desired, ¬ Lacks d a := by
  simp [Declaration.firstUnsupported?, ← canDo_eq_false_iff]

theorem not_lacks_iff (d : Declaration) (a : Action) :
    ¬ Lacks d a ↔ ∀ c, a.needs? = some c → d.supports c = true := by
  simp [Lacks]

theorem firstRefused?_eq_some_iff (kind : ProviderKind) (d : Declaration) (a : Action) :
    firstRefused? kind d = some a ↔
      IsFirst (Lacks d) d.desired a ∨
        (∀ b ∈ d.desired, ¬ Lacks d b) ∧
          IsFirst (fun b => kind.recognizes b = false) d.desired a := by
  rw [← firstUnsupported?_eq_some_iff, ← firstUnsupported?_eq_none_iff,
    isFirst_iff_find? _ (fun b => !kind.recognizes b) _ _ (by simp)]
  cases found : d.firstUnsupported? <;> simp [firstRefused?, found]

theorem firstRefused?_eq_none_iff (kind : ProviderKind) (d : Declaration) :
    firstRefused? kind d = none ↔
      (∀ a ∈ d.desired, ¬ Lacks d a) ∧ ∀ a ∈ d.desired, kind.recognizes a = true := by
  rw [← firstUnsupported?_eq_none_iff]
  cases found : d.firstUnsupported? <;> simp [firstRefused?, found]

theorem overrideFault?_eq_some_iff (d : Declaration) (e : ApplyError) :
    overrideFault? d = some e ↔
      ∃ line, d.stopOverride = some line ∧ (∀ c ∈ line.toList, Text.isBlank c = true) ∧
        e = .command (.invalidLine "stop override is empty") := by
  cases given : d.stopOverride with
  | none => simp [overrideFault?, given]
  | some line =>
    have refused := Command.ofOverride_eq_error_iff line e
    cases read : Command.ofOverride line <;> simp_all [overrideFault?]

theorem overrideFault?_eq_none_iff (d : Declaration) :
    overrideFault? d = none ↔
      ∀ line, d.stopOverride = some line → ∃ c ∈ line.toList, Text.isBlank c = false := by
  constructor
  · intro found line given
    by_contra blank
    have refused := (overrideFault?_eq_some_iff d _).2 ⟨line, given, by simpa using blank, rfl⟩
    simp [found] at refused
  · intro worded
    rw [Option.eq_none_iff_forall_ne_some]
    intro e refused
    obtain ⟨line, given, blank, -⟩ := (overrideFault?_eq_some_iff d e).1 refused
    obtain ⟨c, member, letter⟩ := worded line given
    simp [blank c member] at letter

-- Planning refuses blank overrides, so that there is a first word to run.
theorem Sound.override_read {kind : ProviderKind} {hasScript : String → Bool} {d : Declaration}
    (sound : Sound kind hasScript d) {line : String} (given : d.stopOverride = some line) :
    ∃ c, Command.ofLine? line = some c := by
  obtain ⟨c, member, letter⟩ := sound.override line given
  rw [← Option.ne_none_iff_exists', ne_eq, Command.ofLine?_eq_none_iff]
  intro blank
  simp [blank c member] at letter

theorem fault?_eq_some_iff (kind : ProviderKind) (hasScript : String → Bool)
    (earlier : List String) (d : Declaration) (e : ApplyError) :
    fault? kind hasScript earlier d = some e ↔ FirstFault kind hasScript earlier d e := by
  constructor
  · intro found
    unfold fault? at found
    split at found
    next fault broken =>
      cases found
      exact .name fault broken
    next named =>
      split at found
      next again =>
        cases found
        exact .duplicate named (by simpa using again)
      next fresh =>
        have fresh : d.name ∉ earlier := by simpa using fresh
        split at found
        next missing =>
          cases found
          exact .script named fresh (by simpa using missing)
        next script =>
          have script : hasScript d.name = true := by simpa using script
          split at found
          next a refused =>
            cases found
            rcases (firstRefused?_eq_some_iff kind d a).1 refused with first | ⟨supported, first⟩
            · exact .unsupported named fresh script a first
            · exact .unrecognized named fresh script supported a first
          next refused =>
            obtain ⟨supported, recognized⟩ := (firstRefused?_eq_none_iff kind d).1 refused
            obtain ⟨line, given, blank, rfl⟩ := (overrideFault?_eq_some_iff d e).1 found
            exact .override named fresh script supported recognized line given blank
  · intro first
    cases first with
    | name fault broken => simp [fault?, broken]
    | duplicate named again => simp [fault?, named, again]
    | script named fresh missing => simp [fault?, named, fresh, missing]
    | unsupported named fresh script a first =>
      have refused := (firstRefused?_eq_some_iff kind d a).2 (.inl first)
      simp [fault?, named, fresh, script, refused]
    | unrecognized named fresh script supported a first =>
      have refused := (firstRefused?_eq_some_iff kind d a).2 (.inr ⟨supported, first⟩)
      simp [fault?, named, fresh, script, refused]
    | override named fresh script supported recognized line given blank =>
      have refused := (firstRefused?_eq_none_iff kind d).2 ⟨supported, recognized⟩
      have unread := (overrideFault?_eq_some_iff d _).2 ⟨line, given, blank, rfl⟩
      simp [fault?, named, fresh, script, refused, unread]

theorem fault?_eq_none_iff (kind : ProviderKind) (hasScript : String → Bool)
    (earlier : List String) (d : Declaration) :
    fault? kind hasScript earlier d = none ↔ Sound kind hasScript d ∧ d.name ∉ earlier := by
  constructor
  · intro found
    unfold fault? at found
    split at found
    next => cases found
    next named =>
      split at found
      next => cases found
      next fresh =>
        split at found
        next => cases found
        next script =>
          split at found
          next => cases found
          next refused =>
            obtain ⟨supported, recognized⟩ := (firstRefused?_eq_none_iff kind d).1 refused
            have override := (overrideFault?_eq_none_iff d).1 found
            exact ⟨⟨named, by simpa using script,
              fun a member => (not_lacks_iff d a).1 (supported a member), recognized, override⟩,
              by simpa using fresh⟩
  · rintro ⟨sound, fresh⟩
    have refused := (firstRefused?_eq_none_iff kind d).2
      ⟨fun a member => (not_lacks_iff d a).2 (sound.supported a member), sound.recognized⟩
    have override := (overrideFault?_eq_none_iff d).2 sound.override
    simp [fault?, sound.named, fresh, sound.script, refused, override]

theorem fault?_congr (kind : ProviderKind) (hasScript : String → Bool) (xs ys : List String)
    (d : Declaration) (same : d.name ∈ xs ↔ d.name ∈ ys) :
    fault? kind hasScript xs d = fault? kind hasScript ys d := by
  simp only [fault?, List.contains_eq_mem, same]

theorem survey_eq_of_fault {kind : ProviderKind} {hasScript : String → Bool}
    {earlier : List String} {d : Declaration} {e : ApplyError}
    (found : fault? kind hasScript earlier d = some e) (rest : List Declaration) :
    survey kind hasScript earlier (d :: rest) = ([], some e) := by
  simp [survey, found]

theorem survey_eq_of_sound {kind : ProviderKind} {hasScript : String → Bool}
    {earlier : List String} {d : Declaration}
    (sound : fault? kind hasScript earlier d = none) (rest : List Declaration) :
    survey kind hasScript earlier (d :: rest) =
      (d :: (survey kind hasScript (d.name :: earlier) rest).1,
        (survey kind hasScript (d.name :: earlier) rest).2) := by
  simp [survey, sound]

theorem survey_eq_none_iff (kind : ProviderKind) (hasScript : String → Bool)
    (earlier : List String) (ds : List Declaration) :
    (survey kind hasScript earlier ds).2 = none ↔
      AllSound kind hasScript ds ∧ ∀ d ∈ ds, d.name ∉ earlier := by
  induction ds generalizing earlier with
  | nil => simp [survey, AllSound]
  | cons d rest ih =>
    cases found : fault? kind hasScript earlier d with
    | some e =>
      have faulty := mt (fault?_eq_none_iff kind hasScript earlier d).2 (by simp [found])
      rw [survey_eq_of_fault found]
      simp only [reduceCtorEq, false_iff]
      rintro ⟨⟨sound, -⟩, fresh⟩
      exact faulty ⟨sound d (by simp), fresh d (by simp)⟩
    | none =>
      obtain ⟨sound, fresh⟩ := (fault?_eq_none_iff kind hasScript earlier d).1 found
      rw [survey_eq_of_sound found, ih]
      simp only [AllSound, List.map_cons, List.nodup_cons, List.mem_cons, List.mem_map, not_or]
      grind

theorem survey_covers {kind : ProviderKind} {hasScript : String → Bool} {earlier : List String}
    {ds : List Declaration} (passed : (survey kind hasScript earlier ds).2 = none) :
    (survey kind hasScript earlier ds).1 = ds := by
  induction ds generalizing earlier with
  | nil => rfl
  | cons d rest ih =>
    cases found : fault? kind hasScript earlier d with
    | some e => simp [survey_eq_of_fault found] at passed
    | none =>
      rw [survey_eq_of_sound found] at passed ⊢
      rw [ih passed]

theorem survey_eq_some_iff (kind : ProviderKind) (hasScript : String → Bool)
    (earlier : List String) (ds : List Declaration) (e : ApplyError) :
    (survey kind hasScript earlier ds).2 = some e ↔
      ∃ before d after, ds = before ++ d :: after ∧
        (survey kind hasScript earlier before).2 = none ∧
          fault? kind hasScript (before.map (·.name) ++ earlier) d = some e := by
  induction ds generalizing earlier with
  | nil => simp [survey]
  | cons d rest ih =>
    cases found : fault? kind hasScript earlier d with
    | some cause =>
      rw [survey_eq_of_fault found]
      constructor
      · rintro ⟨⟩
        exact ⟨[], d, rest, rfl, rfl, found⟩
      · rintro ⟨before, faulty, after, parts, passed, fault⟩
        cases before with
        | nil =>
          simp only [List.nil_append, List.cons.injEq] at parts
          simpa [parts.1, ← found] using fault
        | cons first before =>
          simp only [List.cons_append, List.cons.injEq] at parts
          rw [← parts.1, survey_eq_of_fault found] at passed
          cases passed
    | none =>
      -- The survey puts names in front of those before; for a fault only their membership counts.
      have moved (before : List Declaration) (faulty : Declaration) :
          fault? kind hasScript (before.map (·.name) ++ d.name :: earlier) faulty =
            fault? kind hasScript ((d :: before).map (·.name) ++ earlier) faulty :=
        fault?_congr _ _ _ _ _ (by simp [or_left_comm])
      rw [survey_eq_of_sound found, ih]
      constructor
      · rintro ⟨before, faulty, after, rfl, passed, fault⟩
        refine ⟨d :: before, faulty, after, rfl, ?_, (moved before faulty).symm.trans fault⟩
        rw [survey_eq_of_sound found]
        exact passed
      · rintro ⟨before, faulty, after, parts, passed, fault⟩
        cases before with
        | nil =>
          simp only [List.nil_append, List.cons.injEq] at parts
          simp [← parts.1, found] at fault
        | cons first before =>
          simp only [List.cons_append, List.cons.injEq] at parts
          obtain ⟨rfl, rfl⟩ := parts
          rw [survey_eq_of_sound found] at passed
          exact ⟨before, faulty, after, rfl, passed, (moved before faulty).trans fault⟩

abbrev scripts (paths : Paths) (files : FileSystem) (service : String) : Bool :=
  files.isFile (paths.initScript service)

theorem make_eq_of_survey (paths : Paths) (files : FileSystem) (platform : String)
    (ds : List Declaration) :
    make paths files platform ds =
      match (survey (.ofPlatform platform) (scripts paths files) [] ds).2 with
      | some e => .error e
      | none => .ok ⟨platform, ds.map fun d => ⟨d, .ofPlatform platform⟩⟩ := by
  unfold make
  split
  next sound e surveyed =>
    have fault : (survey (.ofPlatform platform) (scripts paths files) [] ds).2 = some e :=
      congrArg Prod.snd surveyed
    simp [fault]
  next sound surveyed =>
    have passed : (survey (.ofPlatform platform) (scripts paths files) [] ds).2 = none :=
      congrArg Prod.snd surveyed
    have all : ds = sound := (survey_covers passed).symm.trans (congrArg Prod.fst surveyed)
    simp [passed, ← all]

theorem make_eq_ok_iff (paths : Paths) (files : FileSystem) (platform : String)
    (ds : List Declaration) (plan : Plan) :
    make paths files platform ds = .ok plan ↔
      AllSound (.ofPlatform platform) (scripts paths files) ds ∧
        plan = ⟨platform, ds.map fun d => ⟨d, .ofPlatform platform⟩⟩ := by
  have passes := survey_eq_none_iff (.ofPlatform platform) (scripts paths files) [] ds
  simp only [List.not_mem_nil, not_false_eq_true, implies_true, and_true] at passes
  rw [← passes, make_eq_of_survey]
  cases (survey (.ofPlatform platform) (scripts paths files) [] ds).2 <;> simp [eq_comm]

theorem make_eq_error_iff (paths : Paths) (files : FileSystem) (platform : String)
    (ds : List Declaration) (e : ApplyError) :
    make paths files platform ds = .error e ↔
      ∃ before d after, ds = before ++ d :: after ∧
        AllSound (.ofPlatform platform) (scripts paths files) before ∧
          FirstFault (.ofPlatform platform) (scripts paths files) (before.map (·.name)) d e := by
  have stops := survey_eq_some_iff (.ofPlatform platform) (scripts paths files) [] ds e
  simp only [survey_eq_none_iff, List.not_mem_nil, not_false_eq_true, implies_true, and_true,
    List.append_nil, fault?_eq_some_iff] at stops
  rw [← stops, make_eq_of_survey]
  cases (survey (.ofPlatform platform) (scripts paths files) [] ds).2 <;> simp

end Converge.Plan

namespace Converge.Pass

variable {ρ : Type}

theorem apply_of_unplanned {paths : Paths} {platform : String} {ds : List Declaration}
    {host : Host ρ} {e : ApplyError}
    (refused : Plan.make paths host.files platform ds = .error e) (runner : Runner ρ)
    (runId : RunId) :
    let ending := apply paths runner runId platform ds host
    ending.result = .error e ∧ ending.issued = [] ∧ ending.report.outcomes = [] ∧
      ending.host = host := by
  obtain ⟨result, issued, left, report⟩ :=
    apply_of_ends (work_ends_of_unplanned refused runner) runId
  exact ⟨result, issued, by rw [report]; rfl, left⟩

end Converge.Pass

namespace Converge.Plan

variable {ρ : Type}

/-- Planning is exact, and a pass over declarations that cannot be planned issues no command. -/
theorem planning_all_or_nothing (paths : Paths) (runner : Runner ρ) (runId : RunId)
    (platform : String) (ds : List Declaration) (host : Host ρ) :
    (∀ plan, make paths host.files platform ds = .ok plan ↔
      AllSound (.ofPlatform platform) (scripts paths host.files) ds ∧
        plan = ⟨platform, ds.map fun d => ⟨d, .ofPlatform platform⟩⟩) ∧
    (∀ e, make paths host.files platform ds = .error e ↔
      ∃ before d after, ds = before ++ d :: after ∧
        AllSound (.ofPlatform platform) (scripts paths host.files) before ∧
          FirstFault (.ofPlatform platform) (scripts paths host.files) (before.map (·.name)) d e) ∧
    (∀ e, make paths host.files platform ds = .error e →
      let ending := Pass.apply paths runner runId platform ds host
      ending.result = .error e ∧ ending.issued = [] ∧ ending.report.outcomes = [] ∧
        ending.host = host) :=
  ⟨make_eq_ok_iff paths host.files platform ds, make_eq_error_iff paths host.files platform ds,
    fun _ refused => Pass.apply_of_unplanned refused runner runId⟩

end Converge.Plan

namespace Converge.FileSystem

theorem target_absolute (fs : FileSystem) (path : OsString) (names : List OsString)
    (plain : path.octets.contains 0 = false ∧ path ≠ "" ∧
      ¬ pathLimit ≤ path.octets.length ∧ Path.isAbsolute path = true ∧
      Path.steps path = names) :
    fs.target true path = fs.walk true linkLimit [] names := by
  obtain ⟨clean, named, short, absolute, steps⟩ := plain
  simp only [target, clean, named, short, absolute, steps, if_true, if_false, Bool.false_eq_true]

end Converge.FileSystem

namespace Converge.Sample

def files : FileSystem where
  nodes := [
    (["etc"], .directory true),
    (["etc", "init.d"], .directory true),
    (["etc", "init.d", "web"], .file [] true),
    (["etc", "init.d", "db"], .file [] true),
    (["etc", "rc2.d"], .directory true)]

def linkedFiles : FileSystem := files.set ["etc", "rc2.d", "S20web"] (.link ("/etc/init.d/web" : String))

def web : Declaration where
  name := "web"
  supported := .ofList Capability.all
  desired := [.enable, .start]

def db : Declaration where
  name := "db"
  supported := .ofList [.status, .stop]
  desired := [.stop]
  stopOverride := some "dbctl halt"

section

variable {fs : FileSystem} (known : fs = files ∨ fs = linkedFiles)

include known

theorem lookUp_scripts :
    fs.lookUp "/etc/init.d/web" = .ok (["etc", "init.d", "web"], .file [] true) ∧
      fs.lookUp "/etc/init.d/db" = .ok (["etc", "init.d", "db"], .file [] true) := by
  have first := FileSystem.target_absolute fs "/etc/init.d/web" ["etc", "init.d", "web"] (by decide)
  have second := FileSystem.target_absolute fs "/etc/init.d/db" ["etc", "init.d", "db"] (by decide)
  simp only [FileSystem.lookUp, first, second]
  rcases known with rfl | rfl <;>
    simp [FileSystem.walk, files, linkedFiles, FileSystem.set, FileSystem.find?, List.lookup_cons,
      FileSystem.nameLimit, Text.Utf8.size, Char.utf8Size]

theorem lookUp_levels :
    fs.lookUp "/etc/rc2.d" = .ok (["etc", "rc2.d"], .directory true) ∧
      fs.lookUp "/etc/rc3.d" = .error .notFound ∧ fs.lookUp "/etc/rc4.d" = .error .notFound ∧
      fs.lookUp "/etc/rc5.d" = .error .notFound := by
  have two := FileSystem.target_absolute fs "/etc/rc2.d" ["etc", "rc2.d"] (by decide)
  have three := FileSystem.target_absolute fs "/etc/rc3.d" ["etc", "rc3.d"] (by decide)
  have four := FileSystem.target_absolute fs "/etc/rc4.d" ["etc", "rc4.d"] (by decide)
  have five := FileSystem.target_absolute fs "/etc/rc5.d" ["etc", "rc5.d"] (by decide)
  simp only [FileSystem.lookUp, two, three, four, five]
  rcases known with rfl | rfl <;>
    simp [FileSystem.walk, files, linkedFiles, FileSystem.set, FileSystem.find?, List.lookup_cons,
      FileSystem.nameLimit, Text.Utf8.size, Char.utf8Size]

theorem scripts : ∀ d ∈ [web, db], Plan.scripts {} fs d.name = true := by
  obtain ⟨first, second⟩ := lookUp_scripts known
  intro d declared
  rcases List.mem_pair.1 declared with rfl | rfl
  · have path : Paths.initScript {} web.name = "/etc/init.d/web" := by decide
    simp only [Plan.scripts, FileSystem.isFile, path, first]
  · have path : Paths.initScript {} db.name = "/etc/init.d/db" := by decide
    simp only [Plan.scripts, FileSystem.isFile, path, second]

theorem list_level {level : Nat} (listed : level ∈ BootLink.runlevels) :
    fs.list (BootLink.directory "/etc" level) =
      if level = 2 then .ok (fs.names ["etc", "rc2.d"]) else .error .notFound := by
  obtain ⟨two, three, four, five⟩ := lookUp_levels known
  simp only [BootLink.runlevels, List.mem_cons, List.not_mem_nil, or_false] at listed
  unfold FileSystem.list
  rcases listed with rfl | rfl | rfl | rfl
  · have path : BootLink.directory "/etc" 2 = "/etc/rc2.d" := by decide
    rw [path, two]
    rfl
  · have path : BootLink.directory "/etc" 3 = "/etc/rc3.d" := by decide
    rw [path, three]
    rfl
  · have path : BootLink.directory "/etc" 4 = "/etc/rc4.d" := by decide
    rw [path, four]
    rfl
  · have path : BootLink.directory "/etc" 5 = "/etc/rc5.d" := by decide
    rw [path, five]
    rfl

theorem present_eq (service : String) : BootLink.present fs "/etc" service =
    (fs.names ["etc", "rc2.d"]).any fun entry => BootLink.starts entry.text service := by
  have two := list_level known (show 2 ∈ BootLink.runlevels by decide)
  have three := list_level known (show 3 ∈ BootLink.runlevels by decide)
  have four := list_level known (show 4 ∈ BootLink.runlevels by decide)
  have five := list_level known (show 5 ∈ BootLink.runlevels by decide)
  simp [BootLink.present, BootLink.runlevels, two, three, four, five]

theorem planned : Plan.make {} fs "ubuntu" [web, db] =
    .ok ⟨"ubuntu", [⟨web, .debianInit⟩, ⟨db, .debianInit⟩]⟩ := by
  rw [Plan.make_eq_ok_iff]
  refine ⟨⟨?_, by decide⟩, by decide⟩
  have found := scripts known
  simp only [List.forall_mem_cons, List.not_mem_nil, false_implies, implies_true,
    and_true] at found ⊢
  constructor
  · exact ⟨by decide, found.1, by decide, by decide, by simp [web]⟩
  · exact ⟨by decide, found.2, by decide, by decide, by simp [db]; decide⟩

end

end Converge.Sample
