import Converge.Cli.Run
import Converge.Proofs.DryRun
import Converge.Proofs.HardStop
import Converge.Proofs.JournalLines

set_option autoImplicit false

namespace Converge

open Course

variable {ρ : Type}

theorem mapError_eq_ok_iff {ε δ α : Type} {f : ε → δ} {x : Except ε α} {a : α} :
    x.mapError f = .ok a ↔ x = .ok a := by
  cases x <;> simp [Except.mapError]

-- Whatever command is run, what stands at a place stays as it is.
def Runner.Spares (runner : Runner ρ) (place : Location) : Prop :=
  ∀ h c, (runner h c).host.files.find? place = h.files.find? place

-- What a file holds, nothing where no file is yet.
def FileSystem.Contains (fs : FileSystem) (place : Location) (content : Text.Utf8.Octets) : Prop :=
  fs.find? place = none ∧ content = [] ∨
    ∃ executable, fs.find? place = some (.file content executable)

theorem FileSystem.contains_congr {fs fs' : FileSystem} {place : Location}
    (same : fs'.find? place = fs.find? place) (content : Text.Utf8.Octets) :
    fs'.Contains place content ↔ fs.Contains place content := by
  rw [Contains, Contains, same]

theorem FileSystem.Contains.offered {fs : FileSystem} {place : Location}
    {content : Text.Utf8.Octets} {node : Node} (held : fs.Contains place content)
    (offers : fs.Offers place node) : ∃ executable, node = .file content executable := by
  rcases held with ⟨free, rfl⟩ | ⟨executable, found⟩
  · exact ⟨false, by simpa [Offers, free] using offers⟩
  · exact ⟨executable, by simpa [Offers, found, eq_comm] using offers⟩

/-- Opened at a path, the journal stands at a place where there is room. -/
def Journal.Ready (files : FileSystem) (path : OsString) (place : Location) : Prop :=
  ∃ opened, openAt files path = (.ok ⟨place, path⟩, opened) ∧
    opened.find? place ≠ some (.device .full)

namespace Pass

variable (paths : Paths) (runner : Runner ρ) (runId : RunId) (platform : String)
  (ds : List Declaration) (host : Host ρ)

theorem apply_host : (apply paths runner runId platform ds host).host =
    hostAfter runner host (apply paths runner runId platform ds host).issued := by
  cases planned : Plan.make paths host.files platform ds with
  | error e =>
    obtain ⟨-, issued, -, left⟩ := apply_of_unplanned planned runner runId
    rw [left, issued]
    rfl
  | ok plan =>
    obtain ⟨-, issued, left, -⟩ := apply_of_planned paths runner planned runId
    rw [left, issued, (follow_exchanges paths runner (steps ds) host).2]

/-- What a file holds after a pass was filed in it: one more line, which tells the result. -/
structure Ending.FiledIn (pass : Ending ρ) (path : OsString) (old : Text.Utf8.Octets)
    (files : FileSystem) : Prop where
  grown : files.readOctets path = .ok (old ++ pass.report.row ++ [0x0A])
  one : 0x0A ∉ pass.report.row
  tells : ∀ r : Report, r.row = pass.report.row → r.verdict = match pass.result with
    | .ok () => .success
    | .error e => .failure e.code e.message

theorem apply_tells {r : Report}
    (same : r.row = (apply paths runner runId platform ds host).report.row) :
    r.verdict = match (apply paths runner runId platform ds host).result with
      | .ok () => .success
      | .error e => .failure e.code e.message := by
  rw [Report.row_injective same]
  exact Report.close_verdict _ _ _

end Pass

theorem Runner.Spares.hostAfter {runner : Runner ρ} {place : Location}
    (spares : runner.Spares place) (h : Host ρ) (cs : List Command) :
    (Course.hostAfter runner h cs).files.find? place = h.files.find? place := by
  induction cs generalizing h with
  | nil => rfl
  | cons c rest ih =>
    have first := spares h c
    have later := ih (runner h c).host
    exact later.trans first

namespace Convergence

variable {settings : ReportSettings} {files : FileSystem}

theorem file_of_disabled (report : Report) (disabled : settings.enabled = false) :
    (file settings report files).1 = files := by
  simp [file, disabled]

-- A journal that opens takes the report, unless its device has no room.
theorem append_filed (report : Report) (enabled : settings.enabled = true) {j : Journal}
    {opened : FileSystem} (opens : Journal.openAt files settings.path = (.ok j, opened))
    (room : opened.find? j.place ≠ some (.device .full)) :
    j.append opened report = .ok (file settings report files).1 := by
  have adds : j.append opened report =
      .ok (opened.appendAt j.place (Text.toOctets (report.line ++ "\n"))) := by
    unfold Journal.append
    split
    next full => exact absurd full room
    next => rfl
  have writes : Journal.write files settings.path report =
      (.ok j, opened.appendAt j.place (Text.toOctets (report.line ++ "\n"))) := by
    simp [Journal.write, opens, adds]
  simp [file, enabled, writes, adds]

theorem readOctets_filed (report : Report) (enabled : settings.enabled = true) {place : Location}
    (ready : Journal.Ready files settings.path place) {content : Text.Utf8.Octets}
    (held : files.Contains place content) :
    (file settings report files).1.readOctets settings.path = .ok (content ++ report.entry) := by
  obtain ⟨opened, opens, room⟩ := ready
  obtain ⟨node, offers, ends, -⟩ := Journal.openAt_ok opens
  obtain ⟨executable, rfl⟩ := held.offered offers
  obtain ⟨found, grows⟩ := Journal.append_ok (FileSystem.target_present ends)
    (append_filed report enabled opens room)
  have leads := FileSystem.target_grown grows found (.inl ⟨_, ends⟩)
  simp [FileSystem.readOctets, FileSystem.lookUp, leads, Node.append]

section

variable {settings : Settings} {asked : Option String} {host : Host ρ}

theorem task_eq_error_iff :
    (∃ e, task settings host.files asked = .error e) ↔
      ∃ e, settings.attributes host.files = .error e := by
  unfold task
  cases settings.attributes host.files with
  | error e => simp [bind, Except.bind]
  | ok node => simp [bind, Except.bind, Recipe.declarations_builtIn]

end

end Convergence

namespace Cli

open Convergence

variable (context : Context) (settings : Settings) (options : Options) (runner : Nat → Runner ρ)
  (host : Host ρ)

-- The exit status comes from nothing but the result of the run and whether the program broke down.
theorem status_congr {other : Settings}
    (crash : (ending context other options runner host).host.crash =
      (ending context settings options runner host).host.crash)
    (result : (ending context other options runner host).result =
      (ending context settings options runner host).result) :
    (converge context other options runner host).status =
      (converge context settings options runner host).status := by
  have success : (converge context other options runner host).success =
      (converge context settings options runner host).success := by
    rw [Bool.eq_iff_iff, converge_success, converge_success, result]
  rw [Conclusion.status, Conclusion.status, converge_host, converge_host, crash, success]

-- A dry run, or one that does not come to know its task, leaves the host alone.
theorem ending_of_early (early : options.dryRun = true ∨
      ∃ e, task settings host.files options.platform = .error e) :
    (ending context settings options runner host).pass = none ∧
      (converge context settings options runner host).host = host := by
  rw [converge_host]
  cases found : task settings host.files options.platform with
  | error e =>
    have ended : ending context settings options runner host = _ :=
      run_of_unknown found options.dryRun (commands settings runner) context.runId
    rw [ended]
    exact ⟨rfl, rfl⟩
  | ok known =>
    have dry : options.dryRun = true := by simpa [found] using early
    obtain ⟨nothing, still, -⟩ := dryRun_of_known found (commands settings runner) context.runId
    simp only [ending, dry]
    exact ⟨nothing, still⟩

section

variable {settings options host} {platform : String} {ds : List Declaration}
  (known : task settings host.files options.platform = .ok ⟨platform, ds⟩)
  (real : options.dryRun = false)

include known real

theorem ending_of_real :
    let pass := Pass.apply settings.paths (commands settings runner) context.runId platform ds host
    let ending := ending context settings options runner host
    ending.pass = some pass ∧ ending.result = pass.result.mapError .apply ∧
      ending.host = if pass.host.crash.isSome then pass.host
        else { pass.host with files := (file settings.report pass.report pass.host.files).1 } := by
  obtain ⟨passed, ends, -⟩ := realRun_of_known known (commands settings runner) context.runId
  have left := realRun_host known (commands settings runner) context.runId
  simp only [ending, real]
  exact ⟨passed, ends, left⟩

theorem ending_crash :
    (ending context settings options runner host).host.crash =
      (Pass.apply settings.paths (commands settings runner) context.runId platform ds
        host).host.crash := by
  simp only [ending, real]
  exact realRun_crash known (commands settings runner) context.runId

theorem ending_of_other_report (other : ReportSettings) :
    let changed := { settings with report := other }
    (converge context changed options runner host).status =
        (converge context settings options runner host).status ∧
      (ending context changed options runner host).result =
        (ending context settings options runner host).result := by
  intro changed
  have knownToo : task changed host.files options.platform = .ok ⟨platform, ds⟩ := known
  obtain ⟨-, result, -⟩ := ending_of_real context runner known real
  obtain ⟨-, resultToo, -⟩ := ending_of_real context runner knownToo real
  have same : (ending context changed options runner host).result =
      (ending context settings options runner host).result := resultToo.trans result.symm
  refine ⟨status_congr _ _ _ _ _ ?_ same, same⟩
  rw [ending_crash context runner known real, ending_crash context runner knownToo real]
  rfl

theorem converge_host_of_unfiled
    (unfiled : settings.report.enabled = false ∨
      (Pass.apply settings.paths (commands settings runner) context.runId platform ds
        host).host.crash ≠ none) :
    (converge context settings options runner host).host =
      (Pass.apply settings.paths (commands settings runner) context.runId platform ds
        host).host := by
  obtain ⟨-, -, left⟩ := ending_of_real context runner known real
  rw [converge_host, left]
  rcases unfiled with disabled | broken
  · simp only [file_of_disabled _ disabled, ite_self]
  · exact if_pos (Option.isSome_iff_ne_none.2 broken)

theorem filedIn_of_ready {place : Location} {old : Text.Utf8.Octets} :
    let pass := Pass.apply settings.paths (commands settings runner) context.runId platform ds host
    settings.report.enabled = true → pass.host.crash = none →
      Journal.Ready pass.host.files settings.report.path place →
      pass.host.files.Contains place old →
      pass.FiledIn settings.report.path old
        (converge context settings options runner host).host.files := by
  intro pass enabled whole ready held
  obtain ⟨-, -, left⟩ := ending_of_real context runner known real
  have grown := readOctets_filed pass.report enabled ready held
  refine ⟨?_, pass.report.row_feedless, fun r same => Pass.apply_tells _ _ _ _ _ _ same⟩
  have unbroken : ¬ pass.host.crash.isSome = true := by simp [whole]
  rw [converge_host, left, if_neg unbroken]
  simpa [Report.entry] using grown

end

/-- How the program ends is the affair of the pass alone: the exit status and the error are those of
the pass, and no report settings change them. If commands spare the place of the journal, then there
the run adds the line of its report if asked to, and otherwise changes nothing. -/
theorem exit_and_report_follow_pass {place : Location}
    (spares : (commands settings runner).Spares place) :
    let ending := ending context settings options runner host
    let conclusion := converge context settings options runner host
    match ending.pass with
    | none =>
      (options.dryRun = true ∨ ∃ e, settings.attributes host.files = .error e) ∧
        conclusion.host = host
    | some pass =>
      options.dryRun = false ∧
        (∃ task, Convergence.task settings host.files options.platform = .ok task ∧
          pass = Pass.apply settings.paths (commands settings runner) context.runId task.platform
            task.declarations host) ∧
        (conclusion.status = 0 ↔ pass.host.crash = none ∧ pass.result = .ok ()) ∧
        ending.result = pass.result.mapError .apply ∧
        (∀ other : ReportSettings,
          let changed := { settings with report := other }
          (converge context changed options runner host).status = conclusion.status ∧
            (Cli.ending context changed options runner host).result = ending.result) ∧
        (settings.report.enabled = false ∨ pass.host.crash ≠ none →
          conclusion.host = pass.host ∧
            conclusion.host.files.find? place = host.files.find? place) ∧
        (settings.report.enabled = true → pass.host.crash = none →
          Journal.Ready pass.host.files settings.report.path place →
          ∀ old, host.files.Contains place old →
            pass.FiledIn settings.report.path old conclusion.host.files) := by
  intro ending conclusion
  -- Without a pass the host is left as it was; with one, everything is said in terms of the pass.
  by_cases early : options.dryRun = true ∨
      ∃ e, Convergence.task settings host.files options.platform = .error e
  · obtain ⟨passless, still⟩ := ending_of_early context settings options runner host early
    simp only [ending, passless]
    exact ⟨early.imp_right task_eq_error_iff.1, still⟩
  · obtain ⟨real, ⟨platform, ds⟩, known⟩ : options.dryRun = false ∧
        ∃ task, Convergence.task settings host.files options.platform = .ok task := by
      cases found : Convergence.task settings host.files options.platform <;>
        simp_all
    obtain ⟨passed, result, -⟩ := ending_of_real context runner known real
    have crashed := ending_crash context runner known real
    have others := ending_of_other_report context runner known real
    let pass := Pass.apply settings.paths (commands settings runner) context.runId platform ds host
    have spared : pass.host.files.find? place = host.files.find? place := by
      rw [Pass.apply_host]
      exact spares.hostAfter host _
    simp only [ending, passed]
    refine ⟨real, ⟨_, known, rfl⟩, ?_, result, others, fun unfiled => ?_, ?_⟩
    · rw [status_eq_zero_iff, crashed, result, mapError_eq_ok_iff]
    · have same := converge_host_of_unfiled context runner known real unfiled
      exact ⟨same, (congrArg (·.files.find? place) same).trans spared⟩
    · intro enabled whole ready old held
      have kept := (FileSystem.contains_congr spared old).2 held
      exact filedIn_of_ready context runner known real enabled whole ready kept

end Cli

namespace Sample

open Convergence

def filing : Settings where
  report := { enabled := true, path := "/etc/log" }

-- A host without the scripts of the recipe.
def unscripted (old : Text.Utf8.Octets) : Host Unit where
  files := logged old
  clock := 0
  wall := 0
  rest := ()

theorem spares_willing (place : Location) : willing.Spares place := fun _ _ => rfl

theorem ready_logged (old : Text.Utf8.Octets) :
    Journal.Ready (logged old) filing.report.path log.place := by
  refine ⟨logged old, openAt_logged old, ?_⟩
  simp [FileSystem.target_present (target_logged old).1]

theorem hasService_unscripted (old : Text.Utf8.Octets) :
    Provider.hasService {} (logged old) "scalaris" = false := by
  have path : Paths.initScript {} "scalaris" = "/etc/init.d/scalaris" := by decide
  have leads := FileSystem.target_absolute (logged old) "/etc/init.d/scalaris"
    ["etc", "init.d", "scalaris"] (by decide)
  simp only [Provider.hasService, FileSystem.isFile, FileSystem.lookUp, path, leads]
  simp [FileSystem.walk, logged, files, FileSystem.set, FileSystem.find?, List.lookup_cons,
    FileSystem.nameLimit, Text.Utf8.size, Char.utf8Size]

def recipe : List Declaration := [
  Recipe.declare {} {} "scalaris" .scalaris,
  Recipe.declare {} {} "scalaris-monitor" .scalarisMonitor]

theorem refused_unscripted (old : Text.Utf8.Octets) :
    Plan.make {} (unscripted old).files "ubuntu" recipe = .error (.unknownService "scalaris") := by
  let first := Recipe.declare {} {} "scalaris" .scalaris
  have fault : Plan.FirstFault (.ofPlatform "ubuntu") (Plan.scripts {} (unscripted old).files) []
      first (.unknownService first.name) :=
    .script (by decide) (by simp) (hasService_unscripted old)
  rw [Plan.make_eq_error_iff]
  exact ⟨[], first, recipe.tail, rfl, by simp [Plan.AllSound], fault⟩

end Sample

namespace Cli

open Sample

theorem exit_and_report_follow_pass_refused :
    let context : Context := { runId := .ofNat 7 }
    let options : Options := { platform := some "ubuntu" }
    let old := Text.toOctets "{}\n"
    let host := unscripted old
    let runner : Nat → Runner Unit := fun _ => willing
    (commands filing runner).Spares log.place ∧
      Journal.Ready host.files filing.report.path log.place ∧ host.files.Contains log.place old ∧
      (converge context filing options runner host).status ≠ 0 ∧
      ∃ pass, (ending context filing options runner host).pass = some pass ∧
        pass.result = .error (.unknownService "scalaris") ∧
        pass.FiledIn "/etc/log" old (converge context filing options runner host).host.files := by
  intro context options old host runner
  have spares : (commands filing runner).Spares log.place := spares_willing log.place
  have ready := ready_logged old
  have held : host.files.Contains log.place old :=
    .inr ⟨false, FileSystem.target_present (target_logged old).1⟩
  have known : Convergence.task filing host.files options.platform = .ok ⟨"ubuntu", recipe⟩ := rfl
  obtain ⟨passed, -, -⟩ := ending_of_real context runner known rfl
  obtain ⟨result, -, -, left⟩ :=
    Pass.apply_of_unplanned (refused_unscripted old) willing context.runId
  have ends := exit_and_report_follow_pass context filing options runner host spares
  simp only [passed] at ends
  obtain ⟨-, -, status, -, -, -, filed⟩ := ends
  refine ⟨spares, ready, held, ?_, _, passed, result, filed rfl ?_ ?_ old held⟩
  · intro success
    have passes := (status.1 success).2
    exact absurd (result.symm.trans passes) (by simp)
  · exact congrArg Host.crash left
  · have files := congrArg (fun host : Host Unit => host.files) left
    exact files ▸ ready

end Cli

end Converge
