import Mathlib.Data.List.TakeWhile
import Converge.Proofs.Confinement
import Converge.Proofs.Words
import Converge.Service.Recipe
import Converge.Settings.Load

set_option autoImplicit false

namespace Converge

variable {ρ : Type}

theorem Text.takeWhile_append_of_stop {p : Char → Bool} {xs : List Char} {x : Char}
    (member : x ∈ xs) (stops : p x = false) (ys : List Char) :
    (xs ++ ys).takeWhile p = xs.takeWhile p := by
  rw [List.takeWhile_append, if_neg]
  intro all
  have whole := (List.takeWhile_prefix p).eq_of_length all
  have passes := List.takeWhile_eq_self_iff.1 whole x member
  simp [passes] at stops

namespace Provider

open Course

theorem stop_issued (kind : ProviderKind) (paths : Paths) (runner : Runner ρ) {d : Declaration}
    {line : String} (given : d.stopOverride = some line) {c : Command}
    (read : Command.ofLine? line = some c) (p : Progress ρ) :
    ((stop ⟨kind, paths, runner⟩ d).run p).2.issued = p.issued ++ [c] := by
  have action : actionCommand paths d .stop = c := by simp [actionCommand, given, read]
  obtain ⟨said, run⟩ := runChecked_ends kind paths runner d .stop p.host p rfl
  rw [action] at run
  simp [stop, stopCommand, given, (Command.ofOverride_eq_ok_iff _ _).2 read, run]

end Provider

namespace Settings

theorem isAbsolute_of_accepted {settings : Settings} (accepted : settings.fault? = none) :
    Path.isAbsolute settings.paths.initDir = true := by
  simp only [fault?] at accepted
  split_ifs at accepted with level format timeout relative
  simpa using relative

end Settings

namespace Recipe

variable {paths : Paths} {service : String}

theorem declarations_builtIn (node : NodeAttributes) (paths : Paths) :
    declarations .builtIn node paths = .ok [
      declare paths node "scalaris" .scalaris,
      declare paths node "scalaris-monitor" .scalarisMonitor] :=
  rfl

theorem ne_empty_of_absolute (absolute : Path.isAbsolute paths.initDir = true) :
    paths.initDir ≠ "" := by
  intro empty
  rw [empty] at absolute
  exact absurd absolute (by decide)

theorem read_of_plain (absolute : Path.isAbsolute paths.initDir = true)
    (accepted : ServiceName.fault? service = none)
    (plain : ∀ x ∈ paths.initDir.text.toList, Text.isBlank x = false) {verb : String}
    (alone : Text.words verb.toList = [verb.toList]) :
    Command.ofLine? (hardStopLine paths service verb) =
      some ⟨(paths.initScript service).text, [verb]⟩ := by
  have named := ne_empty_of_absolute absolute
  have script := paths.text_initScript named accepted
  have word := ((Text.words_eq_iff _ _).1 alone).isWord verb.toList (by simp)
  have line : hardStopLine paths service verb =
      Command.line ⟨(paths.initScript service).text, [verb]⟩ := by
    simp [← String.toList_inj, hardStopLine, Command.line]
  rw [line]
  refine Command.ofLine?_line ⟨⟨?_, ?_⟩, by simpa using word⟩
  · have filled : service.toList ≠ [] := ((ServiceName.fault?_eq_none_iff service).1 accepted).1
    rw [script, String.toList_append]
    exact List.append_ne_nil_of_right_ne_nil _ filled
  · simp only [script, String.toList_append, List.mem_append]
    rintro x ((directory | slash) | name)
    · exact plain x directory
    · split at slash <;> simp at slash
      subst slash
      decide
    · exact ServiceName.isBlank_of_accepted accepted x name

-- A blank in the directory ends the program that is read, so that it is not the script.
theorem read_of_blank (absolute : Path.isAbsolute paths.initDir = true)
    (accepted : ServiceName.fault? service = none) {x : Char} (member : x ∈ paths.initDir.text.toList)
    (blank : Text.isBlank x = true) (verb : String) :
    ∃ c, Command.ofLine? (hardStopLine paths service verb) = some c ∧
      c.program = String.ofList (paths.initDir.text.toList.takeWhile fun y => !Text.isBlank y) ∧
      c.program ≠ (paths.initScript service).text := by
  have script := paths.text_initScript (ne_empty_of_absolute absolute) accepted
  obtain ⟨rest, parts⟩ : ∃ rest, (hardStopLine paths service verb).toList =
      paths.initDir.text.toList ++ rest :=
    ⟨_, by rw [hardStopLine, script]; simp only [String.toList_append, List.append_assoc]; rfl⟩
  have start : ∃ c ∈ (hardStopLine paths service verb).toList.head?, Text.isBlank c = false := by
    refine ⟨'/', ?_, by decide⟩
    have first := OsString.head?_text (beq_iff_eq.1 absolute) (by decide)
    simp only [parts, List.head?_append, first]
    rfl
  have cut : ((hardStopLine paths service verb).toList.takeWhile fun y => !Text.isBlank y) =
      paths.initDir.text.toList.takeWhile fun y => !Text.isBlank y := by
    rw [parts, Text.takeWhile_append_of_stop member (by simp [blank])]
  refine ⟨_, Command.ofLine?_of_letter start, by rw [cut], ?_⟩
  intro same
  -- The script's path holds the blank, and no program that is read does.
  have kept : x ∈ (paths.initDir.text.toList.takeWhile fun y => !Text.isBlank y) := by
    have there : x ∈ (paths.initScript service).text.toList := by simp [script, member]
    rw [← same, cut] at there
    simpa using there
  have letter := List.mem_takeWhile_imp kept
  simp [blank] at letter

/-- Stopping a node that starts first runs one command. It is the script's own kill verb exactly
when the directory of the scripts holds no blank; else its program is only the part before it. -/
theorem hardStop_runs_script_iff {settings : Settings} (accepted : settings.fault? = none)
    {node : NodeAttributes} (first : node.startFirst = true) (kind : ProviderKind)
    (runner : Runner ρ) :
    let provider : Provider ρ := ⟨kind, settings.paths, runner⟩
    ∃ d rest c, declarations .builtIn node settings.paths = .ok (d :: rest) ∧
      d.name = "scalaris" ∧
      (∀ p, ((provider.stop d).run p).2.issued = p.issued ++ [c]) ∧
      (c = provider.script d.name "kill" ↔
        ∀ x ∈ settings.paths.initDir.text.toList, Text.isBlank x = false) ∧
      (∀ x ∈ settings.paths.initDir.text.toList, Text.isBlank x = true →
        c.program = String.ofList
          (settings.paths.initDir.text.toList.takeWhile fun y => !Text.isBlank y) ∧
        c.program ≠ (provider.script d.name "start").program) := by
  have absolute := Settings.isAbsolute_of_accepted accepted
  have named : ServiceName.fault? "scalaris" = none := by decide
  have given : (declare settings.paths node "scalaris" .scalaris).stopOverride =
      some (hardStopLine settings.paths "scalaris" "kill") := by
    simp [declare, first, Definition.scalaris]
  have name : (declare settings.paths node "scalaris" .scalaris).name = "scalaris" := by
    simp [declare, first, Definition.toDeclaration, Definition.scalaris]
  refine ⟨declare settings.paths node "scalaris" .scalaris,
    [declare settings.paths node "scalaris-monitor" .scalarisMonitor], ?_⟩
  by_cases plain : ∀ x ∈ settings.paths.initDir.text.toList, Text.isBlank x = false
  · have kill : Text.words "kill".toList = ["kill".toList] := by decide
    have read := read_of_plain absolute named plain kill
    refine ⟨_, declarations_builtIn node settings.paths, name,
      Provider.stop_issued kind settings.paths runner given read, ?_, ?_⟩
    · simpa [Provider.script, name] using plain
    · intro x member blank
      simp [plain x member] at blank
  · obtain ⟨x, member, blank⟩ : ∃ x ∈ settings.paths.initDir.text.toList, Text.isBlank x = true := by
      simpa using plain
    obtain ⟨c, read, program, other⟩ := read_of_blank absolute named member blank "kill"
    refine ⟨c, declarations_builtIn node settings.paths, name,
      Provider.stop_issued kind settings.paths runner given read, ?_, ?_⟩
    · simp only [plain, iff_false]
      rintro rfl
      exact other (by rw [Provider.script, name])
    · exact fun _ _ _ => ⟨program, by simpa [Provider.script, name] using other⟩

theorem hardStop_runs_script_iff_default :
    Settings.fault? {} = none ∧
      let provider : Provider Unit := ⟨.debianInit, {}, Sample.willing⟩
      ∃ d rest, declarations .builtIn ⟨true⟩ {} = .ok (d :: rest) ∧ d.name = "scalaris" ∧
        ∀ p, ((provider.stop d).run p).2.issued =
          p.issued ++ [⟨"/etc/init.d/scalaris", ["kill"]⟩] := by
  have accepted : Settings.fault? {} = none := by decide
  obtain ⟨d, rest, c, declared, name, issued, same, -⟩ :=
    hardStop_runs_script_iff accepted (rfl : NodeAttributes.startFirst ⟨true⟩ = true) .debianInit
      Sample.willing
  refine ⟨accepted, d, rest, declared, name, ?_⟩
  have letters : (Settings.Default.initDir.text.toList.all fun x => !Text.isBlank x) = true := by
    decide
  have plain : ∀ x ∈ Settings.Default.initDir.text.toList, Text.isBlank x = false :=
    fun x member => by simpa using List.all_eq_true.1 letters x member
  have script : c = ⟨"/etc/init.d/scalaris", ["kill"]⟩ := by
    rw [same.2 plain, name]
    decide
  rw [← script]
  exact issued

theorem hardStop_misses_spaced_script :
    let settings : Settings := { paths := { initDir := "/opt/my init" } }
    let provider : Provider Unit := ⟨.debianInit, settings.paths, Sample.willing⟩
    let scalaris := declare settings.paths ⟨true⟩ "scalaris" .scalaris
    settings.fault? = none ∧
      (declarations .builtIn ⟨true⟩ settings.paths).map (·.head?) = .ok (some scalaris) ∧
      ((provider.start scalaris.name).run { host := Sample.host }).2.issued =
        [⟨"/opt/my init/scalaris", ["start"]⟩] ∧
      ((provider.stop scalaris).run { host := Sample.host }).2.issued =
        [⟨"/opt/my", ["init/scalaris", "kill"]⟩] := by
  decide

end Recipe

end Converge
