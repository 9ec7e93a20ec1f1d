import Converge.Proofs.Effects

set_option autoImplicit false

namespace Converge.ModelHost

open Course Effect

structure State where
  up : List String
  -- Whether the next changes are made; at its end all are.
  fates : List Bool

def running (h : Host State) (service : String) : Bool := h.rest.up.contains service

variable (paths : Paths) (ds : List Declaration)

def LinkShows (service : String) (files files' : FileSystem) : Prop :=
  (∀ d ∈ ds, Plan.scripts paths files d.name = true → Plan.scripts paths files' d.name = true) ∧
    (∀ level ∈ BootLink.runlevels,
      (∀ entry ∈ BootLink.entries paths files level, entry ∈ BootLink.entries paths files' level) ∧
      ∀ entry ∈ BootLink.entries paths files' level,
        entry ∈ BootLink.entries paths files level ∨ entry = BootLink.startLink service) ∧
    BootLink.startLink service ∈ BootLink.entries paths files' 2

instance (service : String) (files files' : FileSystem) :
    Decidable (LinkShows paths ds service files files') :=
  inferInstanceAs (Decidable (_ ∧ _))

-- A link that would show as more than itself, or hide a script, is not made.
def linked? (service : String) (files : FileSystem) : Option FileSystem :=
  match files.lookUp (BootLink.directory paths.rcRoot 2) with
  | .ok (place, .directory true) =>
    let made := files.set (place ++ [.ofText (BootLink.startLink service)])
      (.link (paths.initScript service))
    if LinkShows paths ds service files made then some made else none
  | _ => none

def after? (h : Host State) : Effect → Option (Host State)
  | .nothing => some h
  | .link service => (linked? paths ds service h.files).map fun files => { h with files := files }
  | .switch service on =>
    let others := h.rest.up.filter (· ≠ service)
    some { h with rest := { h.rest with up := if on then service :: others else others } }

def runner : Runner State := fun h c =>
  match ds.find? fun d => statusCommand paths d = c with
  | some d => { result := .ok (.ofExitCode (if running h d.name then 0 else 3)), host := h }
  | none =>
    let later := { h with rest := { h.rest with fates := h.rest.fates.tail } }
    let made := (steps ds).find? fun s => actionCommand paths s.1 s.2 = c
    match h.rest.fates.head?.getD true, made.bind fun s => after? paths ds later (ofStep s) with
    | true, some changed => { result := .ok (.ofExitCode 0), host := changed }
    | _, _ => { result := .ok (.ofExitCode 1), host := later }

variable {paths ds}

theorem linked?_shows {service : String} {files made : FileSystem}
    (linked : linked? paths ds service files = some made) :
    LinkShows paths ds service files made := by
  unfold linked? at linked
  split at linked
  next =>
    simp only [Option.ite_none_right_eq_some, Option.some.injEq] at linked
    obtain ⟨effect, rfl⟩ := linked
    exact effect
  next => cases linked

theorem running_switched (h : Host State) (service other : String) (on : Bool) :
    ((if on then service :: h.rest.up.filter (· ≠ service)
        else h.rest.up.filter (· ≠ service)).contains other) =
      (Effect.switch service on).runs other (running h other) := by
  by_cases same : other = service
  · subst same
    cases on <;> simp [Effect.runs]
  · cases on <;> simp [Effect.runs, running, same]

theorem after?_shows {h h' : Host State} {e : Effect} (done : after? paths ds h e = some h') :
    e.Shows paths ds running h h' := by
  cases e with
  | nothing =>
    cases done
    exact shows_refl h
  | link service =>
    obtain ⟨made, linked, rfl⟩ := Option.map_eq_some_iff.1 done
    obtain ⟨scripts, levels, there⟩ := linked?_shows linked
    constructor
    · exact scripts
    · exact fun level listed => (levels level listed).1
    · intro level listed entry new
      simpa [Effect.link?, eq_comm] using (levels level listed).2 entry new
    · intro entry own
      cases own
      exact there
    · exact fun other => rfl
  | switch service on =>
    cases done
    exact shows_of_files rfl rfl fun other => running_switched h service other on

theorem find_status (distinct : Distinct paths ds) {d : Declaration} (declared : d ∈ ds) :
    ds.find? (fun other => statusCommand paths other = statusCommand paths d) = some d := by
  cases found : ds.find? fun other => statusCommand paths other = statusCommand paths d with
  | none => simpa using List.find?_eq_none.1 found d declared
  | some other =>
    have same := List.find?_some found
    simp only [statusCommand, Command.mk.injEq, and_true, decide_eq_true_eq] at same
    rw [distinct.eq_of_script (List.mem_of_find?_eq_some found) declared same]

theorem find_action (distinct : Distinct paths ds) {s : Step} (member : s ∈ steps ds) :
    ds.find? (fun other => statusCommand paths other = actionCommand paths s.1 s.2) = none ∧
      (steps ds).find? (fun t => actionCommand paths t.1 t.2 = actionCommand paths s.1 s.2) =
        some s := by
  have declared := (mem_steps.1 member).1
  constructor
  · simpa using fun d other => distinct.statusCommand_ne other declared s.2
  · cases found : (steps ds).find? fun t =>
        actionCommand paths t.1 t.2 = actionCommand paths s.1 s.2 with
    | none => simpa using List.find?_eq_none.1 found s member
    | some t =>
      have same := List.find?_some found
      simp only [decide_eq_true_eq] at same
      have other := (mem_steps.1 (List.mem_of_find?_eq_some found)).1
      rw [distinct.actionCommand_injective other declared same]

theorem runner_allOrNothing (distinct : Distinct paths ds) :
    AllOrNothing paths (runner paths ds) running ds := by
  constructor
  · intro d declared h
    refine ⟨.ofExitCode (if running h d.name then 0 else 3), ?_⟩
    simp only [runner, find_status distinct declared, true_and]
    refine ⟨?_, shows_refl h⟩
    cases running h d.name <;> rfl
  · intro s member h
    obtain ⟨query, own⟩ := find_action distinct member
    have later : nothing.Shows paths ds running h
        { h with rest := { h.rest with fates := h.rest.fates.tail } } :=
      shows_of_files rfl rfl fun _ => rfl
    simp only [runner, query, own, Option.bind_some]
    split
    next fate changed made done =>
      exact .inl ⟨rfl, later.after (after?_shows done)⟩
    next => exact .inr ⟨rfl, later⟩

section Sample

open Sample

theorem entries_level {fs : FileSystem} (known : fs = files ∨ fs = linkedFiles) {level : Nat}
    (listed : level ∈ BootLink.runlevels) :
    BootLink.entries {} fs level = if level = 2 then (fs.names ["etc", "rc2.d"]).map OsString.text else [] := by
  have found : fs.list (BootLink.directory (Paths.rcRoot {}) level) = _ := list_level known listed
  unfold BootLink.entries
  rw [found]
  by_cases two : level = 2
  · subst two
    rfl
  · rw [if_neg two, if_neg two]

theorem linkShows_web {fs : FileSystem} (known : fs = files ∨ fs = linkedFiles) :
    LinkShows {} [web, db] "web" fs linkedFiles := by
  have made : (linkedFiles.names ["etc", "rc2.d"]).map OsString.text =
      [BootLink.startLink "web"] := by decide
  have before : ∀ entry ∈ (fs.names ["etc", "rc2.d"]).map OsString.text,
      entry = BootLink.startLink "web" := by
    rcases known with rfl | rfl <;> decide
  refine ⟨fun d declared _ => scripts (.inr rfl) d declared, fun level listed => ?_, ?_⟩
  · rw [entries_level known listed, entries_level (.inr rfl) listed, made]
    by_cases two : level = 2
    · simpa [two] using before
    · simp [two]
  · rw [entries_level (.inr rfl) (show 2 ∈ BootLink.runlevels by decide), made]
    simp

theorem linked_web {fs : FileSystem} (known : fs = files ∨ fs = linkedFiles) :
    linked? {} [web, db] "web" fs = some linkedFiles := by
  have path : BootLink.directory (Paths.rcRoot {}) 2 = "/etc/rc2.d" := by decide
  have place := (lookUp_levels known).1
  have made : fs.set ((["etc", "rc2.d"] : Location) ++ [OsString.ofText (BootLink.startLink "web")])
      (.link (Paths.initScript {} "web")) = linkedFiles := by
    rcases known with rfl | rfl <;> decide
  simp only [linked?, path, place, made, linkShows_web known, if_true]

theorem overridesApart_sample : OverridesApart {} [web, db] := by
  have halt : actionCommand {} db .stop = ⟨"dbctl", ["halt"]⟩ := by decide
  intro d declared given other declaredToo
  have last : d = db := by
    rcases List.mem_pair.1 declared with rfl | rfl
    · simp [web] at given
    · rfl
  subst last
  rw [halt]
  constructor
  · simp [statusCommand]
  · rcases List.mem_pair.1 declaredToo with rfl | rfl <;> rintro (_ | _ | _ | _) <;> decide

abbrev flaky : Runner State := runner {} [web, db]

def flakyHost (files : FileSystem) (up : List String) (fates : List Bool) : Host State :=
  { files := files, clock := 0, wall := 0, rest := ⟨up, fates⟩ }

theorem flaky_links (up : List String) (fates : List Bool) :
    flaky (flakyHost files up (true :: fates)) (actionCommand {} web .enable) =
      { result := .ok (.ofExitCode 0), host := flakyHost linkedFiles up fates } := by
  have query : [web, db].find? (fun d => statusCommand {} d = actionCommand {} web .enable) =
      none := by decide
  have own : (steps [web, db]).find?
      (fun s => actionCommand {} s.1 s.2 = actionCommand {} web .enable) =
        some (web, .enable) := by decide
  have name : web.name = "web" := rfl
  simp [flaky, runner, query, own, after?, flakyHost, ofStep, name, linked_web (.inl rfl)]

end Sample

end Converge.ModelHost
