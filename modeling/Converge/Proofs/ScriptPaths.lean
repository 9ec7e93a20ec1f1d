import Converge.Proofs.BootLinks

set_option autoImplicit false

namespace Converge

namespace Path

open Text.Utf8 (Octets)

inductive Component where
  | root
  -- A dot, where a relative path starts with it.
  | here
  | up
  | normal (name : OsString)
  deriving DecidableEq, Repr

def Component.ofName? (name : OsString) : Option Component :=
  if name = "" ∨ name = "." then none else if name = ".." then some .up else some (.normal name)

def leading (path : OsString) : List Component :=
  if isAbsolute path then [.root]
  else if (splitSlash [] path.octets).head? = some (".": String) then [.here] else []

/-- Slashes that are doubled or stand last, and dots after the first name, make no component. -/
def components (path : OsString) : List Component :=
  leading path ++ (splitSlash [] path.octets).filterMap Component.ofName?

theorem splitSlash_ne_nil (word s : Octets) : splitSlash word s ≠ [] := by
  induction s generalizing word with
  | nil => simp [splitSlash]
  | cons o rest ih => by_cases here : o = slash <;> simp [splitSlash, here, ih]

theorem splitSlash_append (word s rest : Octets) :
    splitSlash word (s ++ slash :: rest) = splitSlash word s ++ splitSlash [] rest := by
  induction s generalizing word with
  | nil => simp [splitSlash]
  | cons o s ih => by_cases here : o = slash <;> simp [splitSlash, here, ih]

theorem splitSlash_of_plain {s : Octets} (plain : slash ∉ s) (word : Octets) :
    splitSlash word s = [⟨word.reverse ++ s⟩] := by
  induction s generalizing word with
  | nil => simp [splitSlash]
  | cons o rest ih =>
    have other : o ≠ slash := fun here => plain (here ▸ List.mem_cons_self)
    have others : slash ∉ rest := fun member => plain (List.mem_cons_of_mem _ member)
    simp [splitSlash, other, ih others]

theorem head?_splitSlash_append (s rest : Octets) :
    (splitSlash [] (s ++ slash :: rest)).head? = (splitSlash [] s).head? := by
  obtain ⟨name, names, parts⟩ := List.exists_cons_of_ne_nil (splitSlash_ne_nil [] s)
  rw [splitSlash_append, parts]
  rfl

@[simp] theorem octets_slash : (OsString.ofText "/").octets = [slash] := rfl

theorem leading_slash (directory rest : OsString) :
    leading (directory ++ "/" ++ rest) = leading (directory ++ "/") := by
  have absolute : isAbsolute (directory ++ "/" ++ rest) = isAbsolute (directory ++ "/") := by
    cases first : directory.octets <;> simp [isAbsolute, first]
  have long := head?_splitSlash_append directory.octets rest.octets
  have short := head?_splitSlash_append directory.octets []
  simp [leading, absolute, long, short]

theorem leading_of_slash {directory : OsString} (named : directory ≠ "") :
    leading (directory ++ "/") = leading directory := by
  have absolute : isAbsolute (directory ++ "/") = isAbsolute directory := by
    cases first : directory.octets with
    | nil => exact absurd (OsString.ext first) named
    | cons o rest => simp [isAbsolute, first]
  have short := head?_splitSlash_append directory.octets []
  simp [leading, absolute, short]

theorem components_slash (directory : OsString) {name : OsString} (plain : slash ∉ name.octets)
    {component : Component} (kind : Component.ofName? name = some component) :
    components (directory ++ "/" ++ name) = components (directory ++ "/") ++ [component] := by
  have alone : splitSlash [] name.octets = [name] := by simp [splitSlash_of_plain plain]
  have empty : Component.ofName? ⟨[]⟩ = none := by decide
  simp only [components, leading_slash, OsString.append_octets, List.append_assoc, octets_slash]
  simp [splitSlash_append, alone, splitSlash, empty, kind]

theorem components_of_slash {directory : OsString} (named : directory ≠ "") :
    components (directory ++ "/") = components directory := by
  have empty : Component.ofName? ⟨[]⟩ = none := by decide
  simp [components, leading_of_slash named, splitSlash_append, splitSlash, empty]

theorem components_join {base name : OsString} (named : base ≠ "") (plain : slash ∉ name.octets)
    {component : Component} (kind : Component.ofName? name = some component) :
    components (join base name) = components base ++ [component] := by
  have relative : isAbsolute name = false :=
    beq_eq_false_iff_ne.2 fun start => plain (List.mem_of_head? start)
  -- A slash is put in only where the base has none at its end; the components are the same.
  cases last : base.octets.getLast? with
  | none => exact absurd (OsString.ext (List.getLast?_eq_none_iff.1 last)) named
  | some o =>
    by_cases here : o = slash
    · subst here
      obtain ⟨parent, rfl⟩ : ∃ parent : OsString, base = parent ++ "/" :=
        ⟨⟨base.octets.dropLast⟩, OsString.ext (List.dropLast_append_getLast? _ last).symm⟩
      have joined : join (parent ++ "/") name = parent ++ "/" ++ name := by
        simp [join, relative]
      rw [joined, components_slash parent plain kind]
    · have joined : join base name = base ++ "/" ++ name := by
        simp [join, relative, last, here]
      rw [joined, components_slash base plain kind, components_of_slash named]

end Path

namespace BootLink

theorem IsStartLink.service_eq {entry a b : String} (first : IsStartLink entry a)
    (second : IsStartLink entry b) : a = b := by
  obtain ⟨order, length, -, parts⟩ := (isStartLink_iff entry a).1 first
  obtain ⟨other, lengthToo, -, partsToo⟩ := (isStartLink_iff entry b).1 second
  have same : order ++ a.toList = other ++ b.toList := List.tail_eq_of_cons_eq (parts ▸ partsToo)
  exact String.toList_inj.1 (List.append_inj_right same (length.trans lengthToo.symm))

end BootLink

namespace Paths

/-- The script of an accepted name is the file of that name in the directory of the scripts. No
other accepted name has the same script, and no entry is a start link of two services. -/
theorem scripts_one_to_one (paths : Paths) (named : paths.initDir ≠ "") {name : String}
    (accepted : ServiceName.fault? name = none) :
    paths.initScript name =
        paths.initDir ++
          OsString.ofText (if paths.initDir.octets.getLast? = some Path.slash then "" else "/") ++
            OsString.ofText name ∧
      Path.components (paths.initScript name) = Path.components paths.initDir ++ [.normal name] ∧
      ('/' ∉ name.toList ∧ name ≠ "." ∧ name ≠ "..") ∧
      ∀ other, ServiceName.fault? other = none → other ≠ name →
        paths.initScript other ≠ paths.initScript name ∧
          ∀ entry, ¬ (BootLink.starts entry name = true ∧ BootLink.starts entry other = true) := by
  have component := ServiceName.component_of_accepted accepted
  have filled : name ≠ "" := by
    rintro rfl
    exact absurd accepted (by decide)
  have kind : Path.Component.ofName? name = some (.normal name) := by
    simp [Path.Component.ofName?, filled, component]
  have plain := ServiceName.slash_notMem_of_accepted accepted
  refine ⟨paths.initScript_eq named accepted, Path.components_join named plain kind, component,
    fun other acceptedToo apart => ⟨fun same => ?_, ?_⟩⟩
  · exact apart (paths.initScript_injective acceptedToo accepted same)
  · rintro entry ⟨first, second⟩
    rw [BootLink.starts_iff] at first second
    exact apart (second.service_eq first)

theorem scripts_one_to_one_getty :
    let paths : Paths := { initDir := "./sv//../init.d/" }
    paths.initDir ≠ "" ∧ ServiceName.fault? "getty@tty1" = none ∧
      ServiceName.fault? "0getty@tty1" = none ∧
      paths.initScript "getty@tty1" = "./sv//../init.d/getty@tty1" ∧
      Path.components (paths.initScript "getty@tty1") =
        [.here, .normal "sv", .up, .normal "init.d", .normal "getty@tty1"] ∧
      BootLink.starts "S200getty@tty1" "0getty@tty1" = true ∧
      BootLink.starts "S200getty@tty1" "getty@tty1" = false := by
  intro paths
  have named : paths.initDir ≠ "" := by decide
  have accepted : ServiceName.fault? "getty@tty1" = none := by decide
  have acceptedToo : ServiceName.fault? "0getty@tty1" = none := by decide
  have link : BootLink.starts "S200getty@tty1" "0getty@tty1" = true := by decide
  have parts : Path.components paths.initDir = [.here, .normal "sv", .up, .normal "init.d"] := by
    decide
  obtain ⟨path, components, -, others⟩ := scripts_one_to_one paths named accepted
  have apart := (others "0getty@tty1" acceptedToo (by decide)).2 "S200getty@tty1"
  rw [parts] at components
  have script : paths.initScript "getty@tty1" = "./sv//../init.d/getty@tty1" := by
    rw [path]
    decide
  exact ⟨named, accepted, acceptedToo, script, components, link, by simpa [link] using apart⟩

end Paths

end Converge
