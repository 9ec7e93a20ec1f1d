import Converge.FileSystem.Access
import Mathlib.Tactic.SplitIfs

set_option autoImplicit false

namespace Converge

open Text

section Lookup

variable {κ α : Type} [BEq κ] [LawfulBEq κ] [DecidableEq κ]

theorem lookup_filter (kept : κ → Bool) (entries : List (κ × α)) (key : κ) :
    (entries.filter fun entry => kept entry.1).lookup key =
      if kept key then entries.lookup key else none := by
  induction entries with
  | nil => simp
  | cons entry rest ih =>
    obtain ⟨first, value⟩ := entry
    by_cases same : key = first
    · subst same
      by_cases keeps : kept key = true <;> simp [keeps, ih]
    · have other : (key == first) = false := beq_eq_false_iff_ne.2 same
      by_cases keeps : kept first = true <;> simp [List.lookup_cons, keeps, other, ih]

theorem lookup_replaced (key : κ) (value : α) (entries : List (κ × α)) (other : κ) :
    ((key, value) :: entries.filter fun entry => entry.1 ≠ key).lookup other =
      if other = key then some value else entries.lookup other := by
  by_cases same : other = key
  · simp [same]
  · have others := lookup_filter (fun k => k ≠ key) entries other
    simpa [List.lookup_cons, beq_eq_false_iff_ne.2 same, same] using others

end Lookup

-- Only a file takes what is added to it.
def Node.append : Node → Utf8.Octets → Node
  | .file content executable, octets => .file (content ++ octets) executable
  | node, _ => node

@[simp] theorem Node.append_nil (node : Node) : node.append [] = node := by
  cases node <;> simp [append]

theorem Node.append_append (node : Node) (first later : Utf8.Octets) :
    (node.append first).append later = node.append (first ++ later) := by
  cases node <;> simp [append]

namespace FileSystem

/-- Everything stays where it is, and a file may get longer. -/
structure Grows (fs fs' : FileSystem) : Prop where
  here : fs'.workingDirectory = fs.workingDirectory
  kept : ∀ place node, fs.find? place = some node →
    ∃ octets, fs'.find? place = some (node.append octets)

-- Everything stays as it is, and what is new is a directory.
structure AddsDirectories (fs fs' : FileSystem) : Prop where
  here : fs'.workingDirectory = fs.workingDirectory
  kept : ∀ place, fs'.find? place = fs.find? place ∨
    fs.find? place = none ∧ fs'.find? place = some (.directory true)

theorem Grows.refl (fs : FileSystem) : fs.Grows fs :=
  ⟨rfl, fun _ node found => ⟨[], by simpa using found⟩⟩

theorem Grows.trans {fs fs' fs'' : FileSystem} (first : fs.Grows fs') (later : fs'.Grows fs'') :
    fs.Grows fs'' := by
  refine ⟨later.here.trans first.here, fun place node found => ?_⟩
  obtain ⟨octets, between⟩ := first.kept place node found
  obtain ⟨more, after⟩ := later.kept place _ between
  exact ⟨octets ++ more, by rw [after, Node.append_append]⟩

theorem AddsDirectories.refl (fs : FileSystem) : fs.AddsDirectories fs := ⟨rfl, fun _ => .inl rfl⟩

theorem AddsDirectories.trans {fs fs' fs'' : FileSystem} (first : fs.AddsDirectories fs')
    (later : fs'.AddsDirectories fs'') : fs.AddsDirectories fs'' := by
  refine ⟨later.here.trans first.here, fun place => ?_⟩
  rcases later.kept place with same | ⟨free, made⟩
  · rw [same]
    exact first.kept place
  · rcases first.kept place with same | ⟨_, made'⟩
    · exact .inr ⟨same ▸ free, made⟩
    · exact absurd (free.symm.trans made') (by simp)

theorem AddsDirectories.grows {fs fs' : FileSystem} (adds : fs.AddsDirectories fs') :
    fs.Grows fs' := by
  refine ⟨adds.here, fun place node found => ?_⟩
  rcases adds.kept place with same | ⟨free, _⟩
  · exact ⟨[], by simp [same, found]⟩
  · exact absurd (free.symm.trans found) (by simp)

section Changes

variable {fs : FileSystem}

theorem find?_set {place : Location} (below : place ≠ []) (node : Node) (other : Location) :
    (fs.set place node).find? other = if other = place then some node else fs.find? other := by
  by_cases root : other = []
  · simp [find?, root, Ne.symm below]
  · simp only [find?, set, root, if_false]
    exact lookup_replaced place node fs.nodes other

theorem ne_root_of_free {place : Location} (free : fs.find? place = none) : place ≠ [] := by
  rintro rfl
  simp [find?] at free

theorem grows_set {place : Location} (free : fs.find? place = none) (node : Node) :
    fs.Grows (fs.set place node) := by
  refine ⟨rfl, fun other there found => ?_⟩
  have apart : other ≠ place := by
    rintro rfl
    exact absurd (free.symm.trans found) (by simp)
  exact ⟨[], by simp [find?_set (ne_root_of_free free), apart, found]⟩

theorem addsDirectories_set {place : Location} (free : fs.find? place = none) :
    fs.AddsDirectories (fs.set place (.directory true)) := by
  refine ⟨rfl, fun other => ?_⟩
  by_cases same : other = place
  · exact .inr ⟨same ▸ free, by simp [find?_set (ne_root_of_free free), same]⟩
  · exact .inl (by simp [find?_set (ne_root_of_free free), same])

theorem find?_appendAt {place : Location} {node : Node} (found : fs.find? place = some node)
    (octets : Utf8.Octets) (other : Location) : (fs.appendAt place octets).find? other =
      if other = place then some (node.append octets) else fs.find? other := by
  by_cases root : place = []
  · subst root
    obtain rfl : Node.directory true = node := by simpa [find?] using found
    by_cases same : other = [] <;> simp [appendAt, Node.append, find?, same]
  · cases node with
    | file content executable => simp [appendAt, found, Node.append, find?_set root]
    | directory | link | device =>
      by_cases same : other = place <;> simp [appendAt, found, Node.append, same]

theorem workingDirectory_appendAt (fs : FileSystem) (place : Location) (octets : Utf8.Octets) :
    (fs.appendAt place octets).workingDirectory = fs.workingDirectory := by
  unfold appendAt
  split <;> rfl

theorem grows_appendAt {place : Location} {node : Node} (found : fs.find? place = some node)
    (octets : Utf8.Octets) : fs.Grows (fs.appendAt place octets) := by
  refine ⟨workingDirectory_appendAt fs place octets, fun other there known => ?_⟩
  rw [find?_appendAt found]
  by_cases same : other = place
  · subst same
    obtain rfl : node = there := by simpa [found] using known
    exact ⟨octets, by simp⟩
  · exact ⟨[], by simp [same, known]⟩

end Changes

section Walks

variable {fs fs' : FileSystem}

theorem walk_present {follow : Bool} {links : Nat} {start place : Location} {names : List OsString}
    {node : Node} (ends : fs.walk follow links start names = .ok (.present place node)) :
    fs.find? place = some node := by
  fun_induction walk fs follow links start names <;> simp_all

theorem walk_free {follow : Bool} {links : Nat} {start place : Location} {names : List OsString}
    (ends : fs.walk follow links start names = .ok (.absent place) ∨
      fs.walk follow links start names = .ok (.absentDirectory place)) :
    fs.find? place = none := by
  fun_induction walk fs follow links start names <;> simp_all

theorem Grows.directory (grows : fs.Grows fs') {place : Location} {readable : Bool}
    (found : fs.find? place = some (.directory readable)) :
    fs'.find? place = some (.directory readable) := by
  obtain ⟨octets, kept⟩ := grows.kept place _ found
  exact kept

theorem Grows.link (grows : fs.Grows fs') {place : Location} {target : OsString}
    (found : fs.find? place = some (.link target)) : fs'.find? place = some (.link target) := by
  obtain ⟨octets, kept⟩ := grows.kept place _ found
  exact kept

-- A path leads where it led, or to the file that was put where it found nothing.
theorem walk_grown (grows : fs.Grows fs') {follow : Bool} {links : Nat} {start place : Location}
    {names : List OsString} {node : Node} (found : fs'.find? place = some node)
    (ends : (∃ before, fs.walk follow links start names = .ok (.present place before)) ∨
      fs.walk follow links start names = .ok (.absent place) ∧
        ∃ content executable, node = .file content executable) :
    fs'.walk follow links start names = .ok (.present place node) := by
  -- A walk that ends somewhere meets directories and links on its way, and `fs'` has the same.
  fun_induction walk fs follow links start names with
  | case1 links start there here =>
    obtain rfl : start = place := by simp_all
    simp [walk, found]
  | case3 links start name rest readable here dot ih =>
    rw [walk]
    simp only [grows.directory here, dot, if_true]
    exact ih ends
  | case4 links start rest readable here other ih =>
    rw [walk]
    simp only [grows.directory here, other, if_true]
    exact ih ends
  | case6 links start name readable here other step short free =>
    -- The free name is where the file is now.
    obtain ⟨rfl, content, executable, rfl⟩ :
        start ++ [name] = place ∧ ∃ content executable, node = .file content executable := by
      simpa using ends
    rw [walk]
    simp only [grows.directory here, other, step, short, found]
    simp [walk, found]
  | case9 links start name rest readable here other step short target there last =>
    obtain rfl : start ++ [name] = place := by simp_all
    obtain rfl : Node.link target = node := by simpa [grows.link there] using found
    rw [walk]
    simp [grows.directory here, other, step, short, found, last]
  | case12 start name rest readable here other step short target there last links some ih =>
    rw [walk]
    simp only [grows.directory here, other, step, short, grows.link there, last, some]
    exact ih ends
  | case14 links start name rest readable here other step short next plain there inner ih =>
    obtain ⟨octets, kept⟩ := grows.kept _ _ there
    rw [walk]
    simp only [grows.directory here, other, step, short, kept, Bool.false_eq_true, if_false]
    -- A step goes on unless it asks for a directory where none is; growing makes none.
    cases next with
    | directory =>
      simp only [Node.append]
      rw [if_neg inner]
      exact ih ends
    | file | device =>
      simp only [Node.append]
      rw [if_neg (by simpa [Node.isDirectory] using inner)]
      exact ih ends
    | link target => exact absurd rfl (plain target)
  | case2 | case5 | case7 | case8 | case10 | case11 | case13 | case15 | case16 => simp at ends

theorem target_cases (follow : Bool) (path : OsString) :
    (∃ e, ∀ fs : FileSystem, fs.target follow path = .error e) ∨
      ∃ (absolute : Bool) (names : List OsString), ∀ fs : FileSystem, fs.target follow path =
        fs.walk follow linkLimit (if absolute then [] else fs.workingDirectory) names := by
  -- What refuses a path before it is walked is written in it.
  unfold target
  by_cases nul : path.octets.contains 0 = true
  · exact .inl ⟨.nulInPath, fun _ => if_pos nul⟩
  by_cases empty : path = ""
  · exact .inl ⟨.notFound, fun _ => by rw [if_neg nul, if_pos empty]⟩
  by_cases long : pathLimit ≤ path.octets.length
  · exact .inl ⟨.nameTooLong, fun _ => by rw [if_neg nul, if_neg empty, if_pos long]⟩
  exact .inr ⟨Path.isAbsolute path, Path.steps path, fun _ => by
    rw [if_neg nul, if_neg empty, if_neg long]⟩

variable {follow : Bool} {path : OsString} {place : Location} {node : Node}

theorem target_present (ends : fs.target follow path = .ok (.present place node)) :
    fs.find? place = some node := by
  rcases target_cases follow path with ⟨e, refused⟩ | ⟨absolute, names, walks⟩
  · simp [refused] at ends
  · exact walk_present (walks fs ▸ ends)

theorem target_free (ends : fs.target follow path = .ok (.absent place) ∨
    fs.target follow path = .ok (.absentDirectory place)) : fs.find? place = none := by
  rcases target_cases follow path with ⟨e, refused⟩ | ⟨absolute, names, walks⟩
  · simp [refused] at ends
  · exact walk_free (walks fs ▸ ends)

theorem target_grown (grows : fs.Grows fs') (found : fs'.find? place = some node)
    (ends : (∃ before, fs.target follow path = .ok (.present place before)) ∨
      fs.target follow path = .ok (.absent place) ∧
        ∃ content executable, node = .file content executable) :
    fs'.target follow path = .ok (.present place node) := by
  rcases target_cases follow path with ⟨e, refused⟩ | ⟨absolute, names, walks⟩
  · simp [refused] at ends
  · rw [walks] at ends ⊢
    rw [grows.here]
    exact walk_grown grows found ends

end Walks

section Directories

variable {fs made : FileSystem} {path : OsString}

theorem makeDirectory_adds (ok : fs.makeDirectory path = .ok made) : fs.AddsDirectories made := by
  unfold makeDirectory at ok
  split at ok
  case h_3 place ends =>
    cases ok
    exact addsDirectories_set (target_free (.inl ends))
  case h_4 place ends =>
    cases ok
    exact addsDirectories_set (target_free (.inr ends))
  all_goals cases ok

theorem ensureDirectory_adds (ok : fs.ensureDirectory path = .ok made) :
    fs.AddsDirectories made := by
  unfold ensureDirectory at ok
  split at ok
  case h_1 made' ok' =>
    cases ok
    exact makeDirectory_adds ok'
  case h_2 =>
    split_ifs at ok
    cases ok
    exact .refl fs

theorem ensured_adds (fs : FileSystem) (path : OsString) :
    fs.AddsDirectories (Changed.ofExcept fs (fs.ensureDirectory path)).files := by
  cases ended : fs.ensureDirectory path with
  | ok made => exact ensureDirectory_adds ended
  | error => exact .refl fs

theorem makeDirectoriesWithin_adds (depth : Nat) (fs : FileSystem) (path : OsString) :
    fs.AddsDirectories (makeDirectoriesWithin depth fs path).files := by
  induction depth generalizing path with
  | zero => exact ensured_adds fs path
  | succ depth ih =>
    unfold makeDirectoriesWithin
    split
    · exact .refl fs
    · split
      case h_1 made ok => exact makeDirectory_adds ok
      case h_2 =>
        split
        case h_1 parent above =>
          dsimp only
          split
          · exact ih parent
          · exact (ih parent).trans (ensured_adds _ path)
        case h_2 => exact .refl fs
      case h_3 => exact .refl fs

end Directories

/-- What opening a place for writing finds there: a free place gets an empty file. -/
def Offers (fs : FileSystem) (place : Location) (node : Node) : Prop :=
  fs.find? place = some node ∨ fs.find? place = none ∧ node = .file [] false

theorem AddsDirectories.offers {fs fs' : FileSystem} (adds : fs.AddsDirectories fs')
    {place : Location} {node : Node} (solid : node.isDirectory = false)
    (offers : fs'.Offers place node) : fs.Offers place node := by
  rcases adds.kept place with same | ⟨_, made⟩
  · simpa only [Offers, same] using offers
  · rcases offers with found | ⟨free, _⟩
    · rw [Option.some.inj (found.symm.trans made)] at solid
      exact absurd solid (by decide)
    · exact absurd (free.symm.trans made) (by simp)

theorem openForWriting_ok {fs opened : FileSystem} {path : OsString} {place : Location}
    (ok : fs.openForWriting path = .ok (place, opened)) :
    ∃ node : Node, node.isDirectory = false ∧ fs.Offers place node ∧
      opened.target true path = .ok (.present place node) ∧ fs.Grows opened := by
  unfold openForWriting at ok
  split at ok
  case h_2 there node solid ends =>
    cases ok
    have plain : node.isDirectory = false := by
      cases node with
      | directory readable => exact absurd rfl (solid readable)
      | file | link | device => rfl
    exact ⟨node, plain, .inl (target_present ends), ends, .refl fs⟩
  case h_3 there ends =>
    cases ok
    have free := target_free (.inl ends)
    have grows := grows_set free (.file [] false)
    have found : (fs.set place (.file [] false)).find? place = some (.file [] false) := by
      simp [find?_set (ne_root_of_free free)]
    exact ⟨.file [] false, rfl, .inr ⟨free, rfl⟩,
      target_grown grows found (.inr ⟨ends, [], false, rfl⟩), grows⟩
  all_goals cases ok

end FileSystem

end Converge
