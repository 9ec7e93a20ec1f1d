import Converge.Proofs.Effects
import Converge.Proofs.FileGrowth

set_option autoImplicit false

namespace Converge

namespace Text

namespace Decimal

theorem utf8Size_of_isDigit {c : Char} (digit : isDigit c = true) : c.utf8Size = 1 := by
  simp only [isDigit, Bool.and_eq_true, decide_eq_true_eq, Char.le_def, UInt32.le_iff_toNat_le]
    at digit
  rw [Char.utf8Size_eq_one_iff, UInt32.le_iff_toNat_le]
  exact Nat.le_trans digit.2 (by decide)

theorem size_of_digits {s : List Char} (digits : ∀ c ∈ s, isDigit c = true) :
    Utf8.size s = s.length := by
  induction s with
  | nil => rfl
  | cons c rest ih =>
    have rest := ih fun x member => digits x (List.mem_cons_of_mem _ member)
    rw [Utf8.size, utf8Size_of_isDigit (digits c (by simp)), rest, List.length_cons, Nat.add_comm]

end Decimal

namespace Utf8

/-- A text cut behind so many octets. There is no cut through a character. -/
def cut? : Nat → List Char → Option (List Char × List Char)
  | 0, s => some ([], s)
  | _ + 1, [] => none
  | n + 1, c :: s =>
    if c.utf8Size ≤ n + 1 then
      (cut? (n + 1 - c.utf8Size) s).map fun parts => (c :: parts.1, parts.2)
    else none

theorem cut?_eq_some_iff (n : Nat) (s front back : List Char) :
    cut? n s = some (front, back) ↔ s = front ++ back ∧ size front = n := by
  fun_induction cut? n s generalizing front back with
  | case1 s =>
    cases front with
    | nil => simp [size]
    | cons c front =>
      have wide := c.utf8Size_pos
      simp [size]
      omega
  | case2 n => cases front <;> simp [size]
  | case3 n c s fits ih =>
    cases front with
    | nil => simp [size]
    | cons d front =>
      simp only [Option.map_eq_some_iff, Prod.exists, ih, Prod.mk.injEq, List.cons.injEq,
        List.cons_append, size]
      constructor
      · rintro ⟨front, back, ⟨rfl, length⟩, ⟨rfl, rfl⟩, rfl⟩
        exact ⟨⟨rfl, rfl⟩, by omega⟩
      · rintro ⟨⟨rfl, rfl⟩, length⟩
        exact ⟨front, back, ⟨rfl, by omega⟩, ⟨rfl, rfl⟩, rfl⟩
  | case4 n c s wide =>
    cases front with
    | nil => simp [size]
    | cons d front =>
      simp only [reduceCtorEq, List.cons_append, List.cons.injEq, size, false_iff]
      rintro ⟨⟨rfl, rfl⟩, length⟩
      omega

end Utf8

end Text

namespace FileSystem

variable {fs fs' : FileSystem}

theorem mem_names_iff (place : Location) (name : OsString) :
    name ∈ fs.names place ↔ ∃ node, fs.find? (place ++ [name]) = some node := by
  have below : place ++ [name] ≠ [] := by simp
  simp only [find?, below, if_false, ← Option.isSome_iff_exists, List.lookup_isSome_iff, beq_iff_eq,
    names, List.mem_filterMap]
  refine exists_congr fun entry => and_congr_right fun _ => ?_
  constructor
  · intro named
    split at named
    next last ends =>
      obtain ⟨rfl, rfl⟩ : entry.1.dropLast = place ∧ last = name := by simpa using named
      exact List.dropLast_append_getLast? last ends
    next => cases named
  · intro whole
    simp [← whole]

theorem find?_erase {place : Location} (below : place ≠ []) (other : Location) :
    (fs.erase place).find? other =
      if place.isPrefixOf other = true then none else fs.find? other := by
  by_cases root : other = []
  · subst root
    cases place with
    | nil => exact absurd rfl below
    | cons => simp [find?]
  · have rest := lookup_filter (fun there => !place.isPrefixOf there) fs.nodes other
    by_cases inside : place.isPrefixOf other = true <;>
      simpa [find?, erase, root, inside] using rest

theorem lookUp_present {path : OsString} {place : Location} {node : Node}
    (found : fs.lookUp path = .ok (place, node)) : fs.find? place = some node := by
  unfold lookUp at found
  split at found
  next there kind ends =>
    cases found
    exact target_present ends
  all_goals cases found

/-- A path leads to a directory that can be read, and a name stands there for a thing of any
kind. -/
def Holds (fs : FileSystem) (path name : OsString) : Prop :=
  ∃ place node, fs.lookUp path = .ok (place, .directory true) ∧
    fs.find? (place ++ [name]) = some node

theorem holds_iff_list (fs : FileSystem) (path name : OsString) :
    fs.Holds path name ↔ ∃ names, fs.list path = .ok names ∧ name ∈ names := by
  unfold Holds list
  constructor
  · rintro ⟨place, node, led, found⟩
    exact ⟨fs.names place, by rw [led], (mem_names_iff place name).2 ⟨node, found⟩⟩
  · rintro ⟨names, listed, member⟩
    split at listed
    next place led =>
      cases listed
      obtain ⟨node, found⟩ := (mem_names_iff place name).1 member
      exact ⟨place, node, led, found⟩
    all_goals cases listed

/-- A path leads to the same readable directory, or to none, in two file systems. -/
def LeadsAlike (fs fs' : FileSystem) (path : OsString) : Prop :=
  ∀ place, fs'.lookUp path = .ok (place, .directory true) ↔
    fs.lookUp path = .ok (place, .directory true)

theorem LeadsAlike.holds_iff {path name : OsString} (alike : fs.LeadsAlike fs' path)
    (same : ∀ place, fs'.find? place = some (.directory true) →
      fs'.find? (place ++ [name]) = fs.find? (place ++ [name])) :
    fs'.Holds path name ↔ fs.Holds path name := by
  refine exists_congr fun place => exists_congr fun node => ?_
  rw [alike place]
  refine and_congr_right fun led => ?_
  rw [same place (lookUp_present ((alike place).2 led))]

theorem LeadsAlike.holds_set {path entry : OsString} {place : Location} {name : OsString}
    {node : Node}
    (alike : fs.LeadsAlike (fs.set (place ++ [name]) node) path) (other : entry ≠ name) :
    (fs.set (place ++ [name]) node).Holds path entry ↔ fs.Holds path entry := by
  refine alike.holds_iff fun there _ => ?_
  rw [find?_set (by simp)]
  simp [other]

theorem LeadsAlike.holds_erase {path entry : OsString} {place : Location} {name : OsString}
    (alike : fs.LeadsAlike (fs.erase (place ++ [name])) path) (other : entry ≠ name) :
    (fs.erase (place ++ [name])).Holds path entry ↔ fs.Holds path entry := by
  refine alike.holds_iff fun there kept => ?_
  rw [find?_erase (by simp)] at kept ⊢
  -- A directory below the erased place would be gone too.
  have outside : ¬ place ++ [name] <+: there := by
    intro inside
    simp [List.isPrefixOf_iff_prefix.2 inside] at kept
  have apart : ¬ place ++ [name] <+: there ++ [entry] := by
    rw [List.prefix_concat_iff]
    rintro (same | inside)
    · simp [Ne.symm other] at same
    · exact outside inside
  rw [if_neg (by simpa using apart)]

end FileSystem

namespace BootLink

open Text

/-- The name of a start link: an S, two digits, and then the service to its end. -/
def IsStartLink (entry service : String) : Prop :=
  ∃ order : String, order.length = 2 ∧ (∀ c ∈ order.toList, '0' ≤ c ∧ c ≤ '9') ∧
    entry = "S" ++ order ++ service

/-- The test by octets: what follows the S is cut behind two of them. -/
def startsByOctets (entry service : String) : Bool :=
  match entry.toList with
  | 'S' :: rest =>
    match Utf8.cut? 2 rest with
    | some (order, name) => order.all Decimal.isDigit && name == service.toList
    | none => false
  | _ => false

theorem isStartLink_iff (entry service : String) :
    IsStartLink entry service ↔ ∃ order : List Char, order.length = 2 ∧
      (∀ c ∈ order, Decimal.isDigit c = true) ∧
        entry.toList = 'S' :: (order ++ service.toList) := by
  simp only [Decimal.isDigit, Bool.and_eq_true, decide_eq_true_eq]
  constructor
  · rintro ⟨order, length, digits, rfl⟩
    exact ⟨order.toList, by rw [String.length_toList, length], digits, by simp⟩
  · rintro ⟨order, length, digits, parts⟩
    refine ⟨String.ofList order, by simpa using length, by simpa using digits, ?_⟩
    simp [← String.toList_inj, parts]

theorem starts_iff (entry service : String) :
    starts entry service = true ↔ IsStartLink entry service := by
  rw [isStartLink_iff]
  unfold starts
  split
  next a b name parts =>
    rw [parts]
    simp only [Bool.and_eq_true, beq_iff_eq]
    constructor
    · rintro ⟨⟨first, second⟩, rfl⟩
      exact ⟨[a, b], rfl, by simp [first, second], rfl⟩
    · rintro ⟨order, length, digits, same⟩
      obtain ⟨x, y, rfl⟩ := List.length_eq_two.1 length
      simp only [List.cons_append, List.nil_append, List.cons.injEq, true_and] at same
      obtain ⟨rfl, rfl, rfl⟩ := same
      simpa using digits
  next other =>
    simp only [Bool.false_eq_true, false_iff]
    rintro ⟨order, length, -, parts⟩
    obtain ⟨a, b, rfl⟩ := List.length_eq_two.1 length
    exact other a b service.toList parts

theorem startsByOctets_iff (entry service : String) :
    startsByOctets entry service = true ↔ IsStartLink entry service := by
  rw [isStartLink_iff]
  unfold startsByOctets
  split
  next rest parts =>
    have cut (order : List Char) : Utf8.cut? 2 rest = some (order, service.toList) ↔
        rest = order ++ service.toList ∧ Utf8.size order = 2 := Utf8.cut?_eq_some_iff ..
    simp only [parts, List.cons.injEq, true_and]
    constructor
    · intro passes
      split at passes
      next order name found =>
        simp only [Bool.and_eq_true, List.all_eq_true, beq_iff_eq] at passes
        obtain ⟨digits, rfl⟩ := passes
        obtain ⟨whole, size⟩ := (cut order).1 found
        exact ⟨order, by rw [← Decimal.size_of_digits digits, size], digits, whole⟩
      next => cases passes
    · rintro ⟨order, length, digits, whole⟩
      have found := (cut order).2 ⟨whole, by rw [Decimal.size_of_digits digits, length]⟩
      simpa [found] using digits
  next other =>
    simp only [Bool.false_eq_true, false_iff]
    rintro ⟨order, -, -, parts⟩
    exact other _ parts

-- Without a replacement character in the service's name, a start link is one octet for octet.
theorem isStartLink_text_iff {service : String} (whole : Utf8.replacement ∉ service.toList)
    (entry : OsString) :
    IsStartLink entry.text service ↔ ∃ name, IsStartLink name service ∧ entry = .ofText name := by
  constructor
  · intro link
    refine ⟨entry.text, link, (OsString.text_eq_iff ?_).1 rfl⟩
    obtain ⟨order, -, digits, parts⟩ := link
    have plain : Utf8.replacement ∉ order.toList := fun member =>
      absurd (digits _ member) (by decide)
    have front : Utf8.replacement ≠ 'S' := by decide
    simp [parts, plain, whole, front]
  · rintro ⟨name, link, rfl⟩
    rwa [OsString.text_ofText]

theorem mem_entries_iff (paths : Paths) (files : FileSystem) (level : Nat) (shown : String) :
    shown ∈ entries paths files level ↔
      ∃ entry, files.Holds (directory paths.rcRoot level) entry ∧ entry.text = shown := by
  unfold entries
  simp only [FileSystem.holds_iff_list]
  split
  next names listed => simp [listed]
  next e refused => simp [refused]

def directories (rcRoot : OsString) : List OsString :=
  ["rc2.d", "rc3.d", "rc4.d", "rc5.d"].map fun name => Path.join rcRoot (.ofText name)

theorem directories_eq (rcRoot : OsString) :
    directories rcRoot = runlevels.map (directory rcRoot) :=
  rfl

theorem present_iff_holds (files : FileSystem) (paths : Paths) (service : String) :
    present files paths.rcRoot service = true ↔ ∃ path ∈ directories paths.rcRoot, ∃ entry,
      IsStartLink entry.text service ∧ files.Holds path entry := by
  simp only [present_iff, mem_entries_iff, starts_iff, directories_eq, List.mem_map,
    exists_exists_and_eq_and]
  refine exists_congr fun level => and_congr_right fun _ => ?_
  constructor
  · rintro ⟨entry, held, link⟩
    exact ⟨entry, link, held⟩
  · rintro ⟨entry, link, held⟩
    exact ⟨entry, held, link⟩

theorem present_congr {files files' : FileSystem} {paths : Paths} {service : String}
    (same : ∀ path ∈ directories paths.rcRoot, ∀ entry, IsStartLink entry.text service →
      (files'.Holds path entry ↔ files.Holds path entry)) :
    present files' paths.rcRoot service = present files paths.rcRoot service := by
  rw [Bool.eq_iff_iff, present_iff_holds, present_iff_holds]
  refine exists_congr fun path => and_congr_right fun listed => ?_
  exact exists_congr fun entry => and_congr_right fun link => same path listed entry link

end BootLink

namespace Provider

open BootLink Text

variable {ρ : Type}

theorem isEnabled_run (paths : Paths) (runner : Runner ρ) (service : String) (p : Progress ρ) :
    (isEnabled ⟨.debianInit, paths, runner⟩ service).run p =
      (.ok (present p.host.files paths.rcRoot service), p) :=
  rfl

/-- A service starts with its host exactly if one of four directories that can be read holds an entry
shown as one of its start links. For a service without a replacement character in its name, these
are the links themselves, octet for octet. The test of a name goes by octets as it goes by
characters. What is shown in another way does not count. -/
theorem isEnabled_iff_startLink (paths : Paths) (runner : Runner ρ) (service : String) :
    let asked (p : Progress ρ) := (isEnabled ⟨.debianInit, paths, runner⟩ service).run p
    (∀ p, ∃ answer, asked p = (.ok answer, p) ∧
      (answer = true ↔ ∃ path ∈ directories paths.rcRoot, ∃ entry,
        IsStartLink entry.text service ∧ p.host.files.Holds path entry)) ∧
    (Utf8.replacement ∉ service.toList → ∀ entry : OsString,
      IsStartLink entry.text service ↔ ∃ name, IsStartLink name service ∧ entry = .ofText name) ∧
    (∀ shown, starts shown service = startsByOctets shown service) ∧
    (∀ p q, (∀ path ∈ directories paths.rcRoot, ∀ entry, IsStartLink entry.text service →
        (q.host.files.Holds path entry ↔ p.host.files.Holds path entry)) →
      (asked q).1 = (asked p).1) ∧
    ∀ (p q : Progress ρ) (place : Location) (name : OsString), ¬ IsStartLink name.text service →
      (q.host.files = p.host.files.erase (place ++ [name]) ∨
        ∃ node, q.host.files = p.host.files.set (place ++ [name]) node) →
      (∀ path ∈ directories paths.rcRoot, p.host.files.LeadsAlike q.host.files path) →
      (asked q).1 = (asked p).1 := by
  intro asked
  have congr {p q : Progress ρ} (same : ∀ path ∈ directories paths.rcRoot, ∀ entry : OsString,
      IsStartLink entry.text service →
        (q.host.files.Holds path entry ↔ p.host.files.Holds path entry)) :
      (asked q).1 = (asked p).1 := by
    simp only [asked, isEnabled_run, present_congr same]
  refine ⟨fun p => ⟨_, isEnabled_run paths runner service p, present_iff_holds _ paths service⟩,
    isStartLink_text_iff, fun shown => ?_, fun p q => congr,
    fun p q place name other changed alike => ?_⟩
  · rw [Bool.eq_iff_iff, starts_iff, startsByOctets_iff]
  · refine congr fun path listed entry link => ?_
    have apart : entry ≠ name := fun same => other (same ▸ link)
    have there := alike path listed
    rcases changed with erased | ⟨node, set⟩
    · rw [erased] at there ⊢
      exact there.holds_erase apart
    · rw [set] at there ⊢
      exact there.holds_set apart

section Sample

open Sample

theorem leadsAlike_linked : ∀ path ∈ directories "/etc", files.LeadsAlike linkedFiles path := by
  obtain ⟨two, three, four, five⟩ := lookUp_levels (.inl rfl : files = files ∨ _)
  obtain ⟨two', three', four', five'⟩ := lookUp_levels (.inr rfl : linkedFiles = files ∨ _)
  have paths : directories "/etc" = ["/etc/rc2.d", "/etc/rc3.d", "/etc/rc4.d", "/etc/rc5.d"] := by
    decide
  simp [paths, FileSystem.LeadsAlike, two, three, four, five, two', three', four', five']

-- A link for one service starts no other whose name is the end of that one's.
theorem isEnabled_iff_startLink_web :
    let runner : Runner Unit := fun h _ => ⟨.ok (.ofExitCode 0), h, []⟩
    let host (files : FileSystem) : Host Unit := { files := files, clock := 0, wall := 0, rest := () }
    let asked (service : String) (files : FileSystem) :=
      (isEnabled ⟨.debianInit, {}, runner⟩ service).run { host := host files }
    linkedFiles = files.set (["etc", "rc2.d"] ++ ["S20web"]) (.link "/etc/init.d/web") ∧
      ¬ IsStartLink "S20web" "eb" ∧
      (∀ path ∈ directories "/etc", files.LeadsAlike linkedFiles path) ∧
      (asked "eb" linkedFiles).1 = (asked "eb" files).1 ∧
      (asked "web" linkedFiles).1 = .ok true ∧
      ∀ entry : OsString, IsStartLink entry.text "web" ↔
        ∃ name, IsStartLink name "web" ∧ entry = .ofText name := by
  intro runner host asked
  have other : ¬ IsStartLink "S20web" "eb" := by
    rw [← starts_iff]
    decide
  have alike := leadsAlike_linked
  obtain ⟨exact, octets, -, -, -⟩ := isEnabled_iff_startLink {} runner "web"
  obtain ⟨-, -, -, -, frame⟩ := isEnabled_iff_startLink {} runner "eb"
  refine ⟨rfl, other, alike, ?_, ?_, octets (by decide)⟩
  · exact frame { host := host files } { host := host linkedFiles } ["etc", "rc2.d"] "S20web" other
      (.inr ⟨_, rfl⟩) alike
  · obtain ⟨answer, run, present⟩ := exact { host := host linkedFiles }
    have link : IsStartLink "S20web" "web" := (starts_iff _ _).1 (by decide)
    have held : linkedFiles.Holds "/etc/rc2.d" "S20web" :=
      ⟨["etc", "rc2.d"], .link "/etc/init.d/web", (lookUp_levels (.inr rfl)).1, by decide⟩
    have yes := present.2 ⟨"/etc/rc2.d", by decide, "S20web", link, held⟩
    simp only [asked, run, yes]

-- An entry that is no text is shown with a replacement character, and so as the start link of a
-- service with that character in its name.
theorem isEnabled_by_faulty_entry :
    let runner : Runner Unit := fun h _ => ⟨.ok (.ofExitCode 0), h, []⟩
    let faulty : OsString := ⟨toOctets "S20svc" ++ [0xFF]⟩
    let files : FileSystem :=
      { nodes := [(["etc"], .directory true), (["etc", "rc2.d"], .directory true),
        (["etc", "rc2.d", faulty], .file [] false)] }
    let p : Progress Unit := { host := { files := files, clock := 0, wall := 0, rest := () } }
    ((isEnabled ⟨.debianInit, {}, runner⟩ "svc\uFFFD").run p).1 = .ok true ∧
      ∀ path ∈ directories "/etc", ∀ name, IsStartLink name "svc\uFFFD" →
        ¬ files.Holds path (.ofText name) := by
  intro runner faulty files p
  constructor
  · have two := FileSystem.target_absolute files "/etc/rc2.d" ["etc", "rc2.d"] (by decide)
    have led : files.lookUp "/etc/rc2.d" = .ok (["etc", "rc2.d"], .directory true) := by
      simp only [FileSystem.lookUp, two]
      simp [FileSystem.walk, files, FileSystem.find?, List.lookup_cons, FileSystem.nameLimit,
        Text.Utf8.size, Char.utf8Size]
    have link : IsStartLink faulty.text "svc\uFFFD" := (starts_iff _ _).1 (by decide)
    have held : files.Holds "/etc/rc2.d" faulty := ⟨["etc", "rc2.d"], .file [] false, led, by decide⟩
    rw [isEnabled_run, (present_iff_holds files {} _).2 ⟨"/etc/rc2.d", by decide, faulty, link, held⟩]
  · rintro path - name ⟨order, -, -, rfl⟩ ⟨place, node, -, found⟩
    have ends : (OsString.ofText ("S" ++ order ++ "svc\uFFFD")).octets.getLast? = some 0xBD := by
      rw [OsString.ofText_append, OsString.append_octets, List.getLast?_append]
      rfl
    have named := (FileSystem.mem_names_iff place _).2 ⟨node, found⟩
    generalize OsString.ofText ("S" ++ order ++ "svc\uFFFD") = entry at ends named
    obtain ⟨-, rfl⟩ | ⟨-, rfl⟩ | ⟨-, rfl⟩ :
        place = [] ∧ entry = "etc" ∨ place = ["etc"] ∧ entry = "rc2.d" ∨
          place = ["etc", "rc2.d"] ∧ entry = faulty := by
      simpa [FileSystem.names, files, eq_comm] using named
    all_goals
      exact absurd ends (by decide)

end Sample

end Provider

end Converge
