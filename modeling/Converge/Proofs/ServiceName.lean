import Mathlib.Logic.Basic
import Mathlib.Tactic.SplitIfs
import Converge.Proofs.OsString
import Converge.Service.Basic
import Converge.Settings.Basic
import Converge.Text.Basic

set_option autoImplicit false

namespace Converge

namespace ServiceName

theorem fault?_eq_none_iff (name : String) :
    fault? name = none ↔ name.toList ≠ [] ∧ Text.Utf8.size name.toList ≤ maxSize ∧
      (name.toList.head? ≠ some '.' ∧ name.toList.head? ≠ some '-') ∧
        ∀ c ∈ name.toList, isNameChar c = true := by
  simp only [fault?, ite_eq_iff, reduceCtorEq, and_false, false_or, and_true]
  simp

def IsLetterOrDigit (c : Char) : Prop :=
  ('A' ≤ c ∧ c ≤ 'Z') ∨ ('a' ≤ c ∧ c ≤ 'z') ∨ ('0' ≤ c ∧ c ≤ '9')

instance : DecidablePred IsLetterOrDigit := fun c =>
  inferInstanceAs (Decidable (('A' ≤ c ∧ c ≤ 'Z') ∨ ('a' ≤ c ∧ c ≤ 'z') ∨ ('0' ≤ c ∧ c ≤ '9')))

theorem isAlphanum_iff (c : Char) : c.isAlphanum = true ↔ IsLetterOrDigit c := by
  change ((decide ('A'.val ≤ c.val ∧ c.val ≤ 'Z'.val) ||
    (decide ('a'.val ≤ c.val) && decide (c.val ≤ 'z'.val))) ||
      (decide ('0'.val ≤ c.val) && decide (c.val ≤ '9'.val))) = true ↔ _
  simp only [IsLetterOrDigit, Char.le_def, Bool.or_eq_true, Bool.and_eq_true, decide_eq_true_eq,
    or_assoc]

theorem isNameChar_iff (c : Char) :
    isNameChar c = true ↔ IsLetterOrDigit c ∨ c = '-' ∨ c = '_' ∨ c = '.' ∨ c = '@' := by
  simp only [isNameChar, Bool.or_eq_true, beq_iff_eq, isAlphanum_iff, or_assoc]

theorem isBlank_of_isNameChar {c : Char} (letter : isNameChar c = true) :
    Text.isBlank c = false := by
  -- The allowed characters lie between the hyphen and the last letter, where no blank is.
  have range : 0x2D ≤ c.toNat ∧ c.toNat ≤ 0x7A := by
    rcases (isNameChar_iff c).1 letter with (upper | lower | digit) | rfl | rfl | rfl | rfl
    · simp [Char.le_def, UInt32.le_iff_toNat_le] at upper
      omega
    · simp [Char.le_def, UInt32.le_iff_toNat_le] at lower
      omega
    · simp [Char.le_def, UInt32.le_iff_toNat_le] at digit
      omega
    all_goals decide
  simp [Text.isBlank]
  omega

/-- A name is accepted exactly if it has 1 to 64 octets, all its characters are letters, digits or
one of four marks, and it does not start with one of the two marks that a path or an option may
start with. The other two may stand first. -/
theorem accepted_iff (name : String) :
    fault? name = none ↔ (1 ≤ name.utf8ByteSize ∧ name.utf8ByteSize ≤ 64) ∧
      (∀ c ∈ name.toList, IsLetterOrDigit c ∨ c = '-' ∨ c = '_' ∨ c = '.' ∨ c = '@') ∧
      ∃ c ∈ name.toList.head?, IsLetterOrDigit c ∨ c = '_' ∨ c = '@' := by
  have filled : name.toList ≠ [] ↔ 1 ≤ name.utf8ByteSize := by
    rw [← Text.Utf8.size_toList]
    cases name.toList with
    | nil => simp [Text.Utf8.size]
    | cons c rest =>
      have wide := c.utf8Size_pos
      simp only [Text.Utf8.size, ne_eq, reduceCtorEq, not_false_eq_true, true_iff]
      omega
  rw [fault?_eq_none_iff, filled, Text.Utf8.size_toList, ← and_assoc]
  refine and_congr_right fun size => ?_
  obtain ⟨c, rest, parts⟩ := List.exists_cons_of_ne_nil (filled.2 size.1)
  simp only [isNameChar_iff, parts, List.head?_cons, ne_eq, Option.some.injEq, Option.mem_some_iff,
    exists_eq_left']
  constructor
  · rintro ⟨⟨noDot, noHyphen⟩, plain⟩
    have first := plain c (by simp)
    exact ⟨plain, by simpa [noDot, noHyphen] using first⟩
  · rintro ⟨plain, start⟩
    refine ⟨⟨?_, ?_⟩, plain⟩ <;>
    · rintro rfl
      revert start
      decide

-- What a refusal says of the first character is not the rule by which names are accepted.
theorem underscore_may_start :
    Fault.badStart.message = "Service name must start with a letter or digit" ∧
      ¬ (fault? "_scalaris" = none ↔
        (1 ≤ "_scalaris".utf8ByteSize ∧ "_scalaris".utf8ByteSize ≤ 64) ∧
          (∀ c ∈ "_scalaris".toList,
            IsLetterOrDigit c ∨ c = '-' ∨ c = '_' ∨ c = '.' ∨ c = '@') ∧
          ∃ c ∈ "_scalaris".toList.head?, IsLetterOrDigit c) := by
  have accepted : fault? "_scalaris" = none := by decide
  have start : "_scalaris".toList.head? = some '_' := rfl
  have mark : ¬ IsLetterOrDigit '_' := by decide
  refine ⟨rfl, fun same => ?_⟩
  obtain ⟨-, -, c, first, letter⟩ := same.1 accepted
  rw [start] at first
  cases first
  exact mark letter

variable {name : String} (accepted : fault? name = none)

include accepted

theorem head?_of_accepted : name.toList.head? ≠ some '.' ∧ name.toList.head? ≠ some '-' :=
  ((fault?_eq_none_iff name).1 accepted).2.2.1

theorem isNameChar_of_accepted : ∀ c ∈ name.toList, isNameChar c = true :=
  ((fault?_eq_none_iff name).1 accepted).2.2.2

theorem component_of_accepted : '/' ∉ name.toList ∧ name ≠ "." ∧ name ≠ ".." := by
  have start := (head?_of_accepted accepted).1
  refine ⟨fun slash => ?_, ?_, ?_⟩
  · have letter := isNameChar_of_accepted accepted '/' slash
    simp [isNameChar] at letter
  · rintro rfl
    exact start rfl
  · rintro rfl
    exact start rfl

theorem slash_notMem_of_accepted : Path.slash ∉ Text.toOctets name := fun member =>
  (component_of_accepted accepted).1 ((Text.mem_toOctets (by decide) name).1 member)

theorem isAbsolute_of_accepted : Path.isAbsolute name = false := by
  rw [Path.isAbsolute, beq_eq_false_iff_ne]
  exact fun start => slash_notMem_of_accepted accepted (List.mem_of_head? start)

theorem isBlank_of_accepted : ∀ c ∈ name.toList, Text.isBlank c = false := fun c member =>
  isBlank_of_isNameChar (isNameChar_of_accepted accepted c member)

end ServiceName

namespace Paths

variable (paths : Paths) {a b : String}

theorem initScript_eq (named : paths.initDir ≠ "") (accepted : ServiceName.fault? a = none) :
    paths.initScript a =
      paths.initDir ++
        OsString.ofText (if paths.initDir.octets.getLast? = some Path.slash then "" else "/") ++
          OsString.ofText a := by
  have relative := ServiceName.isAbsolute_of_accepted accepted
  rw [initScript, Path.join, relative]
  cases last : paths.initDir.octets.getLast? with
  | none => exact absurd (OsString.ext (List.getLast?_eq_none_iff.1 last)) named
  | some o =>
    by_cases slash : o = Path.slash <;> simp [slash]

theorem initScript_front : ∃ front : OsString, ∀ name, ServiceName.fault? name = none →
    paths.initScript name = front ++ OsString.ofText name := by
  by_cases ends : paths.initDir.octets.getLast?.all (· == Path.slash) = true
  · refine ⟨paths.initDir, fun name accepted => ?_⟩
    simp only [initScript, Path.join, ServiceName.isAbsolute_of_accepted accepted, ends, if_true,
      Bool.false_eq_true, if_false]
  · refine ⟨paths.initDir ++ "/", fun name accepted => ?_⟩
    simp only [initScript, Path.join, ServiceName.isAbsolute_of_accepted accepted, ends,
      Bool.false_eq_true, if_false]

theorem text_initScript (named : paths.initDir ≠ "") (accepted : ServiceName.fault? a = none) :
    (paths.initScript a).text = paths.initDir.text ++
      (if paths.initDir.octets.getLast? = some Path.slash then "" else "/") ++ a := by
  rw [paths.initScript_eq named accepted, OsString.text_append, OsString.text_append]

theorem text_initScript_injective (first : ServiceName.fault? a = none)
    (second : ServiceName.fault? b = none)
    (same : (paths.initScript a).text = (paths.initScript b).text) : a = b := by
  obtain ⟨front, scripts⟩ := paths.initScript_front
  rw [scripts a first, scripts b second, OsString.text_append, OsString.text_append] at same
  exact (String.append_right_inj _).1 same

theorem initScript_injective (first : ServiceName.fault? a = none)
    (second : ServiceName.fault? b = none) (same : paths.initScript a = paths.initScript b) :
    a = b :=
  paths.text_initScript_injective first second (congrArg OsString.text same)

end Paths

end Converge
