import Mathlib
import Converge.Text.Lowercase

set_option autoImplicit false

namespace Converge.Text

-- A small letter that comes from one capital alone.
def Plain (c : Char) : Prop := 'a' ≤ c ∧ c ≤ 'z' ∧ c ≠ 'k'

instance : DecidablePred Plain := fun c =>
  inferInstanceAs (Decidable ('a' ≤ c ∧ c ≤ 'z' ∧ c ≠ 'k'))

theorem Plain.toNat_lt {c : Char} (plain : Plain c) : c.toNat < 0x80 :=
  Nat.lt_of_le_of_lt (UInt32.le_iff_toNat_le.1 plain.2.1) (by decide)

theorem lowerChar_ascii {c : Char} (ascii : c.toNat < 0x80) : lowerChar c = [c.toLower] := by
  have all : ∀ n < 0x80, lowerChar (Char.ofNat n) = [(Char.ofNat n).toLower] := by
    decide +kernel
  simpa using all c.toNat ascii

theorem toLower_not_ascii {c : Char} (beyond : 0x80 ≤ c.toNat) : c.toLower = c := by
  have small : ¬ (c.val ≥ 'A'.val ∧ c.val ≤ 'Z'.val) := by
    rintro ⟨-, capital⟩
    have := UInt32.le_iff_toNat_le.1 capital
    have top : 'Z'.val.toNat < 0x80 := by decide
    simp only [Char.toNat] at beyond
    omega
  simp only [Char.toLower, small, dite_false]

-- The distance of a run that starts outside of ASCII leads out of it, or to the letter k.
theorem capitalRuns_not_ascii : ∀ run ∈ capitalRuns, run.last < 0x80 ∨
    0x80 ≤ Int.ofNat run.first + run.distance ∨
      run.first = run.last ∧ Int.ofNat run.first + run.distance = 'k'.toNat := by
  decide +kernel

theorem ofNat_not_plain {n : Nat} (beyond : 0x80 ≤ n) : ¬ Plain (Char.ofNat n) := by
  by_cases valid : n.isValidChar
  · intro plain
    have small := plain.toNat_lt
    have same : (Char.ofNat n).toNat = n := by
      simp only [Char.ofNat, valid, dite_true]
      rfl
    omega
  · -- A number that is no code point gives the first character of all, which is no letter either.
    simp only [Char.ofNat, valid, dite_false]
    decide

theorem lowerChar_not_plain {c : Char} (beyond : 0x80 ≤ c.toNat) :
    ∃ d ∈ lowerChar c, ¬ Plain d := by
  simp only [lowerChar]
  split_ifs with dotted
  · exact ⟨Char.ofNat 0x307, by simp, by decide⟩
  · cases found : capitalRuns.find? (·.covers c.toNat) with
    | none =>
      refine ⟨c, List.mem_singleton_self c, ?_⟩
      rw [← Char.ofNat_toNat c]
      exact ofNat_not_plain beyond
    | some run =>
      refine ⟨_, List.mem_singleton_self _, ?_⟩
      have covered : run.covers c.toNat = true := by simpa using List.find?_some found
      simp only [CapitalRun.covers, Bool.and_eq_true, decide_eq_true_eq] at covered
      obtain ⟨⟨low, high⟩, -⟩ := covered
      rcases capitalRuns_not_ascii run (List.mem_of_find?_eq_some found) with
        inside | out | ⟨one, kelvin⟩
      · omega
      · exact ofNat_not_plain (by simp only [Int.ofNat_eq_natCast] at out ⊢; omega)
      · have sign : Int.ofNat c.toNat = run.first := by simp only [Int.ofNat_eq_natCast]; omega
        rw [sign]
        rw [Int.ofNat_eq_natCast] at kelvin
        rw [kelvin]
        decide

-- A word in plain letters is the lower case of just the words that differ from it in nothing but
-- the case of ASCII letters.
theorem lower_eq_iff (s : List Char) {word : List Char} (plain : ∀ c ∈ word, Plain c) :
    lower s = word ↔ s.map Char.toLower = word := by
  induction s generalizing word with
  | nil => rfl
  | cons c s ih =>
    rcases Nat.lt_or_ge c.toNat 0x80 with ascii | beyond
    · have split : lower (c :: s) = c.toLower :: lower s := by
        simp [lower, lowerChar_ascii ascii]
      rw [split, List.map_cons]
      cases word with
      | nil => simp
      | cons d word =>
        simp only [List.cons.injEq, ih fun e member => plain e (List.mem_cons_of_mem d member)]
    · -- Such a character spoils both sides: Char.toLower keeps it, lowerChar gives nothing plain.
      constructor
      · rintro rfl
        obtain ⟨d, member, strange⟩ := lowerChar_not_plain beyond
        exact absurd (plain d (by simpa [lower] using .inl member)) strange
      · rintro rfl
        have small := (plain c.toLower (by simp)).toNat_lt
        rw [toLower_not_ascii beyond] at small
        omega

end Converge.Text
