import Mathlib.Algebra.Ring.Nat
import Mathlib.Data.List.TakeWhile
import Converge.Text.Basic

set_option autoImplicit false

namespace Converge.Text

def Clear (p : Char → Bool) (x : List Char) : Prop := ∀ c ∈ x.head?, p c = false

theorem Clear.of_cons {p : Char → Bool} {c : Char} (stops : p c = false) (x : List Char) :
    Clear p (c :: x) := by
  simpa [Clear] using stops

theorem cancel_run {p : Char → Bool} {a b x y : List Char} (left : ∀ c ∈ a, p c = true)
    (right : ∀ c ∈ b, p c = true) (clear : Clear p x) (clearToo : Clear p y)
    (same : a ++ x = b ++ y) : a = b ∧ x = y := by
  have taken {a x : List Char} (all : ∀ c ∈ a, p c = true) (clear : Clear p x) :
      (a ++ x).takeWhile p = a := by
    rw [List.takeWhile_append_of_pos all]
    cases x with
    | nil => simp
    | cons c rest => simp [clear c (by simp)]
  have runs := congrArg (List.takeWhile p) same
  rw [taken left clear, taken right clearToo] at runs
  subst runs
  exact ⟨rfl, List.append_cancel_left same⟩

namespace Decimal

theorem isDigit_ofNat {n : Nat} {c : Char} (member : c ∈ ofNat n) : isDigit c = true :=
  Nat.isDigit_of_mem_toDigits (by decide) (by decide) member

theorem ofNat_injective {n m : Nat} (same : ofNat n = ofNat m) : n = m := by
  calc
    n = Nat.ofDigitChars 10 (ofNat n) 0 := Nat.ofDigitChars_ten_toDigits.symm
    _ = Nat.ofDigitChars 10 (ofNat m) 0 := by rw [same]
    _ = m := Nat.ofDigitChars_ten_toDigits

theorem cancel_ofNat {n m : Nat} {x y : List Char} (clear : Clear isDigit x)
    (clearToo : Clear isDigit y) (same : ofNat n ++ x = ofNat m ++ y) : n = m ∧ x = y := by
  obtain ⟨digits, rest⟩ :=
    cancel_run (fun _ => isDigit_ofNat) (fun _ => isDigit_ofNat) clear clearToo same
  exact ⟨ofNat_injective digits, rest⟩

theorem head?_ofNat (n : Nat) (x : List Char) :
    ∃ c rest, ofNat n ++ x = c :: rest ∧ isDigit c = true := by
  obtain ⟨c, rest, parts⟩ := List.exists_cons_of_ne_nil (Nat.toDigits_ne_nil (n := n) (b := 10))
  exact ⟨c, rest ++ x, by simp [ofNat, parts], isDigit_ofNat (n := n) (by simp [ofNat, parts])⟩

theorem sign_ne_digits {sign : Char} (other : isDigit sign = false) {digits : List Char}
    (written : digits ≠ []) (all : ∀ c ∈ digits, isDigit c = true) (x y : List Char) :
    sign :: x ≠ digits ++ y := by
  obtain ⟨c, rest, rfl⟩ := List.exists_cons_of_ne_nil written
  rintro ⟨⟩
  simp [all sign (by simp)] at other

theorem cancel_ofInt {n m : Int} {x y : List Char} (clear : Clear isDigit x)
    (clearToo : Clear isDigit y) (same : ofInt n ++ x = ofInt m ++ y) : n = m ∧ x = y := by
  -- A minus sign is no digit, so that both numbers have one or neither has.
  have unsigned (n : Nat) (x y : List Char) : '-' :: x ≠ ofNat n ++ y :=
    sign_ne_digits (by decide) Nat.toDigits_ne_nil (fun _ => isDigit_ofNat) x y
  unfold ofInt at same
  split_ifs at same with negative negativeToo negativeToo
  · obtain ⟨digits, rest⟩ := cancel_ofNat clear clearToo (List.cons.inj same).2
    exact ⟨by omega, rest⟩
  · exact absurd same (unsigned _ _ y)
  · exact absurd same.symm (unsigned _ _ x)
  · obtain ⟨digits, rest⟩ := cancel_ofNat clear clearToo same
    exact ⟨by omega, rest⟩

theorem value_ofNat (n : Nat) : value (ofNat n) = n := by
  have read := Nat.ofDigitChars_ten_toDigits (n := n)
  simpa [value, ofNat, Nat.ofDigitChars, digitValue, Nat.mul_comm] using read

theorem ofNat_digitValue {d : Char} (digit : isDigit d = true) :
    digitValue d < 10 ∧ ofNat (digitValue d) = [d] := by
  have bounds : 48 ≤ d.toNat ∧ d.toNat ≤ 57 := by
    simpa [isDigit, Char.le_def, UInt32.le_iff_toNat_le] using digit
  have small : digitValue d < 10 := by
    simp only [digitValue, show '0'.toNat = 48 from rfl]
    omega
  have written : ∀ n < 10, Nat.digitChar n = Char.ofNat (48 + n) := by decide
  have place : 48 + digitValue d = d.toNat := by
    simp only [digitValue, show '0'.toNat = 48 from rfl]
    omega
  refine ⟨small, ?_⟩
  rw [ofNat, Nat.toDigits_of_lt_base small, written _ small, place, Char.ofNat_toNat]

theorem ofNat_foldl {digits : List Char} (all : ∀ c ∈ digits, isDigit c = true) {n : Nat}
    (positive : 0 < n) :
    ofNat (digits.foldl (fun n c => n * 10 + digitValue c) n) = ofNat n ++ digits := by
  induction digits generalizing n with
  | nil => simp
  | cons d rest ih =>
    obtain ⟨small, last⟩ := ofNat_digitValue (all d (by simp))
    have next : ofNat (n * 10 + digitValue d) = ofNat n ++ [d] := by
      rw [← last, Nat.mul_comm]
      exact (Nat.toDigits_append_toDigits (by decide) positive small).symm
    rw [List.foldl_cons, ih (fun c member => all c (by simp [member])) (by omega), next,
      List.append_assoc, List.singleton_append]

theorem ofNat_value {digits : List Char} (written : digits ≠ [])
    (all : ∀ c ∈ digits, isDigit c = true) (lead : digits.head? = some '0' → digits = ['0']) :
    ofNat (value digits) = digits := by
  cases digits with
  | nil => exact absurd rfl written
  | cons d rest =>
    obtain ⟨small, first⟩ := ofNat_digitValue (all d (by simp))
    by_cases zero : d = '0'
    · obtain rfl : rest = [] := by simpa [zero] using lead
      simpa [value] using first
    · have positive : 0 < digitValue d := by
        by_contra none
        have nothing : digitValue d = 0 := by omega
        rw [nothing] at first
        exact zero (List.singleton_inj.1 first).symm
      have later : ∀ c ∈ rest, isDigit c = true := fun c member => all c (by simp [member])
      have tail := ofNat_foldl later positive
      rw [first] at tail
      simpa [value] using tail
theorem head?_ofNat_of_pos {n : Nat} (positive : 0 < n) : (ofNat n).head? ≠ some '0' := by
  induction n using Nat.strongRecOn with
  | ind n ih =>
    have digits : ∀ m < 10, 0 < m → Nat.digitChar m ≠ '0' := by decide
    rw [ofNat, Nat.toDigits_eq_if (by decide)]
    split
    next small => simpa using digits n small positive
    next large =>
      have front := ih (n / 10) (by omega) (by omega)
      have written : Nat.toDigits 10 (n / 10) ≠ [] := Nat.toDigits_ne_nil
      rw [List.head?_append, List.head?_eq_some_head written, Option.some_or,
        ← List.head?_eq_some_head written]
      exact front

theorem length_padded {width n : Nat} (wide : 0 < width) (fits : n < 10 ^ width) :
    (padded width n).length = width := by
  have short : (ofNat n).length ≤ width := (Nat.length_toDigits_le_iff (by decide) wide).2 fits
  simp [padded]
  omega

theorem value_padded (width n : Nat) : Nat.ofDigitChars 10 (padded width n) 0 = n := by
  have zeros (k : Nat) (x : List Char) :
      Nat.ofDigitChars 10 (List.replicate k '0' ++ x) 0 = Nat.ofDigitChars 10 x 0 := by
    induction k with
    | zero => rfl
    | succ k ih => simpa [List.replicate_succ, Nat.ofDigitChars] using ih
  rw [padded, zeros]
  exact Nat.ofDigitChars_ten_toDigits

theorem cancel_padded {width n m : Nat} {x y : List Char} (wide : 0 < width)
    (fits : n < 10 ^ width) (fitsToo : m < 10 ^ width)
    (same : padded width n ++ x = padded width m ++ y) : n = m ∧ x = y := by
  obtain ⟨digits, rest⟩ := List.append_inj same
    (by rw [length_padded wide fits, length_padded wide fitsToo])
  exact ⟨by rw [← value_padded width n, digits, value_padded], rest⟩

theorem padded_ne_nil (width n : Nat) : padded width n ≠ [] := by
  have written : ofNat n ≠ [] := Nat.toDigits_ne_nil
  simp [padded, written]

theorem isDigit_padded {width n : Nat} {c : Char} (member : c ∈ padded width n) :
    isDigit c = true := by
  rcases List.mem_append.1 member with zero | digit
  · rw [List.eq_of_mem_replicate zero]
    rfl
  · exact isDigit_ofNat digit

end Decimal

end Converge.Text
