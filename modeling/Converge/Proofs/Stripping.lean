import Mathlib.Data.List.TakeWhile
import Converge.Text.Basic

set_option autoImplicit false

namespace Converge.Text

variable {drop : Char → Bool} {front core back s : List Char}

/-- No end is dropped. -/
structure Bare (drop : Char → Bool) (s : List Char) : Prop where
  first : ∀ c ∈ s.head?, drop c = false
  last : ∀ c ∈ s.getLast?, drop c = false

theorem dropWhile_of_bare (bare : ∀ c ∈ s.head?, drop c = false) : s.dropWhile drop = s := by
  cases s with
  | nil => rfl
  | cons c rest => simp [bare c (by simp)]

theorem stripBy_bare (drop : Char → Bool) (s : List Char) : Bare drop (stripBy drop s) := by
  constructor
  · intro c first
    have inside : stripBy drop s <+: s.dropWhile drop := by
      rw [← List.reverse_suffix]
      simpa [stripBy] using List.dropWhile_suffix drop
    obtain ⟨rest, parts⟩ := inside
    have head : (s.dropWhile drop).head? = some c := by
      rw [← parts, List.head?_append, first]
      rfl
    have stops := List.head?_dropWhile_not drop s
    simpa [head] using stops
  · intro c last
    rw [stripBy, List.getLast?_reverse] at last
    have stops := List.head?_dropWhile_not drop (s.dropWhile drop).reverse
    rw [last] at stops
    simpa using stops

theorem stripBy_parts (drop : Char → Bool) (s : List Char) :
    ∃ front back, s = front ++ stripBy drop s ++ back ∧ (∀ c ∈ front, drop c = true) ∧
      ∀ c ∈ back, drop c = true := by
  let rest := s.dropWhile drop
  refine ⟨s.takeWhile drop, (rest.reverse.takeWhile drop).reverse, ?_, ?_, ?_⟩
  · have whole : stripBy drop s ++ (rest.reverse.takeWhile drop).reverse = rest := by
      rw [stripBy, ← List.reverse_append, List.takeWhile_append_dropWhile, List.reverse_reverse]
    rw [List.append_assoc, whole, List.takeWhile_append_dropWhile]
  · exact fun c member => List.mem_takeWhile_imp member
  · exact fun c member => List.mem_takeWhile_imp (List.mem_reverse.1 member)

theorem stripBy_eq (before : ∀ c ∈ front, drop c = true) (after : ∀ c ∈ back, drop c = true)
    (bare : Bare drop core) : stripBy drop (front ++ core ++ back) = core := by
  cases empty : core with
  | nil =>
    have all : ∀ c ∈ front ++ back, drop c = true := by
      simpa [or_imp, forall_and] using ⟨before, after⟩
    simp [stripBy, List.dropWhile_eq_nil_iff.2 all]
  | cons c rest =>
    subst empty
    have begins : ((c :: rest) ++ back).dropWhile drop = (c :: rest) ++ back :=
      dropWhile_of_bare (by simpa using bare.first)
    have ends : (c :: rest).reverse.dropWhile drop = (c :: rest).reverse :=
      dropWhile_of_bare (by rw [List.head?_reverse]; exact bare.last)
    rw [stripBy, List.append_assoc, List.dropWhile_append_of_pos before, begins,
      List.reverse_append, List.dropWhile_append_of_pos (by simpa using after), ends,
      List.reverse_reverse]

theorem stripBy_append (drop : Char → Bool) (s : List Char) (after : ∀ c ∈ back, drop c = true) :
    stripBy drop (s ++ back) = stripBy drop s := by
  obtain ⟨front, rest, parts, before, dropped⟩ := stripBy_parts drop s
  have all : ∀ c ∈ rest ++ back, drop c = true := by
    simpa [or_imp, forall_and] using ⟨dropped, after⟩
  have stripped := stripBy_eq before all (stripBy_bare drop s)
  rwa [← List.append_assoc, ← parts] at stripped

theorem stripBy_eq_nil_iff (drop : Char → Bool) (s : List Char) :
    stripBy drop s = [] ↔ ∀ c ∈ s, drop c = true := by
  obtain ⟨front, back, parts, before, after⟩ := stripBy_parts drop s
  constructor
  · intro empty
    rw [parts, empty]
    simpa [or_imp, forall_and] using ⟨before, after⟩
  · intro all
    have bare : Bare drop [] := ⟨by simp, by simp⟩
    simpa using stripBy_eq all (by simp : ∀ c ∈ ([] : List Char), drop c = true) bare

theorem mem_of_mem_stripBy {c : Char} (member : c ∈ stripBy drop s) : c ∈ s := by
  obtain ⟨front, back, parts, -, -⟩ := stripBy_parts drop s
  rw [parts]
  simp [member]

end Converge.Text
