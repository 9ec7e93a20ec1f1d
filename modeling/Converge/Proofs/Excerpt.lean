import Mathlib.Order.Bounds.Defs
import Converge.Text.Excerpt

set_option autoImplicit false

namespace Converge.Text.Excerpt

open Utf8

-- Some lines as one text. Blank lines at its head leave nothing behind.
def joined (ls : List (List Char)) : List Char := ['\n'].intercalate (ls.dropWhile List.isEmpty)

/-- Each of the first `k` lines finds room behind the text of those before it. -/
def Fit (ls : List (List Char)) (k : Nat) : Prop :=
  ∀ i line, i < k → ls[i]? = some line → size (joined (ls.take i)) + size line ≤ maxSize

theorem foldl_append_of_ne_nil {kept : List Char} (started : kept ≠ []) (ls : List (List Char)) :
    ls.foldl append kept = ['\n'].intercalate (kept :: ls) := by
  induction ls generalizing kept with
  | nil => simp
  | cons line rest ih =>
    have next : append kept line = kept ++ '\n' :: line := by simp [append, started]
    rw [List.foldl_cons, next, ih (by simp)]
    cases rest <;> simp [List.intercalate]

theorem foldl_append_nil (ls : List (List Char)) : ls.foldl append [] = joined ls := by
  induction ls with
  | nil => simp [joined]
  | cons line rest ih =>
    cases line with
    | nil => simpa [joined, append] using ih
    | cons c line =>
      have first : append [] (c :: line) = c :: line := by simp [append]
      rw [List.foldl_cons, first, foldl_append_of_ne_nil (by simp)]
      simp [joined]

section

-- The same for a text that has already begun, as the induction over the lines needs it.
variable (kept : List Char) (ls : List (List Char))

def FitBehind (k : Nat) : Prop :=
  ∀ i line, i < k → ls[i]? = some line →
    size ((ls.take i).foldl append kept) + size line ≤ maxSize

def fitting : List Char → List (List Char) → Nat
  | _, [] => 0
  | kept, line :: rest =>
    if maxSize < size kept + size line then 0 else fitting (append kept line) rest + 1

theorem fitBehind_nil (k : Nat) : FitBehind [] ls k ↔ Fit ls k := by
  simp only [FitBehind, Fit, foldl_append_nil]

theorem fitBehind_zero : FitBehind kept ls 0 := by
  intro i line inside
  omega

theorem fitBehind_succ (line : List Char) (rest : List (List Char)) (k : Nat) :
    FitBehind kept (line :: rest) (k + 1) ↔
      size kept + size line ≤ maxSize ∧ FitBehind (append kept line) rest k := by
  constructor
  · intro fit
    refine ⟨by simpa using fit 0 line, fun i next inside there => ?_⟩
    simpa using fit (i + 1) next (by omega) (by simpa using there)
  · rintro ⟨first, fit⟩ i next inside there
    cases i with
    | zero =>
      obtain rfl : line = next := by simpa using there
      simpa using first
    | succ i => simpa using fit i next (by omega) (by simpa using there)

theorem fitting_isGreatest :
    IsGreatest {k | k ≤ ls.length ∧ FitBehind kept ls k} (fitting kept ls) := by
  induction ls generalizing kept with
  | nil =>
    refine ⟨⟨by simp [fitting], fitBehind_zero kept []⟩, fun k ⟨bound, _⟩ => ?_⟩
    simpa [fitting] using bound
  | cons line rest ih =>
    obtain ⟨⟨within, fit⟩, most⟩ := ih (append kept line)
    by_cases full : maxSize < size kept + size line
    next =>
      simp only [fitting, full, if_true]
      refine ⟨⟨by omega, fitBehind_zero kept _⟩, fun k ⟨_, fits⟩ => ?_⟩
      cases k with
      | zero => omega
      | succ k =>
        have room := ((fitBehind_succ kept line rest k).1 fits).1
        omega
    next =>
      simp only [fitting, full, if_false]
      refine ⟨⟨by simpa using within, ?_⟩, fun k ⟨bound, fits⟩ => ?_⟩
      · exact (fitBehind_succ kept line rest _).2 ⟨by omega, fit⟩
      · cases k with
        | zero => omega
        | succ k =>
          have behind := ((fitBehind_succ kept line rest k).1 fits).2
          have least := most ⟨by simpa using bound, behind⟩
          omega

theorem keep_eq :
    keep kept ls = (ls.take (fitting kept ls)).foldl append kept ++
      if fitting kept ls < ls.length then sizeMark else [] := by
  induction ls generalizing kept with
  | nil => simp [keep, fitting]
  | cons line rest ih =>
    by_cases full : maxSize < size kept + size line
    next => simp [keep, fitting, full]
    next => simp [keep, fitting, full, ih]

end

theorem joined_take {first : List Char} (filled : first ≠ []) (rest : List (List Char)) (k : Nat) :
    joined ((first :: rest).take k) = ['\n'].intercalate ((first :: rest).take k) := by
  cases k with
  | zero => rfl
  | succ k => simp [joined, filled]

theorem size_shorten_le (line : List Char) : size (shorten line) ≤ maxSize := by
  have bounded (s : List Char) : size s ≤ 4 * s.length := by
    induction s with
    | nil => simp [size]
    | cons c s ih =>
      have one := c.utf8Size_le_four
      simp only [size, List.length_cons]
      omega
  unfold shorten
  split
  next =>
    have head := bounded (line.take maxLineLength)
    have length := List.length_take_le maxLineLength line
    have mark : size cutMark = 3 := by decide
    rw [size_append, mark]
    unfold maxLineLength maxSize at *
    omega
  next short =>
    have whole := bounded line
    unfold maxLineLength maxSize at *
    omega

theorem size_append_le (kept line : List Char) :
    size (append kept line) ≤ size kept + size line + 1 := by
  unfold append
  split
  · omega
  · have one : size ('\n' :: line) = 1 + size line := rfl
    rw [size_append, one]
    omega

theorem size_joined_le {ls : List (List Char)} {k : Nat} (fit : Fit ls k) :
    size (joined (ls.take k)) ≤ maxSize + 1 := by
  induction k with
  | zero => simp [joined, size]
  | succ k ih =>
    cases there : ls[k]? with
    | none =>
      have fewer : Fit ls k := fun i line inside => fit i line (by omega)
      simpa [List.take_add_one, there] using ih fewer
    | some line =>
      -- The last line found room behind the others; its separator was not asked for.
      have room := fit k line (by omega) there
      have last := size_append_le (joined (ls.take k)) line
      rw [List.take_add_one, there, ← foldl_append_nil, List.foldl_append, foldl_append_nil]
      simp only [Option.toList_some, List.foldl_cons, List.foldl_nil]
      omega

theorem ofLines_eq (limit : Nat) (ls : List (List Char)) :
    let given := (ls.take limit).map shorten
    ∃ k, IsGreatest {k | k ≤ given.length ∧ Fit given k} k ∧
      ofLines limit ls = joined (given.take k) ++ (if k < given.length then sizeMark else []) ++
        if limit < ls.length then lineMark else [] := by
  intro given
  have greatest := fitting_isGreatest [] given
  simp only [fitBehind_nil] at greatest
  refine ⟨fitting [] given, greatest, ?_⟩
  rw [ofLines, keep_eq, foldl_append_nil]

/-- An excerpt is a text of at most `maxSize + 1` octets with at most two marks behind it. The text
is that of the first lines, as many as find room. -/
theorem kept_size_le (limit : Nat) (s : List Char) :
    let given := ((lines s).take limit).map shorten
    ∃ k, IsGreatest {k | k ≤ given.length ∧ Fit given k} k ∧
      excerpt limit s = joined (given.take k) ++ (if k < given.length then sizeMark else []) ++
        (if limit < (lines s).length then lineMark else []) ∧
      size (joined (given.take k)) ≤ maxSize + 1 := by
  obtain ⟨k, greatest, parts⟩ := ofLines_eq limit (lines s)
  exact ⟨k, greatest, parts, size_joined_le greatest.1.2⟩

/-- Five lines that fill an excerpt up to the last octet, their separators counted but for one. -/
def filling : List Char :=
  (List.replicate 4 (List.replicate 200 'x' ++ ['\n'])).flatten ++ List.replicate 197 'x'

theorem filling_exceeds_maxSize :
    ¬ ∃ kept, size kept ≤ maxSize ∧
      (excerpt 10 filling = kept ∨ excerpt 10 filling = kept ++ sizeMark ∨
        excerpt 10 filling = kept ++ lineMark ∨
        excerpt 10 filling = kept ++ sizeMark ++ lineMark) := by
  have whole : excerpt 10 filling = filling := by decide +kernel
  have large : size filling = maxSize + 1 := by decide +kernel
  have last : filling.getLast? = some 'x' := by decide +kernel
  have sizeEnd : sizeMark.getLast? = some ']' := by decide
  have lineEnd : lineMark.getLast? = some ']' := by decide
  rw [whole]
  -- The text ends with a line of its own, not with a mark.
  rintro ⟨kept, small, same | marked | marked | marked⟩
  · rw [← same] at small
    omega
  · simp [marked, List.getLast?_append, sizeEnd] at last
  · simp [marked, List.getLast?_append, lineEnd] at last
  · simp [marked, List.getLast?_append, lineEnd] at last

end Converge.Text.Excerpt
