import Converge.Provider.Control

set_option autoImplicit false

namespace Converge.Text

theorem wordsAfter_eq_nil_iff (word s : List Char) :
    wordsAfter word s = [] ↔ word = [] ∧ ∀ c ∈ s, isBlank c = true := by
  induction s generalizing word with
  | nil => cases word <;> simp [wordsAfter]
  | cons c rest ih =>
    by_cases blank : isBlank c = true <;> cases word <;> simp [wordsAfter, blank, ih]

theorem words_eq_nil_iff (s : List Char) : words s = [] ↔ ∀ c ∈ s, isBlank c = true := by
  simp [words, wordsAfter_eq_nil_iff]

theorem words_cons_of_blank {c : Char} (blank : isBlank c = true) (s : List Char) :
    words (c :: s) = words s := by
  simp [words, wordsAfter, blank]

theorem wordsAfter_of_ne_nil {word : List Char} (begun : word ≠ []) (s : List Char) :
    wordsAfter word s = (word.reverse ++ s.takeWhile fun c => !isBlank c) ::
      words (s.dropWhile fun c => !isBlank c) := by
  induction s generalizing word with
  | nil => simp [wordsAfter, words, begun]
  | cons c rest ih =>
    by_cases blank : isBlank c = true
    · simp [wordsAfter, words, blank, begun]
    · simp [wordsAfter, blank, ih]

theorem words_cons_of_letter {c : Char} (letter : isBlank c = false) (s : List Char) :
    words (c :: s) = ((c :: s).takeWhile fun c => !isBlank c) ::
      words ((c :: s).dropWhile fun c => !isBlank c) := by
  simp [words, wordsAfter, letter, wordsAfter_of_ne_nil]

end Converge.Text

namespace Converge.Command

theorem ofLine?_eq_none_iff (line : String) :
    ofLine? line = none ↔ ∀ c ∈ line.toList, Text.isBlank c = true := by
  rw [← Text.words_eq_nil_iff]
  unfold ofLine?
  split <;> simp_all

theorem ofLine?_of_letter {line : String} (letter : ∃ c ∈ line.toList.head?, Text.isBlank c = false) :
    ofLine? line = some ⟨String.ofList (line.toList.takeWhile fun c => !Text.isBlank c),
      (Text.words (line.toList.dropWhile fun c => !Text.isBlank c)).map String.ofList⟩ := by
  obtain ⟨c, first, letter⟩ := letter
  obtain ⟨rest, parts⟩ := List.head?_eq_some_iff.1 first
  rw [ofLine?, parts, Text.words_cons_of_letter letter]

theorem ofOverride_eq_ok_iff (line : String) (c : Command) :
    ofOverride line = .ok c ↔ ofLine? line = some c := by
  cases read : ofLine? line <;> simp [ofOverride, read]

theorem ofOverride_eq_error_iff (line : String) (e : ApplyError) :
    ofOverride line = .error e ↔
      (∀ c ∈ line.toList, Text.isBlank c = true) ∧
        e = .command (.invalidLine "stop override is empty") := by
  rw [← ofLine?_eq_none_iff]
  cases read : ofLine? line with
  | none => simp [ofOverride, read, eq_comm]
  | some c => simp [ofOverride, read]

end Converge.Command
