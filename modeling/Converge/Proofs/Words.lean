import Converge.Proofs.CommandLine
import Converge.Rehearsal.Script

set_option autoImplicit false

namespace Converge

namespace Text

def IsWord (word : List Char) : Prop := word ≠ [] ∧ ∀ c ∈ word, isBlank c = false

instance : DecidablePred IsWord := fun word =>
  decidable_of_iff (word ≠ [] ∧ (word.all fun c => !isBlank c) = true) (by simp [IsWord])

/-- Words with blanks before, between and after them, and at least one between two. -/
inductive Spaced : List Char → List (List Char) → Prop where
  | blanks {gap : List Char} (blank : ∀ c ∈ gap, isBlank c = true) : Spaced gap []
  | word {gap word rest : List Char} {ws : List (List Char)}
      (blank : ∀ c ∈ gap, isBlank c = true) (isWord : IsWord word)
      (apart : ∀ c ∈ rest.head?, isBlank c = true) (after : Spaced rest ws) :
      Spaced (gap ++ word ++ rest) (word :: ws)

theorem words_append_of_blank {gap : List Char} (blank : ∀ c ∈ gap, isBlank c = true)
    (s : List Char) : words (gap ++ s) = words s := by
  induction gap with
  | nil => rfl
  | cons c gap ih =>
    rw [List.cons_append, words_cons_of_blank (blank c (by simp))]
    exact ih fun x member => blank x (List.mem_cons_of_mem _ member)

theorem words_append_of_word {word rest : List Char} (isWord : IsWord word)
    (apart : ∀ c ∈ rest.head?, isBlank c = true) : words (word ++ rest) = word :: words rest := by
  obtain ⟨c, letters, rfl⟩ := List.exists_cons_of_ne_nil isWord.1
  have whole : ∀ x ∈ c :: letters, (!isBlank x) = true := by simpa using isWord.2
  have cut : rest.takeWhile (fun x => !isBlank x) = [] ∧
      rest.dropWhile (fun x => !isBlank x) = rest := by
    cases rest with
    | nil => simp
    | cons x rest => simp [apart x (by simp)]
  rw [List.cons_append, words_cons_of_letter (isWord.2 c (by simp)), ← List.cons_append,
    List.takeWhile_append_of_pos whole, List.dropWhile_append_of_pos whole, cut.1, cut.2,
    List.append_nil]

namespace Spaced

variable {s : List Char} {ws : List (List Char)}

theorem cons_blank {c : Char} (blank : isBlank c = true) (spaced : Spaced s ws) :
    Spaced (c :: s) ws := by
  cases spaced with
  | blanks gap => exact .blanks (by simpa [blank] using gap)
  | word gap isWord apart after =>
    exact @Spaced.word (c :: _) _ _ _ (by simpa [blank] using gap) isWord apart after

theorem isWord (spaced : Spaced s ws) : ∀ word ∈ ws, IsWord word := by
  induction spaced with
  | blanks => simp
  | word _ isWord _ _ ih => simpa [isWord] using ih

theorem flatten (spaced : Spaced s ws) : ws.flatten = s.filter fun c => !isBlank c := by
  induction spaced with
  | blanks blank => simpa using blank
  | word blank isWord _ _ ih =>
    have dropped := List.filter_eq_nil_iff.2 fun c member =>
      (by simpa using blank c member : ¬ (!isBlank c) = true)
    have kept := List.filter_eq_self.2 fun c member =>
      (by simpa using isWord.2 c member : (!isBlank c) = true)
    rw [List.flatten_cons, ih, List.filter_append, List.filter_append, dropped, kept,
      List.nil_append]

theorem words_eq (spaced : Spaced s ws) : words s = ws := by
  induction spaced with
  | blanks blank => exact (words_eq_nil_iff _).2 blank
  | word blank isWord apart _ ih =>
    rw [List.append_assoc, words_append_of_blank blank, words_append_of_word isWord apart, ih]

end Spaced

theorem spaced_wordsAfter {word : List Char} (letters : ∀ c ∈ word, isBlank c = false)
    (s : List Char) : Spaced (word.reverse ++ s) (wordsAfter word s) := by
  -- The pending word is kept backwards, and a blank or the end of the text completes it.
  induction s generalizing word with
  | nil =>
    by_cases empty : word = []
    · have ends : Spaced [] [] := .blanks (by simp)
      simpa [wordsAfter, empty] using ends
    · have isWord : IsWord word.reverse := ⟨by simpa using empty, by simpa using letters⟩
      have ends : Spaced ([] ++ word.reverse ++ []) [word.reverse] :=
        .word (by simp) isWord (by simp) (.blanks (by simp))
      simpa [wordsAfter, empty] using ends
  | cons c rest ih =>
    by_cases blank : isBlank c = true
    · have after : Spaced (c :: rest) (wordsAfter [] rest) :=
        .cons_blank blank (@ih [] (by simp))
      by_cases empty : word = []
      · simpa [wordsAfter, blank, empty] using after
      · have isWord : IsWord word.reverse := ⟨by simpa using empty, by simpa using letters⟩
        have ends : Spaced ([] ++ word.reverse ++ c :: rest) (word.reverse :: wordsAfter [] rest) :=
          .word (by simp) isWord (by simpa using blank) after
        simpa [wordsAfter, blank, empty] using ends
    · have longer := @ih (c :: word) (by simpa [blank] using letters)
      simpa [wordsAfter, blank] using longer

-- The words of a text are the only ones that it consists of.
theorem words_eq_iff (s : List Char) (ws : List (List Char)) : words s = ws ↔ Spaced s ws := by
  constructor
  · rintro rfl
    exact @spaced_wordsAfter [] (by simp) s
  · exact Spaced.words_eq

end Text

namespace Rehearsal

theorem answer_of_other_line (programs : Process.Program) {host : Host Script} (mute : host.rest.processes = none)
    {line : String} {c : Command} (other : c.line ≠ line) (result : CommandResult) :
    (answer programs (follow host (.respond line result)) c).result =
      (answer programs host c).result := by
  have missed : (c.line == line) = false := beq_eq_false_iff_ne.2 other
  simp only [answer, follow, mute, List.lookup_cons, missed]
  split <;> rfl

end Rehearsal

namespace Command

open Text

def words (c : Command) : List (List Char) := (c.program :: c.args).map String.toList

def Worded (c : Command) : Prop := IsWord c.program.toList ∧ ∀ arg ∈ c.args, IsWord arg.toList

instance : DecidablePred Worded := fun c =>
  inferInstanceAs (Decidable (IsWord c.program.toList ∧ ∀ arg ∈ c.args, IsWord arg.toList))

theorem words_injective {c d : Command} (same : c.words = d.words) : c = d := by
  rcases c with ⟨program, args⟩
  rcases d with ⟨other, others⟩
  have strings : program :: args = other :: others :=
    (List.map_inj_right fun _ _ => String.toList_inj.1).1 same
  cases strings
  rfl

theorem ofLine?_eq_some_iff (line : String) (c : Command) :
    ofLine? line = some c ↔ Spaced line.toList c.words := by
  rw [← words_eq_iff]
  unfold ofLine?
  split
  next none => simp [none, words]
  next program args parts =>
    have kept : words ⟨String.ofList program, args.map String.ofList⟩ = program :: args := by
      simp [words]
    rw [parts, ← kept, Option.some.injEq]
    exact ⟨congrArg words, words_injective⟩

theorem spaced_args {args : List String} (words : ∀ arg ∈ args, IsWord arg.toList) :
    Spaced (args.flatMap fun arg => ' ' :: arg.toList) (args.map String.toList) := by
  induction args with
  | nil => exact .blanks (by simp)
  | cons arg rest ih =>
    have after := ih fun other member => words other (List.mem_cons_of_mem _ member)
    have space : isBlank ' ' = true := by decide
    refine @Spaced.word [' '] _ _ _ (by simpa using space) (words arg (by simp)) ?_ after
    cases rest <;> simp [space]

theorem spaced_line {c : Command} (worded : c.Worded) : Spaced c.line.toList c.words := by
  have space : isBlank ' ' = true := by decide
  have start : ∀ x ∈ (c.args.flatMap fun arg => ' ' :: arg.toList).head?, isBlank x = true := by
    cases c.args <;> simp [space]
  have spaced : Spaced ([] ++ c.program.toList ++ c.args.flatMap fun arg => ' ' :: arg.toList)
      c.words := .word (by simp) worded.1 start (spaced_args worded.2)
  simpa [line] using spaced

theorem ofLine?_line {c : Command} (worded : c.Worded) : ofLine? c.line = some c :=
  (ofLine?_eq_some_iff c.line c).2 (spaced_line worded)

theorem worded_of_ofLine? {line : String} {c : Command} (read : ofLine? line = some c) :
    c.Worded := by
  have isWord := ((ofLine?_eq_some_iff line c).1 read).isWord
  simpa [words, Worded] using isWord

theorem line_injective {c d : Command} (worded : c.Worded) (wordedToo : d.Worded)
    (same : c.line = d.line) : c = d := by
  have read := ofLine?_line worded
  rw [same, ofLine?_line wordedToo] at read
  exact (Option.some.inj read).symm

/-- A command made of words is read back from its line, and an answer that is set for its line is
set for no other. A line is refused exactly if it is blank, and else it is the words of its command
with blanks around them. -/
theorem lines_read_back :
    (∀ c : Command, c.Worded → ofOverride c.line = .ok c) ∧
    (∀ c d : Command, c.Worded → d.Worded → c ≠ d → c.line ≠ d.line ∧
      ∀ (programs : Process.Program) (host : Host Rehearsal.Script) (result : CommandResult),
        host.rest.processes = none →
        (Rehearsal.answer programs (Rehearsal.follow host (.respond c.line result)) d).result =
          (Rehearsal.answer programs host d).result) ∧
    ∀ line : String,
      (∀ e, ofOverride line = .error e ↔ (∀ x ∈ line.toList, isBlank x = true) ∧
        e = .command (.invalidLine "stop override is empty")) ∧
      ∀ c, ofOverride line = .ok c →
        c.Worded ∧ c.words.flatten = line.toList.filter (fun x => !isBlank x) ∧
          Spaced line.toList c.words ∧ ofOverride c.line = .ok c := by
  have back {c : Command} (worded : c.Worded) : ofOverride c.line = .ok c :=
    (ofOverride_eq_ok_iff _ c).2 (ofLine?_line worded)
  refine ⟨fun c => back, fun c d worded wordedToo apart => ?_, fun line => ⟨?_, fun c read => ?_⟩⟩
  · have lines : d.line ≠ c.line := fun same => apart (line_injective wordedToo worded same).symm
    exact ⟨lines.symm, fun programs host result mute =>
      Rehearsal.answer_of_other_line programs mute lines result⟩
  · exact ofOverride_eq_error_iff line
  · rw [ofOverride_eq_ok_iff] at read
    have spaced := (ofLine?_eq_some_iff line c).1 read
    exact ⟨worded_of_ofLine? read, spaced.flatten, spaced, back (worded_of_ofLine? read)⟩

theorem lines_read_back_kill :
    let kill : Command := ⟨"/etc/init.d/scalaris", ["kill"]⟩
    let start : Command := ⟨"/etc/init.d/scalaris", ["start"]⟩
    let programs : Process.Program := fun _ => return 0
    let host : Host Rehearsal.Script := { files := .empty, clock := 0, wall := 0, rest := {} }
    let line := "\u3000/etc/init.d/scalaris \t kill\r\n"
    kill.Worded ∧ ofOverride kill.line = .ok kill ∧
      start.Worded ∧ kill ≠ start ∧ host.rest.processes = none ∧
      (Rehearsal.answer programs
          (Rehearsal.follow host (.respond kill.line (.ofExitCode 3))) start).result =
        (Rehearsal.answer programs host start).result ∧
      ofOverride line = .ok kill ∧ Spaced line.toList kill.words := by
  intro kill start programs host line
  obtain ⟨back, apart, reads⟩ := lines_read_back
  have worded : kill.Worded := by decide
  have wordedToo : start.Worded := by decide
  have different : kill ≠ start := by decide
  have read : ofOverride line = .ok kill := (ofOverride_eq_ok_iff line kill).2 (by decide)
  exact ⟨worded, back kill worded, wordedToo, different, rfl,
    (apart kill start worded wordedToo different).2 programs host (.ofExitCode 3) rfl, read,
    ((reads line).2 kill read).2.2.1⟩

end Command

end Converge
