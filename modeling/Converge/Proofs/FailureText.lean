import Converge.Proofs.Excerpt
import Converge.Proofs.Stripping
import Converge.Proofs.Work
import Converge.Provider.Control

set_option autoImplicit false

namespace Converge

namespace Text

-- A line without the carriage return of its ending.
def withoutReturn (line : List Char) : List Char :=
  if line.getLast? = some '\r' then line.dropLast else line

def breaks (t : List Char) : List (List Char) :=
  if t = [] then [] else (t.splitOn '\n').map withoutReturn

theorem closeLine_eq (line : List Char) : closeLine line = withoutReturn line.reverse := by
  unfold closeLine withoutReturn
  split
  next rest => simp
  next other =>
    have kept : line.reverse.getLast? ≠ some '\r' := by
      rw [List.getLast?_reverse]
      intro last
      obtain ⟨rest, parts⟩ := List.head?_eq_some_iff.1 last
      exact other rest parts
    rw [if_neg kept]

theorem linesAfter_eq {line s : List Char} (pending : '\n' ∉ line) {c : Char}
    (last : s.getLast? = some c) (letter : isBlank c = false) :
    linesAfter line s = ((line.reverse ++ s).splitOn '\n').map withoutReturn := by
  induction s generalizing line with
  | nil => simp at last
  | cons x rest ih =>
    cases rest with
    | nil =>
      -- The last line has no ending, and no carriage return to lose.
      obtain rfl : x = c := by simpa using last
      have feed : x ≠ '\n' := by rintro rfl; simp [isBlank] at letter
      have carriage : x ≠ '\r' := by rintro rfl; simp [isBlank] at letter
      have whole : '\n' ∉ line.reverse ++ [x] := by simp [pending, feed.symm]
      rw [List.splitOn_eq_singleton whole]
      simp [linesAfter, feed, withoutReturn, carriage]
    | cons y rest =>
      have after : (y :: rest).getLast? = some c := by simpa using last
      by_cases feed : x = '\n'
      next =>
        subst feed
        have cut : '\n' ∉ line.reverse := by simpa using pending
        rw [linesAfter, if_pos rfl, List.splitOn_append_cons_self_of_not_mem cut, List.map_cons,
          ← closeLine_eq, ih (by simp) after, List.reverse_nil, List.nil_append]
      next =>
        have longer : '\n' ∉ x :: line := by simp [pending, Ne.symm feed]
        rw [linesAfter, if_neg feed, ih longer after, List.reverse_cons, List.append_assoc,
          List.singleton_append]

theorem lines_eq_breaks {t : List Char} (ends : ∀ c ∈ t.getLast?, isBlank c = false) :
    lines t = breaks t := by
  cases last : t.getLast? with
  | none =>
    obtain rfl : t = [] := by simpa using last
    simp [lines, linesAfter, breaks]
  | some c =>
    have filled : t ≠ [] := by rintro rfl; simp at last
    rw [lines, linesAfter_eq (by simp) last (ends c last), breaks, if_neg filled]
    simp

theorem length_linesAfter_le (line s : List Char) :
    (linesAfter line s).length ≤ s.count '\n' + 1 := by
  induction s generalizing line with
  | nil =>
    unfold linesAfter
    split <;> simp
  | cons c rest ih =>
    by_cases feed : c = '\n'
    next => simpa [linesAfter, feed] using ih []
    next => simpa [linesAfter, feed] using ih (c :: line)

theorem trim_ends (s : List Char) :
    (∀ c ∈ (trim s).head?, isBlank c = false) ∧ ∀ c ∈ (trim s).getLast?, isBlank c = false :=
  ⟨(stripBy_bare isBlank s).first, (stripBy_bare isBlank s).last⟩

theorem linesAfter_feedless {line : List Char} (pending : '\n' ∉ line) (s : List Char) :
    ∀ l ∈ linesAfter line s, '\n' ∉ l := by
  induction s generalizing line with
  | nil =>
    unfold linesAfter
    split <;> simp [pending]
  | cons c rest ih =>
    by_cases feed : c = '\n'
    next =>
      have closed : '\n' ∉ closeLine line := by
        unfold closeLine
        split <;> simp_all
      rw [linesAfter, if_pos feed]
      intro l member
      rcases List.mem_cons.1 member with rfl | member
      · exact closed
      · exact ih (by simp) l member
    next =>
      rw [linesAfter, if_neg feed]
      exact ih (by simp [pending, Ne.symm feed])

-- A text that starts with a letter has a first line with something in it.
theorem breaks_of_letter {c : Char} (letter : isBlank c = false) (rest : List Char) :
    ∃ first others, breaks (c :: rest) = first :: others ∧ first ≠ [] := by
  have feed : c ≠ '\n' := by rintro rfl; simp [isBlank] at letter
  have carriage : c ≠ '\r' := by rintro rfl; simp [isBlank] at letter
  cases cut : rest.splitOn '\n' with
  | nil => exact absurd cut (List.splitOn_ne_nil _ _)
  | cons head tail =>
    refine ⟨withoutReturn (c :: head), tail.map withoutReturn, ?_, ?_⟩
    · simp [breaks, List.splitOn_cons_eq_if_modifyHead, feed, cut]
    · unfold withoutReturn
      split
      next last =>
        cases head with
        | nil => simp [carriage] at last
        | cons d head => simp
      next => simp

theorem count_intercalate_le {ls : List (List Char)} (feedless : ∀ l ∈ ls, '\n' ∉ l) :
    (['\n'].intercalate ls).count '\n' ≤ ls.length - 1 := by
  induction ls with
  | nil => simp
  | cons line rest ih =>
    have none : line.count '\n' = 0 := List.count_eq_zero.2 (feedless line (by simp))
    cases rest with
    | nil => simp [none]
    | cons next rest =>
      have fewer := ih fun l member => feedless l (List.mem_cons_of_mem _ member)
      simp only [List.intercalate_cons_cons, List.count_append, none, List.count_singleton_self,
        List.length_cons] at fewer ⊢
      omega

namespace Excerpt

theorem shorten_feedless {line : List Char} (feedless : '\n' ∉ line) : '\n' ∉ shorten line := by
  unfold shorten
  split
  next =>
    have mark : '\n' ∉ cutMark := by decide
    simp only [List.mem_append, not_or]
    exact ⟨fun member => feedless (List.mem_of_mem_take member), mark⟩
  next => exact feedless

theorem shorten_ne_nil {line : List Char} (filled : line ≠ []) : shorten line ≠ [] := by
  have mark : cutMark ≠ [] := by decide
  unfold shorten
  split <;> simp [filled, mark]

end Excerpt

end Text

section

open Text Excerpt Utf8

theorem failureText_eq (stderr : String) :
    let ls := (breaks (trim stderr.toList)).map shorten
    ∃ k, IsGreatest {k | k ≤ min ls.length 10 ∧ ∀ i line, i < k → ls[i]? = some line →
        size (['\n'].intercalate (ls.take i)) + size line ≤ 1000} k ∧
      (failureText stderr).toList = ['\n'].intercalate (ls.take k) ++
        (if k < min ls.length 10 then "...[truncated]".toList else []) ++
        (if 10 < ls.length then "\n...[additional output truncated]".toList else []) := by
  intro ls
  have plain (i : Nat) : joined (ls.take i) = ['\n'].intercalate (ls.take i) := by
    cases text : trim stderr.toList with
    | nil => simp [ls, text, breaks, joined]
    | cons c rest =>
      have letter := (trim_ends stderr.toList).1 c (by simp [text])
      obtain ⟨first, others, cut, filled⟩ := breaks_of_letter letter rest
      have start : ls = shorten first :: others.map shorten := by simp [ls, text, cut]
      rw [start]
      exact joined_take (shorten_ne_nil filled) _ i
  have given : ((breaks (trim stderr.toList)).take quotedLines).map shorten = ls.take 10 := by
    simp [ls, quotedLines, List.map_take]
  -- Up to the tenth line it is the same to look at all lines and at the first ten.
  have same (k : Nat) : k ≤ (ls.take 10).length ∧ Fit (ls.take 10) k ↔
      k ≤ min ls.length 10 ∧ ∀ i line, i < k → ls[i]? = some line →
        size (['\n'].intercalate (ls.take i)) + size line ≤ 1000 := by
    rw [List.length_take, Nat.min_comm]
    refine and_congr_right fun bound => forall₃_congr fun i line inside => ?_
    have early : i < 10 := by omega
    rw [List.getElem?_take_of_lt early, List.take_take, Nat.min_eq_left (Nat.le_of_lt early), plain]
    rfl
  obtain ⟨k, greatest, parts⟩ := ofLines_eq quotedLines (breaks (trim stderr.toList))
  simp only [given, same] at greatest
  have bound : k ≤ 10 := Nat.le_trans greatest.1.1 (Nat.min_le_right _ _)
  refine ⟨k, greatest, ?_⟩
  rw [failureText, String.toList_ofList, excerpt, lines_eq_breaks (trim_ends _).2, parts, given,
    List.take_take, Nat.min_eq_left bound, plain, List.length_take, Nat.min_comm]
  simp only [ls, List.length_map]
  rfl

end

namespace Provider

open Text Excerpt Utf8

variable {ρ : Type}

theorem runChecked_fails (p : Provider ρ) (service : String) (action : Action) {c : Command}
    {before : Progress ρ} {r : CommandResult} (ran : (p.runner before.host c).result = .ok r)
    (failed : r.success = false) :
    ((p.runChecked service action c).run before).1 =
      .error (.actionFailed service action r.exitCode (failureText r.stderr)) := by
  have issued := Work.ends_issue p.runner c before.host
  rw [ran] at issued
  have ends : Work.Ends (p.runChecked service action c) before.host
      (.error (.actionFailed service action r.exitCode (failureText r.stderr)))
      (p.runner before.host c).host [c] [] := by
    apply (Work.ends_say _ _ _ _ _).after
    apply issued.before
    simp only [failed]
    apply (Work.ends_say _ _ _ _ _).after
    exact Work.ends_throw _ _
  obtain ⟨said, run⟩ := ends before rfl
  rw [run]

/-- An unsuccessful command ends the action with an error that quotes the first lines of its error
output: as many, up to ten, as find room, each cut to 200 characters and otherwise as it was. -/
theorem failure_quotes_first_lines (p : Provider ρ) (service : String) (action : Action)
    {c : Command} {before : Progress ρ} {r : CommandResult}
    (ran : (p.runner before.host c).result = .ok r) (failed : r.success = false) :
    let ls := (breaks (trim r.stderr.toList)).map fun line =>
      if 200 < line.length then line.take 200 ++ "...".toList else line
    ∃ k text, ((p.runChecked service action c).run before).1 =
        .error (.actionFailed service action r.exitCode text) ∧
      IsGreatest {k | k ≤ min ls.length 10 ∧ ∀ i line, i < k → ls[i]? = some line →
        size (['\n'].intercalate (ls.take i)) + size line ≤ 1000} k ∧
      text.toList = ['\n'].intercalate (ls.take k) ++
        (if k < min ls.length 10 then "...[truncated]".toList else []) ++
        (if 10 < ls.length then "\n...[additional output truncated]".toList else []) ∧
      (∀ line ∈ ls, '\n' ∉ line) ∧ (ls ≠ [] → 1 ≤ k) ∧ (lines text.toList).length ≤ 11 := by
  intro ls
  obtain ⟨k, greatest, parts⟩ := failureText_eq r.stderr
  have feedless : ∀ line ∈ ls, '\n' ∉ line := by
    intro line member
    obtain ⟨whole, inside, rfl⟩ := List.mem_map.1 member
    rw [← lines_eq_breaks (trim_ends _).2] at inside
    exact shorten_feedless (linesAfter_feedless (by simp) _ whole inside)
  refine ⟨k, failureText r.stderr, p.runChecked_fails service action ran failed, greatest, parts,
    feedless, ?_, ?_⟩
  · intro filled
    obtain ⟨first, others, start⟩ := List.exists_cons_of_ne_nil filled
    refine greatest.2 ⟨?_, fun i line inside there => ?_⟩
    · have length : ((breaks (trim r.stderr.toList)).map shorten).length = others.length + 1 := by
        rw [← List.length_cons, ← start]
        rfl
      omega
    · -- One line alone always finds room.
      obtain rfl : i = 0 := by omega
      obtain ⟨whole, -, rfl⟩ := List.mem_map.1 (List.mem_of_getElem? there)
      have room := size_shorten_le whole
      simpa [size, maxSize] using room
  · have bound : k ≤ 10 := Nat.le_trans greatest.1.1 (Nat.min_le_right _ _)
    have short : ∀ line ∈ ls.take k, '\n' ∉ line := fun line member =>
      feedless line (List.mem_of_mem_take member)
    have kept := count_intercalate_le short
    have told := length_linesAfter_le [] (failureText r.stderr).toList
    -- Of the marks only the last one holds a line feed.
    have few : (failureText r.stderr).toList.count '\n' ≤ (ls.take k).length - 1 + 1 := by
      change _ = ['\n'].intercalate (ls.take k) ++ (if k < min ls.length 10 then _ else []) ++
        (if 10 < ls.length then _ else []) at parts
      rw [parts, List.count_append, List.count_append]
      have first : (if k < min ls.length 10 then "...[truncated]".toList
          else []).count '\n' = 0 := by
        split <;> simp
      have second : (if 10 < ls.length then "\n...[additional output truncated]".toList
          else []).count '\n' ≤ 1 := by
        split <;> simp
      omega
    have taken := List.length_take_le k ls
    rw [lines]
    omega

/-- A command that fails with blank lines before, between and after what it says. -/
def grumbling : Runner Unit := fun h _ =>
  ⟨.ok ⟨false, some 3, "", "\n no ring\r\n\r\n\tgiving up \n\n"⟩, h, []⟩

theorem failure_quotes_first_lines_grumbling :
    let p : Provider Unit := ⟨.debianInit, {}, grumbling⟩
    let before : Progress Unit := { host := { files := .empty, clock := 0, wall := 0, rest := () } }
    let c := p.script "scalaris" "start"
    let said := "\n no ring\r\n\r\n\tgiving up \n\n"
    (p.runner before.host c).result = .ok ⟨false, some 3, "", said⟩ ∧
      (breaks (trim said.toList)).map String.ofList = ["no ring", "", "\tgiving up"] ∧
      ((p.runChecked "scalaris" .start c).run before).1 =
        .error (.actionFailed "scalaris" .start (some 3) "no ring\n\n\tgiving up") := by
  intro p before c said
  have ran : (p.runner before.host c).result = .ok ⟨false, some 3, "", said⟩ := rfl
  have cut : breaks (trim said.toList) = ["no ring".toList, [], "\tgiving up".toList] := by decide
  refine ⟨ran, by rw [cut]; decide, ?_⟩
  obtain ⟨k, text, ended, ⟨⟨within, -⟩, most⟩, told, -⟩ :=
    p.failure_quotes_first_lines "scalaris" .start ran rfl
  simp only [cut] at within most told
  have all : k = 3 := by
    refine Nat.le_antisymm (by simpa using within) (most ⟨by simp, fun i line inside there => ?_⟩)
    have which : i = 0 ∨ i = 1 ∨ i = 2 := by omega
    rcases which with rfl | rfl | rfl <;> (cases there; decide)
  have whole : text = "no ring\n\n\tgiving up" := by
    rw [← String.toList_inj, told, all]
    decide
  rw [ended, whole]

end Provider

end Converge
