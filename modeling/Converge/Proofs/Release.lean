import Mathlib.Data.List.Basic
import Converge.Node
import Converge.Proofs.FailureText
import Converge.Proofs.Planning

set_option autoImplicit false

namespace Converge

namespace Text

theorem linesAfter_append {l : List Char} (feedless : '\n' ∉ l) (line rest : List Char) :
    linesAfter line (l ++ rest) = linesAfter (l.reverse ++ line) rest := by
  induction l generalizing line with
  | nil => rfl
  | cons c l ih =>
    have letter : c ≠ '\n' := by
      rintro rfl
      simp at feedless
    have others : '\n' ∉ l := fun member => feedless (List.mem_cons_of_mem _ member)
    rw [List.cons_append, linesAfter, if_neg letter, ih others, List.reverse_cons,
      List.append_assoc, List.singleton_append]

theorem lines_of_feedless {l : List Char} (feedless : '\n' ∉ l) :
    lines l = if l = [] then [] else [l] := by
  have whole := linesAfter_append feedless [] []
  simpa [lines, linesAfter] using whole

theorem lines_append_feed {l : List Char} (feedless : '\n' ∉ l) (rest : List Char) :
    lines (l ++ '\n' :: rest) = withoutReturn l :: lines rest := by
  rw [lines, linesAfter_append feedless, linesAfter, if_pos rfl, closeLine_eq]
  simp [lines]

end Text

namespace Platform

open Text

-- The key, and after it something that is no quote.
def Names (line : List Char) : Prop :=
  ∃ value, trim line = "ID=".toList ++ value ∧ ∃ c ∈ value, isQuote c = false

theorem ofLine?_eq_some_iff (line id : List Char) :
    ofLine? line = some id ↔
      ∃ value, trim line = "ID=".toList ++ value ∧ stripBy isQuote value = id ∧ id ≠ [] := by
  have key : "ID=".toList = ['I', 'D', '='] := rfl
  rw [key]
  unfold ofLine?
  split
  next value parts =>
    have only (other : List Char) :
        trim line = ['I', 'D', '='] ++ other ↔ other = value := by simp [parts, eq_comm]
    simp only [only, exists_eq_left]
    cases stripBy isQuote value with
    | nil => simp +contextual [eq_comm]
    | cons c rest => simp +contextual [eq_comm]
  next other =>
    simp only [reduceCtorEq, false_iff]
    rintro ⟨value, parts, -⟩
    exact other value parts

theorem ofLine?_eq_none_iff (line : List Char) : ofLine? line = none ↔ ¬ Names line := by
  rw [← not_iff_not, not_not, ← ne_eq, Option.ne_none_iff_exists']
  simp only [ofLine?_eq_some_iff]
  constructor
  · rintro ⟨id, value, parts, rfl, filled⟩
    refine ⟨value, parts, ?_⟩
    simpa [stripBy_eq_nil_iff] using filled
  · rintro ⟨value, parts, letter⟩
    exact ⟨_, value, parts, rfl, by simpa [stripBy_eq_nil_iff] using letter⟩

theorem ofLine?_append_of_blank (line : List Char) {back : List Char}
    (blank : ∀ c ∈ back, isBlank c = true) : ofLine? (line ++ back) = ofLine? line := by
  have same : trim (line ++ back) = trim line := stripBy_append isBlank line blank
  rw [ofLine?, same, ofLine?]

theorem ofLine?_withoutReturn (line : List Char) : ofLine? (withoutReturn line) = ofLine? line := by
  unfold withoutReturn
  split
  next last =>
    have blank : ∀ c ∈ ['\r'], isBlank c = true := by simp [isBlank]
    have whole := ofLine?_append_of_blank line.dropLast blank
    rw [List.dropLast_append_getLast? _ last] at whole
    exact whole.symm
  next => rfl

-- What the first line that names a platform gives.
def named? (text : List Char) : Option (List Char) := (lines text).findSome? ofLine?

theorem named?_of_feedless {l : List Char} (feedless : '\n' ∉ l) : named? l = ofLine? l := by
  by_cases empty : l = []
  · subst empty
    rfl
  · simp [named?, lines_of_feedless feedless, empty]

theorem named?_append_feed {l : List Char} (feedless : '\n' ∉ l) (rest : List Char) :
    named? (l ++ '\n' :: rest) = (ofLine? l).or (named? rest) := by
  simp only [named?, lines_append_feed feedless, List.findSome?_cons, ofLine?_withoutReturn]
  cases ofLine? l <;> rfl

theorem named?_join {pieces : List (List Char)} (feedless : ∀ l ∈ pieces, '\n' ∉ l) :
    named? (['\n'].intercalate pieces) = pieces.findSome? ofLine? := by
  induction pieces with
  | nil => rfl
  | cons l rest ih =>
    have others := ih fun other member => feedless other (List.mem_cons_of_mem _ member)
    cases rest with
    | nil => simp [named?_of_feedless (feedless l (by simp))]
    | cons next rest =>
      rw [List.intercalate_cons_cons, List.append_assoc, List.singleton_append,
        named?_append_feed (feedless l (by simp)), others]
      cases given : ofLine? l <;> simp [given]

/-- What may stand as an identifier. Inside it everything but a line feed is allowed. -/
structure IsIdentifier (id : List Char) : Prop where
  filled : id ≠ []
  feedless : '\n' ∉ id
  unblank : Bare isBlank id
  unquoted : Bare isQuote id

inductive Quoting where
  | bare
  | double
  | single

def Quoting.mark : Quoting → List Char
  | .bare => []
  | .double => ['"']
  | .single => ['\'']

inductive Ending where
  | feed
  | returnFeed

def Ending.text : Ending → List Char
  | .feed => ['\n']
  | .returnFeed => ['\r', '\n']

/-- A legal way to set out a release file: lines that name nothing, the one that names the platform,
and any others. -/
structure Layout where
  ending : Ending
  before : List (List Char)
  indent : List Char
  quoting : Quoting
  trailing : List Char
  after : List (List Char)
  unnamed : ∀ l ∈ before, '\n' ∉ l ∧ ¬ Names l
  indentBlank : ∀ c ∈ indent, isBlank c = true ∧ c ≠ '\n'
  trailingBlank : ∀ c ∈ trailing, isBlank c = true ∧ c ≠ '\n'

def Layout.line (layout : Layout) (id : List Char) : List Char :=
  layout.indent ++ ("ID=".toList ++ layout.quoting.mark ++ id ++ layout.quoting.mark) ++
    layout.trailing

def Layout.text (layout : Layout) (id : List Char) : List Char :=
  (layout.before.flatMap fun l => l ++ layout.ending.text) ++ layout.line id ++
    layout.after.flatMap fun l => layout.ending.text ++ l

theorem named?_append_ending {l : List Char} (feedless : '\n' ∉ l) (ending : Ending)
    (rest : List Char) :
    named? (l ++ ending.text ++ rest) = (ofLine? l).or (named? rest) := by
  cases ending with
  | feed => simpa [Ending.text] using named?_append_feed feedless rest
  | returnFeed =>
    -- The return belongs to the line, where it is a blank like any other.
    have blank : ∀ c ∈ ['\r'], isBlank c = true := by simp [isBlank]
    have longer : '\n' ∉ l ++ ['\r'] := by simp [feedless]
    have whole := named?_append_feed longer rest
    rw [ofLine?_append_of_blank l blank] at whole
    simpa [Ending.text] using whole

theorem named?_append_unnamed (ending : Ending) {before : List (List Char)}
    (unnamed : ∀ l ∈ before, '\n' ∉ l ∧ ¬ Names l) (rest : List Char) :
    named? ((before.flatMap fun l => l ++ ending.text) ++ rest) = named? rest := by
  induction before with
  | nil => rfl
  | cons l before ih =>
    have ⟨feedless, silent⟩ := unnamed l (by simp)
    have none := (ofLine?_eq_none_iff l).2 silent
    rw [List.flatMap_cons, List.append_assoc, named?_append_ending feedless ending, none,
      Option.none_or]
    exact ih fun other member => unnamed other (List.mem_cons_of_mem _ member)

section

variable {id : List Char} (isId : IsIdentifier id) (quoting : Quoting)

include isId

theorem stripBy_quoted : stripBy isQuote (quoting.mark ++ id ++ quoting.mark) = id := by
  have quotes : ∀ c ∈ quoting.mark, isQuote c = true := by
    cases quoting <;> simp [Quoting.mark, isQuote]
  exact stripBy_eq quotes quotes isId.unquoted

theorem bare_assignment : Bare isBlank ("ID=".toList ++ quoting.mark ++ id ++ quoting.mark) := by
  constructor
  · intro c first
    obtain rfl : 'I' = c := by simpa using first
    decide
  · intro c last
    cases quoting with
    | bare =>
      obtain ⟨x, ends⟩ := Option.ne_none_iff_exists'.1 (mt List.getLast?_eq_none_iff.1 isId.filled)
      obtain rfl : x = c := by simpa [Quoting.mark, List.getLast?_cons, ends] using last
      exact isId.unblank.last x ends
    | double | single =>
      simp only [Quoting.mark, List.getLast?_append, List.getLast?_singleton, Option.some_or,
        Option.mem_some_iff] at last
      subst last
      decide

theorem ofLine?_line (layout : Layout) : ofLine? (layout.line id) = some id := by
  rw [ofLine?_eq_some_iff]
  refine ⟨layout.quoting.mark ++ id ++ layout.quoting.mark, ?_, stripBy_quoted isId _, isId.filled⟩
  have stripped := stripBy_eq (fun c member => (layout.indentBlank c member).1)
    (fun c member => (layout.trailingBlank c member).1) (bare_assignment isId layout.quoting)
  simpa [trim, Layout.line] using stripped

theorem line_feedless (layout : Layout) : '\n' ∉ layout.line id := by
  have key : '\n' ∉ "ID=".toList := by decide
  have marks : '\n' ∉ layout.quoting.mark := by cases layout.quoting <;> decide
  simp only [Layout.line, List.mem_append, not_or]
  exact ⟨⟨fun member => (layout.indentBlank _ member).2 rfl, ⟨⟨key, marks⟩, isId.feedless⟩, marks⟩,
    fun member => (layout.trailingBlank _ member).2 rfl⟩

theorem named?_text (layout : Layout) : named? (layout.text id) = some id := by
  have line := ofLine?_line isId layout
  have feedless := line_feedless isId layout
  rw [Layout.text, List.append_assoc, named?_append_unnamed layout.ending layout.unnamed]
  cases layout.after with
  | nil => simpa [named?_of_feedless feedless] using line
  | cons l after =>
    rw [List.flatMap_cons, List.append_assoc, ← List.append_assoc,
      named?_append_ending feedless layout.ending, line, Option.some_or]

end

theorem detect_of_text {files : FileSystem} {path : OsString} {content : String}
    (readable : files.readText path = .ok content) :
    detect files path = ((named? content.toList).map String.ofList).getD unknown := by
  simp only [detect, detect?, readable]
  rfl

theorem detect_of_unreadable {files : FileSystem} {path : OsString} {e : OsError}
    (unreadable : files.readText path = .error e) : detect files path = unknown := by
  simp only [detect, detect?, unreadable]
  rfl

theorem named?_spec {text id : List Char} (named : named? text = some id) :
    id ≠ [] ∧ '\n' ∉ id ∧ Bare isQuote id := by
  obtain ⟨line, member, given⟩ := List.exists_of_findSome?_eq_some named
  obtain ⟨value, parts, rfl, filled⟩ := (ofLine?_eq_some_iff line id).1 given
  refine ⟨filled, fun feed => ?_, stripBy_bare isQuote value⟩
  have inValue := mem_of_mem_stripBy feed
  have inLine : '\n' ∈ trim line := by simp [parts, inValue]
  exact linesAfter_feedless (by simp) text line member (mem_of_mem_stripBy inLine)

/-- A release file in a legal layout gives the identifier that is set in it. Any file gives
something, which is a word of its own without quotes if some line names a platform; and a line with
another key may come or go anywhere. -/
theorem detect_reads_release (files : FileSystem) (path : OsString) :
    (∀ e, files.readText path = .error e → detect files path = "unknown") ∧
    ∀ content, files.readText path = .ok content →
      (∀ id, IsIdentifier id → ∀ layout : Layout, content = String.ofList (layout.text id) →
        detect files path = String.ofList id) ∧
      ((∀ line ∈ lines content.toList, ¬ Names line) → detect files path = "unknown") ∧
      (∀ line ∈ lines content.toList, Names line →
        detect files path ≠ "" ∧ '\n' ∉ (detect files path).toList ∧
          Bare isQuote (detect files path).toList) ∧
      ∀ before line after, (∀ l ∈ before ++ line :: after, '\n' ∉ l) →
        ¬ "ID=".toList <+: trim line →
        content = String.ofList (['\n'].intercalate (before ++ line :: after)) →
        ∀ (others : FileSystem) (elsewhere : OsString), others.readText elsewhere =
            .ok (String.ofList (['\n'].intercalate (before ++ after))) →
          detect others elsewhere = detect files path := by
  refine ⟨fun e => detect_of_unreadable, fun content readable => ⟨?_, ?_, ?_, ?_⟩⟩
  · rintro id isId layout rfl
    simp [detect_of_text readable, named?_text isId layout]
  · intro unnamed
    have none : named? content.toList = none := List.findSome?_eq_none_iff.2 fun line member =>
      (ofLine?_eq_none_iff line).2 (unnamed line member)
    simp [detect_of_text readable, none, unknown]
  · intro line member names
    cases found : named? content.toList with
    | none =>
      have missed := List.findSome?_eq_none_iff.1 found line member
      exact absurd names ((ofLine?_eq_none_iff line).1 missed)
    | some id =>
      obtain ⟨filled, feedless, bare⟩ := named?_spec found
      simp [detect_of_text readable, found, filled, feedless, bare]
  · rintro before line after feedless other rfl others elsewhere readableToo
    have unnamed : ofLine? line = none := (ofLine?_eq_none_iff line).2 fun ⟨value, parts, _⟩ =>
      other (parts ▸ List.prefix_append _ value)
    have fewer : ∀ l ∈ before ++ after, '\n' ∉ l := by
      intro l member
      rcases List.mem_append.1 member with early | late
      · exact feedless l (by simp [early])
      · exact feedless l (by simp [late])
    rw [detect_of_text readable, detect_of_text readableToo, String.toList_ofList,
      String.toList_ofList, named?_join fewer, named?_join feedless]
    simp [List.findSome?_append, unnamed]

section Sample

def sampleRelease : String :=
  "NAME='Debian'\r\nID=\"\"\r\n\t ID='my \"own\" os' \r\nID_LIKE=ubuntu\r\n"

def sampleFiles : FileSystem where
  nodes := [
    (["etc"], .directory true),
    (["etc", "os-release"], .file (toOctets sampleRelease) false)]

def sampleLayout : Layout where
  ending := .returnFeed
  before := ["NAME='Debian'".toList, "ID=\"\"".toList]
  indent := "\t ".toList
  quoting := .single
  trailing := " ".toList
  after := ["ID_LIKE=ubuntu".toList, []]
  unnamed := by
    have silent : ∀ l ∈ ["NAME='Debian'".toList, "ID=\"\"".toList],
        '\n' ∉ l ∧ ofLine? l = none := by decide
    simpa only [ofLine?_eq_none_iff] using silent
  indentBlank := by simp [isBlank]
  trailingBlank := by simp [isBlank]

theorem readText_sample : sampleFiles.readText "/etc/os-release" = .ok sampleRelease := by
  have walks := FileSystem.target_absolute sampleFiles "/etc/os-release" ["etc", "os-release"]
    (by decide)
  have found : sampleFiles.lookUp "/etc/os-release" =
      .ok (["etc", "os-release"], .file (toOctets sampleRelease) false) := by
    simp only [FileSystem.lookUp, walks]
    simp [FileSystem.walk, sampleFiles, FileSystem.find?, List.lookup_cons, FileSystem.nameLimit,
      Utf8.size, Char.utf8Size]
  simp [FileSystem.readText, FileSystem.readOctets, found]

theorem detect_reads_release_quoted :
    let id := "my \"own\" os".toList
    sampleFiles.readText "/etc/os-release" = .ok sampleRelease ∧ IsIdentifier id ∧
      sampleRelease = String.ofList (sampleLayout.text id) ∧
      detect sampleFiles "/etc/os-release" = "my \"own\" os" := by
  intro id
  have unblank : Bare isBlank id := ⟨by simp [id, isBlank], by simp [id, isBlank]⟩
  have unquoted : Bare isQuote id := ⟨by simp [id, isQuote], by simp [id, isQuote]⟩
  have isId : IsIdentifier id := ⟨by decide, by decide, unblank, unquoted⟩
  have written : sampleRelease = String.ofList (sampleLayout.text id) := by decide
  have reads := (detect_reads_release sampleFiles "/etc/os-release").2 _ readText_sample
  exact ⟨readText_sample, isId, written, by simpa [id] using reads.1 id isId sampleLayout written⟩

end Sample

end Platform

end Converge
