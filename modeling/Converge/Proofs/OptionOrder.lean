import Converge.Cli.Run

set_option autoImplicit false

namespace Converge.Cli

/-- A word that is no option: it does not start with a dash. -/
structure Word where
  text : String
  dashless : text.toList.head? ≠ some '-'

/-- The options that take a value. -/
inductive Topic where
  | config
  | platform
  deriving DecidableEq, Repr

namespace Topic

def long : Topic → String
  | .config => "--config"
  | .platform => "--platform"

def short : Topic → String
  | .config => "-c"
  | .platform => "-p"

end Topic

/-- What a command line is made of. -/
inductive Group where
  -- An option with its value in the next word.
  | separate (topic : Topic) (short : Bool) (value : Word)
  -- An option with its value in the same word; any text will do.
  | joined (topic : Topic) (value : String)
  | dryRun
  | stray (word : Word)

inductive Kind where
  | value (topic : Topic)
  | dryRun
  | stray
  deriving DecidableEq, Repr

namespace Group

def words : Group → List String
  | .separate topic short value => [if short then topic.short else topic.long, value.text]
  | .joined topic value => [topic.long ++ "=" ++ value]
  | .dryRun => ["--dry-run"]
  | .stray word => [word.text]

def kind : Group → Kind
  | .separate topic _ _ | .joined topic _ => .value topic
  | .dryRun => .dryRun
  | .stray _ => .stray

def given? : Group → Option String
  | .separate _ _ value => some value.text
  | .joined _ value => some value
  | .dryRun | .stray _ => none

end Group

-- The words of a call: the name of the program comes first.
def line (program : Word) (gs : List Group) : List String :=
  program.text :: gs.flatMap Group.words

/-- The same groups in an order that differs only between groups of different kinds. -/
def Rearranged (gs gs' : List Group) : Prop :=
  ∀ kind, gs.filter (·.kind = kind) = gs'.filter (·.kind = kind)

theorem rearranged_swap {g h : Group} (differ : g.kind ≠ h.kind) (front back : List Group) :
    Rearranged (front ++ g :: h :: back) (front ++ h :: g :: back) := by
  intro kind
  by_cases first : g.kind = kind
  · have second : h.kind ≠ kind := fun same => differ (first.trans same.symm)
    simp [first, second]
  · simp [List.filter_cons, first]

section Words

variable (topic : Topic)

/-- The words that a search for an option passes over. -/
structure Topic.PassesOver (word : String) : Prop where
  long : word ≠ topic.long
  short : word ≠ topic.short
  inline : inlineValue? topic.long word = none

theorem inlineValue?_joined (value : String) :
    inlineValue? topic.long (topic.long ++ "=" ++ value) = some value := by
  simp [inlineValue?]

theorem passesOver_word (word : Word) : topic.PassesOver word.text := by
  have starts : topic.long.toList.head? = some '-' ∧ topic.short.toList.head? = some '-' := by
    cases topic <;> decide
  refine ⟨?_, ?_, ?_⟩
  · intro same
    exact word.dashless (same ▸ starts.1)
  · intro same
    exact word.dashless (same ▸ starts.2)
  · have apart : ¬ topic.long.toList ++ ['='] <+: word.text.toList := by
      rintro ⟨rest, parts⟩
      apply word.dashless
      simp [← parts, List.head?_append, starts.1]
    simp only [inlineValue?, List.isPrefixOf_iff_prefix, apart, if_false]

theorem passesOver_dryRun : topic.PassesOver "--dry-run" := by
  cases topic <;> exact ⟨by decide, by decide, by decide⟩

variable {topic} {other : Topic}

theorem passesOver_name (differ : other ≠ topic) (short : Bool) :
    topic.PassesOver (if short then other.short else other.long) := by
  cases topic <;> cases other
  · exact absurd rfl differ
  · cases short <;> exact ⟨by decide, by decide, by decide⟩
  · cases short <;> exact ⟨by decide, by decide, by decide⟩
  · exact absurd rfl differ

theorem passesOver_joined (differ : other ≠ topic) (value : String) :
    topic.PassesOver (other.long ++ "=" ++ value) := by
  cases topic <;> cases other
  · exact absurd rfl differ
  · refine ⟨?_, ?_, ?_⟩ <;> simp [Topic.long, Topic.short, inlineValue?, ← String.toList_inj]
  · refine ⟨?_, ?_, ?_⟩ <;> simp [Topic.long, Topic.short, inlineValue?, ← String.toList_inj]
  · exact absurd rfl differ

theorem value?_of_passesOver {word : String} (passes : topic.PassesOver word)
    (rest : List String) :
    value? topic.long topic.short (word :: rest) = value? topic.long topic.short rest := by
  cases rest <;> simp [value?, passes.long, passes.short, passes.inline]

theorem value?_joined (value : String) (rest : List String) :
    value? topic.long topic.short ((topic.long ++ "=" ++ value) :: rest) = some value := by
  have apart : topic.long ++ "=" ++ value ≠ topic.long ∧
      topic.long ++ "=" ++ value ≠ topic.short := by
    cases topic <;> simp [Topic.long, Topic.short, ← String.toList_inj]
  -- A last word and one with words behind it are looked at in different branches.
  cases rest with
  | nil => simp only [value?, inlineValue?_joined]
  | cons next rest =>
    simp only [value?, apart, inlineValue?_joined]
    rfl

theorem value?_separate (short : Bool) (value : String) (rest : List String) :
    value? topic.long topic.short ((if short then topic.short else topic.long) :: value :: rest) =
      some value := by
  cases short <;> simp [value?]

theorem value?_group (g : Group) (rest : List String) :
    value? topic.long topic.short (g.words ++ rest) =
      if g.kind = .value topic then g.given? else value? topic.long topic.short rest := by
  cases g with
  | separate other short value =>
    by_cases same : other = topic
    · subst same
      simp [Group.words, value?_separate, Group.kind, Group.given?]
    · -- Neither the name of the other option nor its value is anything to this one.
      have differ : (Group.separate other short value).kind ≠ .value topic := by
        simp [Group.kind, same]
      rw [if_neg differ, Group.words, List.cons_append,
        value?_of_passesOver (passesOver_name same short), List.cons_append, List.nil_append,
        value?_of_passesOver (passesOver_word topic value)]
  | joined other value =>
    by_cases same : other = topic
    · subst same
      simp [Group.words, value?_joined, Group.kind, Group.given?]
    · have differ : (Group.joined other value).kind ≠ .value topic := by simp [Group.kind, same]
      rw [if_neg differ]
      exact value?_of_passesOver (passesOver_joined same value) rest
  | dryRun => exact value?_of_passesOver (passesOver_dryRun topic) rest
  | stray word => exact value?_of_passesOver (passesOver_word topic word) rest

theorem value?_line (topic : Topic) (program : Word) (gs : List Group) :
    value? topic.long topic.short (line program gs) =
      (gs.find? (·.kind = .value topic)).bind Group.given? := by
  rw [line, value?_of_passesOver (passesOver_word topic program)]
  induction gs with
  | nil => rfl
  | cons g rest ih =>
    rw [List.flatMap_cons, value?_group, ih]
    by_cases gives : g.kind = .value topic <;> simp [gives]

end Words

section Marks

theorem Word.ne_of_dash (word : Word) {mark : String} (dash : mark.toList.head? = some '-') :
    word.text ≠ mark := by
  rintro rfl
  exact word.dashless dash

def marks : List String := ["--help", "-h", "--version", "-V", "--dry-run"]

theorem dash_of_mark : ∀ mark ∈ marks, mark.toList.head? = some '-' ∧ '=' ∉ mark.toList := by
  decide

theorem ne_name_of_mark (topic : Topic) :
    ∀ mark ∈ marks, mark ≠ topic.long ∧ mark ≠ topic.short := by
  cases topic <;> decide

theorem mem_words_of_mark {g : Group} {mark : String} (listed : mark ∈ marks) :
    mark ∈ g.words ↔ mark = "--dry-run" ∧ g.kind = .dryRun := by
  obtain ⟨dash, bare⟩ := dash_of_mark mark listed
  cases g with
  | separate topic short value =>
    have name : mark ≠ if short then topic.short else topic.long := by
      cases short
      · exact (ne_name_of_mark topic mark listed).1
      · exact (ne_name_of_mark topic mark listed).2
    simp [Group.words, Group.kind, name, (value.ne_of_dash dash).symm]
  | joined topic value =>
    have whole : mark ≠ topic.long ++ "=" ++ value := by
      rintro rfl
      simp at bare
    simp [Group.words, Group.kind, whole]
  | dryRun => simp [Group.words, Group.kind]
  | stray word => simp [Group.words, Group.kind, (word.ne_of_dash dash).symm]

theorem mem_line_of_mark {program : Word} {gs : List Group} {mark : String}
    (listed : mark ∈ marks) :
    mark ∈ line program gs ↔ mark = "--dry-run" ∧ ∃ g ∈ gs, g.kind = .dryRun := by
  have other := program.ne_of_dash (dash_of_mark mark listed).1
  simp only [line, List.mem_cons, List.mem_flatMap, mem_words_of_mark listed, other.symm, false_or]
  constructor
  · rintro ⟨g, there, same, kind⟩
    exact ⟨same, g, there, kind⟩
  · rintro ⟨same, g, there, kind⟩
    exact ⟨g, there, same, kind⟩

theorem asksForHelp_iff (words : List String) :
    asksForHelp words = true ↔ "--help" ∈ words ∨ "-h" ∈ words := by
  simp [asksForHelp, and_or_left, exists_or]

theorem asksForVersion_iff (words : List String) :
    asksForVersion words = true ↔ "--version" ∈ words ∨ "-V" ∈ words := by
  simp [asksForVersion, and_or_left, exists_or]

theorem asks_line (program : Word) (gs : List Group) :
    asksForHelp (line program gs) = false ∧ asksForVersion (line program gs) = false := by
  have missing {mark : String} (listed : mark ∈ marks) (other : mark ≠ "--dry-run") :
      mark ∉ line program gs :=
    fun there => other ((mem_line_of_mark listed).1 there).1
  simp only [← Bool.not_eq_true, asksForHelp_iff, asksForVersion_iff, not_or]
  exact ⟨⟨missing (by decide) (by decide), missing (by decide) (by decide)⟩,
    missing (by decide) (by decide), missing (by decide) (by decide)⟩

end Marks

theorem parse_line (program : Word) (gs : List Group) :
    Options.parse (line program gs) = {
      config := (gs.find? (·.kind = .value .config)).bind Group.given?
      platform := (gs.find? (·.kind = .value .platform)).bind Group.given?
      dryRun := gs.any (·.kind = .dryRun) } := by
  have config := value?_line .config program gs
  have platform := value?_line .platform program gs
  have dryRun : (line program gs).contains "--dry-run" = gs.any (·.kind = .dryRun) := by
    rw [Bool.eq_iff_iff, List.contains_iff_mem, mem_line_of_mark (by decide), List.any_eq_true]
    simp
  rw [Options.parse, Options.mk.injEq]
  exact ⟨config, platform, dryRun⟩

theorem Rearranged.parse_eq {gs gs' : List Group} (moved : Rearranged gs gs') (program : Word) :
    Options.parse (line program gs') = Options.parse (line program gs) := by
  -- The first group of a kind is the head of the groups of that kind.
  have first (kind : Kind) : gs.find? (·.kind = kind) = gs'.find? (·.kind = kind) := by
    rw [← List.head?_filter, moved kind, List.head?_filter]
  have marked : gs.any (·.kind = .dryRun) = gs'.any (·.kind = .dryRun) := by
    rw [← List.isSome_find?, first, List.isSome_find?]
  rw [parse_line, parse_line, first, first, marked]

variable {ρ : Type}

/-- Whatever groups follow the name of the program, the first group of an option gives its value,
and another order between groups of different kinds changes nothing about the run. -/
theorem options_read_in_any_order (program : Word) (gs : List Group) :
    let words := line program gs
    asksForHelp words = false ∧ asksForVersion words = false ∧
      (Options.parse words).config = (gs.find? (·.kind = .value .config)).bind Group.given? ∧
      (Options.parse words).platform = (gs.find? (·.kind = .value .platform)).bind Group.given? ∧
      ((Options.parse words).dryRun = true ↔ ∃ g ∈ gs, g.kind = .dryRun) ∧
      ∀ gs', Rearranged gs gs' → Options.parse (line program gs') = Options.parse words ∧
        ∀ (context : Context) (runner : Nat → Runner ρ) (host : Host ρ),
          run context runner (line program gs') host = run context runner words host := by
  intro words
  obtain ⟨help, version⟩ := asks_line program gs
  refine ⟨help, version, ?_, ?_, ?_, ?_⟩
  · rw [parse_line]
  · rw [parse_line]
  · simp [words, parse_line]
  · intro gs' moved
    obtain ⟨help', version'⟩ := asks_line program gs'
    have parsed := moved.parse_eq program
    refine ⟨parsed, fun context runner host => ?_⟩
    simp only [run, help, help', version, version', parsed, words]

theorem options_read_in_any_order_swapped :
    let program : Word := ⟨"svc", by decide⟩
    let front : List Group := [.stray ⟨"config", by decide⟩, .dryRun]
    let first : Group := .separate .config true ⟨"platform", by decide⟩
    let second : Group := .joined .platform "--config=-h"
    let back : List Group := [.joined .config "--version"]
    Rearranged (front ++ first :: second :: back) (front ++ second :: first :: back) ∧
      line program (front ++ second :: first :: back) =
        ["svc", "config", "--dry-run", "--platform=--config=-h", "-c", "platform",
          "--config=--version"] ∧
      let options := Options.parse (line program (front ++ second :: first :: back))
      options.config = some "platform" ∧ options.platform = some "--config=-h" ∧
        options.dryRun = true := by
  intro program front first second back
  have moved : Rearranged (front ++ first :: second :: back) (front ++ second :: first :: back) :=
    rearranged_swap (by decide) front back
  obtain ⟨-, -, config, platform, dryRun, same⟩ :=
    options_read_in_any_order (ρ := Unit) program (front ++ first :: second :: back)
  refine ⟨moved, by decide, ?_⟩
  dsimp only
  rw [(same _ moved).1]
  exact ⟨config, platform, dryRun.2 ⟨.dryRun, by simp [front], rfl⟩⟩

end Converge.Cli
