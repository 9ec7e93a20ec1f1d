import Mathlib
import Converge.Proofs.LetterCase
import Converge.Proofs.OsString
import Converge.Settings.Load

set_option autoImplicit false

namespace Converge

namespace Toml

def member? (name : String) : Toml → Option Toml
  | .table entries => entries.lookup name
  | _ => none

/-- The keys in a table of a document; without the table there are none. -/
def keysIn (name : String) (doc : Toml) : List (String × Toml) :=
  match doc.member? name with
  | some (.table keys) => keys
  | _ => []

theorem table_of_parse {text : String} {doc : Toml} (read : parse? text = some doc) :
    ∃ entries, doc = .table entries := by
  simp only [parse?, bind, Option.bind] at read
  split at read
  · cases read
  · split at read
    · cases read
    · cases read
      exact ⟨_, rfl⟩

end Toml

namespace Settings

inductive Key where
  | platform | startFirst | attributesFile
  | initDir | rcRoot | osRelease
  | timeout
  | level | format
  | reported | reportPath
  deriving DecidableEq, Repr

-- What settings hold for a key.
inductive Value where
  | text (s : String)
  | path (p : OsString)
  | flag (b : Bool)
  | number (n : Nat)
  deriving DecidableEq, Repr

namespace Key

def paths : List Key := [.attributesFile, .initDir, .rcRoot, .osRelease, .reportPath]

def table : Key → String
  | .platform | .startFirst | .attributesFile => "node"
  | .initDir | .rcRoot | .osRelease => "paths"
  | .timeout => "limits"
  | .level | .format => "logging"
  | .reported | .reportPath => "report"

def name : Key → String
  | .platform => "platform"
  | .startFirst => "scalaris_start_first"
  | .attributesFile => "attributes_file"
  | .initDir => "init_dir"
  | .rcRoot => "rc_root"
  | .osRelease => "os_release"
  | .timeout => "action_timeout_seconds"
  | .level => "level"
  | .format => "format"
  | .reported => "enabled"
  | .reportPath => "path"

-- The values that are of the type of a key.
def Takes (key : Key) (v : Toml) : Prop :=
  match key with
  | .startFirst | .reported => ∃ b, v = .boolean b
  | .timeout => ∃ n : Nat, v = .integer n
  | _ => ∃ s, v = .text s

-- What a document says for a key, if it says anything.
def given? (key : Key) (doc : Toml) : Option Toml := (doc.keysIn key.table).lookup key.name

/-- What a word of a document stands for. Where a path is meant, any text is one. -/
def meant? (key : Key) : Toml → Option Value
  | .text s => some (if key ∈ paths then .path s else .text s)
  | .boolean b => some (.flag b)
  | .integer (.ofNat n) => some (.number n)
  | _ => none

def of (s : Settings) : Key → Option Value
  | .platform => s.node.platform.map .text
  | .startFirst => s.node.startFirst.map .flag
  | .attributesFile => s.node.attributesFile.map .path
  | .initDir => some (.path s.paths.initDir)
  | .rcRoot => some (.path s.paths.rcRoot)
  | .osRelease => some (.path s.paths.osRelease)
  | .timeout => some (.number s.limits.timeoutSeconds)
  | .level => some (.text s.logging.level)
  | .format => some (.text s.logging.format)
  | .reported => some (.flag s.report.enabled)
  | .reportPath => some (.path s.report.path)

-- What a document gives for a key, or else its default.
def settled (key : Key) (doc : Toml) : Option Value :=
  ((key.given? doc).bind key.meant?).or (key.of {})

end Key

theorem ext_keys {s t : Settings} (alike : ∀ key : Key, key.of s = key.of t) : s = t := by
  have texts : Function.Injective Value.text := fun _ _ => Value.text.inj
  have paths : Function.Injective Value.path := fun _ _ => Value.path.inj
  have flags : Function.Injective Value.flag := fun _ _ => Value.flag.inj
  obtain ⟨⟨_, _, _⟩, ⟨_, _, _⟩, ⟨_⟩, ⟨_, _⟩, ⟨_, _⟩⟩ := s
  obtain ⟨⟨_, _, _⟩, ⟨_, _, _⟩, ⟨_⟩, ⟨_, _⟩, ⟨_, _⟩⟩ := t
  obtain rfl := Option.map_injective texts (alike .platform)
  obtain rfl := Option.map_injective flags (alike .startFirst)
  obtain rfl := Option.map_injective paths (alike .attributesFile)
  obtain rfl := paths (Option.some.inj (alike .initDir))
  obtain rfl := paths (Option.some.inj (alike .rcRoot))
  obtain rfl := paths (Option.some.inj (alike .osRelease))
  obtain rfl := Value.number.inj (Option.some.inj (alike .timeout))
  obtain rfl := texts (Option.some.inj (alike .level))
  obtain rfl := texts (Option.some.inj (alike .format))
  obtain rfl := flags (Option.some.inj (alike .reported))
  obtain rfl := paths (Option.some.inj (alike .reportPath))
  rfl

/-- The tables of a document that are known are tables, and the keys in them have their types. -/
structure Suits (doc : Toml) : Prop where
  tables : ∀ key : Key, ∀ v ∈ doc.member? key.table, ∃ keys, v = .table keys
  values : ∀ key : Key, ∀ v ∈ key.given? doc, key.Takes v

section Decoding

variable {α β : Type} (decode : Toml → Option α) {encode : β → Toml} {read : β → α}
  (value : α → Value) (key : Key) {v : Option Toml}

theorem given_encoded (inverse : ∀ b, decode (encode b) = some (read b))
    (meant : ∀ b, key.meant? (encode b) = some (value (read b))) (fallback : α)
    (typed : ∀ w ∈ v, ∃ b, w = encode b) :
    ∃ a, given decode fallback v = some a ∧
      some (value a) = (v.bind key.meant?).or (some (value fallback)) := by
  cases v with
  | none => exact ⟨fallback, rfl, rfl⟩
  | some w =>
    obtain ⟨b, rfl⟩ := typed w rfl
    exact ⟨read b, inverse b, by simp [meant]⟩

theorem optional_encoded (inverse : ∀ b, decode (encode b) = some (read b))
    (meant : ∀ b, key.meant? (encode b) = some (value (read b)))
    (typed : ∀ w ∈ v, ∃ b, w = encode b) :
    ∃ a, optional decode v = some a ∧ a.map value = (v.bind key.meant?).or none := by
  cases v with
  | none => exact ⟨none, rfl, rfl⟩
  | some w =>
    obtain ⟨b, rfl⟩ := typed w rfl
    exact ⟨some (read b), by simp [optional, given, inverse], by simp [meant]⟩

theorem given_table {fallback : α} (empty : decode (.table []) = some fallback)
    {name : String} (place : Nat) {entries : List (String × Toml)}
    (table : ∀ w ∈ (Toml.table entries).member? name, ∃ keys, w = .table keys) :
    given decode fallback ((Toml.table entries).field? name place) =
      decode (.table ((Toml.table entries).keysIn name)) := by
  simp only [Toml.keysIn, Toml.member?, Toml.field?] at table ⊢
  -- Without the table the default has to be what an empty one is decoded to.
  cases found : entries.lookup name with
  | none => exact empty.symm
  | some w =>
    obtain ⟨keys, rfl⟩ := table w found
    rfl

end Decoding

section Tables

variable {entries : List (String × Toml)} (suits : Suits (.table entries))

include suits

theorem node_of_suits :
    ∃ node, given nodeOf? {} ((Toml.table entries).field? "node" 0) = some node ∧
      node.platform.map .text = Key.platform.settled (.table entries) ∧
      node.startFirst.map .flag = Key.startFirst.settled (.table entries) ∧
      node.attributesFile.map .path = Key.attributesFile.settled (.table entries) := by
  have read := given_table nodeOf? rfl 0 (suits.tables .platform)
  obtain ⟨platform, first, kept⟩ := optional_encoded Toml.text? Value.text .platform
    (fun _ => rfl) (fun _ => rfl) (suits.values .platform)
  obtain ⟨startFirst, second, keptToo⟩ := optional_encoded Toml.boolean? Value.flag .startFirst
    (fun _ => rfl) (fun _ => rfl) (suits.values .startFirst)
  obtain ⟨attributesFile, third, keptAsWell⟩ := optional_encoded Toml.path? Value.path .attributesFile
    (fun _ => rfl) (fun _ => rfl) (suits.values .attributesFile)
  refine ⟨⟨platform, startFirst, attributesFile⟩, read.trans ?_, kept, keptToo, keptAsWell⟩
  simp only [Key.given?, Key.table, Key.name] at first second third
  simp [nodeOf?, Toml.field?, Toml.isRecord, Key.table, first, second, third]

theorem paths_of_suits :
    ∃ paths, given pathsOf? {} ((Toml.table entries).field? "paths" 1) = some paths ∧
      some (.path paths.initDir) = Key.initDir.settled (.table entries) ∧
      some (.path paths.rcRoot) = Key.rcRoot.settled (.table entries) ∧
      some (.path paths.osRelease) = Key.osRelease.settled (.table entries) := by
  have read := given_table pathsOf? rfl 1 (suits.tables .initDir)
  obtain ⟨initDir, first, kept⟩ := given_encoded Toml.path? Value.path .initDir
    (fun _ => rfl) (fun _ => rfl) Default.initDir (suits.values .initDir)
  obtain ⟨rcRoot, second, keptToo⟩ := given_encoded Toml.path? Value.path .rcRoot
    (fun _ => rfl) (fun _ => rfl) Default.rcRoot (suits.values .rcRoot)
  obtain ⟨osRelease, third, keptAsWell⟩ := given_encoded Toml.path? Value.path .osRelease
    (fun _ => rfl) (fun _ => rfl) Default.osRelease (suits.values .osRelease)
  refine ⟨⟨initDir, rcRoot, osRelease⟩, read.trans ?_, kept, keptToo, keptAsWell⟩
  simp only [Key.given?, Key.table, Key.name] at first second third
  simp [pathsOf?, Toml.field?, Toml.isRecord, Key.table, first, second, third]

theorem limits_of_suits :
    ∃ limits, given limitsOf? {} ((Toml.table entries).field? "limits" 2) = some limits ∧
      some (.number limits.timeoutSeconds) = Key.timeout.settled (.table entries) := by
  have read := given_table limitsOf? rfl 2 (suits.tables .timeout)
  obtain ⟨seconds, first, kept⟩ := given_encoded Toml.natural? Value.number .timeout
    (fun _ => rfl) (fun _ => rfl) Default.timeoutSeconds (suits.values .timeout)
  refine ⟨⟨seconds⟩, read.trans ?_, kept⟩
  simp only [Key.given?, Key.table, Key.name] at first
  simp [limitsOf?, Toml.field?, Toml.isRecord, Key.table, first]

theorem logging_of_suits :
    ∃ logging, given loggingOf? {} ((Toml.table entries).field? "logging" 3) = some logging ∧
      some (.text logging.level) = Key.level.settled (.table entries) ∧
      some (.text logging.format) = Key.format.settled (.table entries) := by
  have read := given_table loggingOf? rfl 3 (suits.tables .level)
  obtain ⟨level, first, kept⟩ := given_encoded Toml.text? Value.text .level
    (fun _ => rfl) (fun _ => rfl) Default.level (suits.values .level)
  obtain ⟨format, second, keptToo⟩ := given_encoded Toml.text? Value.text .format
    (fun _ => rfl) (fun _ => rfl) Default.format (suits.values .format)
  refine ⟨⟨level, format⟩, read.trans ?_, kept, keptToo⟩
  simp only [Key.given?, Key.table, Key.name] at first second
  simp [loggingOf?, Toml.field?, Toml.isRecord, Key.table, first, second]

theorem report_of_suits :
    ∃ report, given reportOf? {} ((Toml.table entries).field? "report" 4) = some report ∧
      some (.flag report.enabled) = Key.reported.settled (.table entries) ∧
      some (.path report.path) = Key.reportPath.settled (.table entries) := by
  have read := given_table reportOf? rfl 4 (suits.tables .reported)
  obtain ⟨enabled, first, kept⟩ := given_encoded Toml.boolean? Value.flag .reported
    (fun _ => rfl) (fun _ => rfl) false (suits.values .reported)
  obtain ⟨path, second, keptToo⟩ := given_encoded Toml.path? Value.path .reportPath
    (fun _ => rfl) (fun _ => rfl) Default.reportPath (suits.values .reportPath)
  refine ⟨⟨enabled, path⟩, read.trans ?_, kept, keptToo⟩
  simp only [Key.given?, Key.table, Key.name] at first second
  simp [reportOf?, Toml.field?, Toml.isRecord, Key.table, first, second]

theorem ofToml?_of_suits :
    ∃ s, ofToml? (.table entries) = some s ∧ ∀ key : Key, key.of s = key.settled (.table entries) := by
  obtain ⟨node, nodeRead, platform, startFirst, attributesFile⟩ := node_of_suits suits
  obtain ⟨paths, pathsRead, initDir, rcRoot, osRelease⟩ := paths_of_suits suits
  obtain ⟨limits, limitsRead, timeout⟩ := limits_of_suits suits
  obtain ⟨logging, loggingRead, level, format⟩ := logging_of_suits suits
  obtain ⟨report, reportRead, reported, reportPath⟩ := report_of_suits suits
  refine ⟨⟨node, paths, limits, logging, report⟩, ?_, fun key => ?_⟩
  · simp only [ofToml?, nodeRead, pathsRead, limitsRead, loggingRead, reportRead]
    rfl
  · cases key with
    | platform => exact platform
    | startFirst => exact startFirst
    | attributesFile => exact attributesFile
    | initDir => exact initDir
    | rcRoot => exact rcRoot
    | osRelease => exact osRelease
    | timeout => exact timeout
    | level => exact level
    | format => exact format
    | reported => exact reported
    | reportPath => exact reportPath

end Tables

theorem folded_mem_iff {words : List String}
    (plain : (words.all fun word => word.toList.all fun c => decide (Text.Plain c)) = true)
    (s : String) :
    folded s ∈ words ↔ s.toLower ∈ words := by
  have letters : ∀ word ∈ words, ∀ c ∈ word.toList, Text.Plain c := by
    simpa only [List.all_eq_true, decide_eq_true_eq] using plain
  have agree {word : String} (member : word ∈ words) : folded s = word ↔ s.toLower = word := by
    rw [← String.toList_inj, ← String.toList_inj, folded, String.toList_ofList, String.toLower,
      String.toList_map]
    exact Text.lower_eq_iff s.toList (letters word member)
  constructor
  · intro member
    rwa [(agree member).1 rfl]
  · intro member
    rwa [(agree member).2 rfl]

/-- What settings have to keep to, in the order in which it is looked at. -/
inductive Rule where
  | level | format | timeout | initDir
  deriving DecidableEq, Repr

namespace Rule

def all : List Rule := [.level, .format, .timeout, .initDir]

-- String.toLower changes the capitals of ASCII and nothing else.
def Holds (s : Settings) : Rule → Prop
  | .level => s.logging.level.toLower ∈ ["trace", "debug", "info", "warn", "error"]
  | .format => s.logging.format.toLower ∈ ["pretty", "json"]
  | .timeout => s.limits.timeoutSeconds ≠ 0
  | .initDir => s.paths.initDir.octets.head? = some Path.slash

instance (s : Settings) : DecidablePred (Holds s)
  | .level | .format => inferInstanceAs (Decidable (_ ∈ _))
  | .timeout => inferInstanceAs (Decidable (_ ≠ _))
  | .initDir => inferInstanceAs (Decidable (_ = _))

def fault (s : Settings) : Rule → SettingFault
  | .level => .level s.logging.level
  | .format => .format s.logging.format
  | .timeout => .zeroTimeout
  | .initDir => .relativeInitDir s.paths.initDir.text

theorem mem_all (rule : Rule) : rule ∈ all := by
  cases rule <;> decide

end Rule

theorem fault?_eq_find? (s : Settings) :
    s.fault? = (Rule.all.find? fun rule => decide (¬ rule.Holds s)).map (Rule.fault s) := by
  have level : validLevels.contains (folded s.logging.level) = true ↔ Rule.level.Holds s :=
    List.contains_iff_mem.trans (folded_mem_iff (by decide) s.logging.level)
  have format : validFormats.contains (folded s.logging.format) = true ↔ Rule.format.Holds s :=
    List.contains_iff_mem.trans (folded_mem_iff (by decide) s.logging.format)
  have initDir : Path.isAbsolute s.paths.initDir = true ↔ Rule.initDir.Holds s := beq_iff_eq
  have timeout : s.limits.timeoutSeconds = 0 ↔ ¬ Rule.timeout.Holds s := Decidable.not_not.symm
  simp only [fault?, Rule.all, Bool.not_eq_true', ← Bool.not_eq_true, level, format, timeout,
    initDir]
  -- Both sides look at the rules one by one, so each case names the same one or none.
  split_ifs <;> simp [Rule.fault, *]

theorem fault?_eq_some_of_first {s : Settings} {before after : List Rule} {rule : Rule}
    (order : Rule.all = before ++ rule :: after) (kept : ∀ r ∈ before, r.Holds s)
    (broken : ¬ rule.Holds s) : s.fault? = some (rule.fault s) := by
  rw [fault?_eq_find?, List.find?_eq_some_iff_append.2
    ⟨by simpa using broken, before, after, order, by simpa using kept⟩]
  rfl

theorem fault?_eq_none_iff_holds (s : Settings) :
    s.fault? = none ↔ ∀ rule : Rule, rule.Holds s := by
  simp [fault?_eq_find?, Rule.mem_all]

/-- A document of the right types gives settings in which what it says stands and the rest keeps
its default. They are refused for the first rule that they break. Documents that say the same for
every key are read alike, whatever else is in them. -/
theorem parse_fills_gaps_and_keeps_rules {text : String} {doc : Toml}
    (read : Toml.parse? text = some doc) (suits : Suits doc) :
    ∃ s : Settings, ofToml? doc = some s ∧
      (∀ key : Key, key.of s = key.settled doc) ∧
      (parse text = .ok s ↔ ∀ rule : Rule, rule.Holds s) ∧
      (∀ (before : List Rule) (rule : Rule) (after : List Rule),
        Rule.all = before ++ rule :: after → (∀ r ∈ before, r.Holds s) → ¬ rule.Holds s →
          parse text = .error (.illegal (rule.fault s))) ∧
      ∀ (other : String) (another : Toml), Toml.parse? other = some another → Suits another →
        (∀ key : Key, key.given? another = key.given? doc) →
          ofToml? another = some s ∧ parse other = parse text := by
  obtain ⟨entries, rfl⟩ := Toml.table_of_parse read
  obtain ⟨s, decoded, kept⟩ := ofToml?_of_suits suits
  have parsed : parse text = s.checked := by
    simp only [parse, read, Option.bind_some, decoded]
  refine ⟨s, decoded, kept, ?_, ?_, ?_⟩
  · rw [parsed, ← fault?_eq_none_iff_holds, checked]
    cases s.fault? <;> simp
  · intro before rule after order held broken
    rw [parsed, checked, fault?_eq_some_of_first order held broken]
  · intro other another readToo suitsToo alike
    obtain ⟨entriesToo, rfl⟩ := Toml.table_of_parse readToo
    obtain ⟨t, decodedToo, keptToo⟩ := ofToml?_of_suits suitsToo
    -- Settings are nothing but their keys, and those are the same.
    obtain rfl : t = s := by
      apply ext_keys
      intro key
      rw [kept, keptToo, Key.settled, Key.settled, alike]
    refine ⟨decodedToo, ?_⟩
    rw [parsed, parse, readToo, Option.bind_some, decodedToo]

end Settings

namespace Sample

open Settings

def shouting : String := "[logging]\nlevel = \"WARN\"\n[paths]\ninit_dir = \"etc\""

def shoutingMore : String :=
  "spare = 1\n[limits]\n[logging]\nlevel = \"WARN\"\nspare = 2\n[paths]\ninit_dir = \"etc\""

def shoutingDoc : Toml := .table
  [("logging", .table [("level", .text "WARN")]), ("paths", .table [("init_dir", .text "etc")])]

def shoutingMoreDoc : Toml := .table
  [("spare", .integer 1), ("limits", .table []),
    ("logging", .table [("level", .text "WARN"), ("spare", .integer 2)]),
    ("paths", .table [("init_dir", .text "etc")])]

theorem suits_shouting : Suits shoutingDoc ∧ Suits shoutingMoreDoc := by
  refine ⟨⟨?_, ?_⟩, ⟨?_, ?_⟩⟩ <;> rintro key v found <;> cases key <;>
    simp [shoutingDoc, shoutingMoreDoc, Key.given?, Toml.keysIn, Toml.member?, Key.table, Key.name,
      List.lookup] at found <;> exact ⟨_, found.symm⟩

theorem parse_fills_gaps_and_keeps_rules_shouting :
    parse shouting = .error (.illegal (.relativeInitDir "etc")) ∧
      parse shoutingMore = parse shouting := by
  have read : Toml.parse? shouting = some shoutingDoc := by cbv
  have readToo : Toml.parse? shoutingMore = some shoutingMoreDoc := by cbv
  obtain ⟨s, -, kept, -, refused, others⟩ := parse_fills_gaps_and_keeps_rules read suits_shouting.1
  refine ⟨?_, (others shoutingMore shoutingMoreDoc readToo suits_shouting.2 ?_).2⟩
  · have level : s.logging.level = "WARN" := Value.text.inj (Option.some.inj (kept .level))
    have format : s.logging.format = "pretty" := Value.text.inj (Option.some.inj (kept .format))
    have timeout : s.limits.timeoutSeconds = 120 :=
      Value.number.inj (Option.some.inj (kept .timeout))
    have initDir : s.paths.initDir = "etc" := Value.path.inj (Option.some.inj (kept .initDir))
    have warn : "WARN".toLower = "warn" := by cbv
    have pretty : "pretty".toLower = "pretty" := by cbv
    have broken := refused [.level, .format, .timeout] .initDir [] rfl
      (by simp [Rule.Holds, level, format, timeout, warn, pretty])
      (by rw [Rule.Holds, initDir]; decide)
    rw [broken, Rule.fault, initDir, OsString.text_ofText]
  · intro key
    cases key <;> rfl

end Sample

end Converge
