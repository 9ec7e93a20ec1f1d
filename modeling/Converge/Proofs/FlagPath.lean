import Mathlib
import Converge.Json.Value
import Converge.Node
import Converge.Proofs.Digits
import Converge.Proofs.Planning

set_option autoImplicit false

namespace Converge

namespace Json

open Text

/-- Keys lead from a value to one inside it: by name through an object, where the last member of a
name counts, and by position through an array. -/
inductive Leads : List String → Json → Json → Prop where
  | here (v : Json) : Leads [] v v
  | member {key : String} {path : List String} {v w : Json} (before after : List (String × Json))
      (last : ∀ m ∈ after, m.1 ≠ key) (rest : Leads path v w) :
      Leads (key :: path) (.object (before ++ (key, v) :: after)) w
  | item {path : List String} {items : List Json} {i : Nat} {v w : Json}
      (found : items[i]? = some v) (rest : Leads path v w) :
      Leads (String.ofList (Decimal.ofNat i) :: path) (.array items) w

theorem index?_eq_some_iff (key : String) (i : Nat) :
    index? key = some i ↔ key = String.ofList (Decimal.ofNat i) := by
  constructor
  · intro found
    simp only [index?] at found
    split_ifs at found with shape lead
    obtain ⟨written, all⟩ : key.toList ≠ [] ∧ ∀ c ∈ key.toList, Decimal.isDigit c = true := by
      simpa using shape
    have canonical : key.toList.head? = some '0' → key.toList = ['0'] := by
      simpa using lead
    have digits := Decimal.ofNat_value written all canonical
    rw [Option.some.inj found] at digits
    rw [digits, String.ofList_toList]
  · rintro rfl
    have written : Decimal.ofNat i ≠ [] := Nat.toDigits_ne_nil
    have all : ∀ c ∈ Decimal.ofNat i, Decimal.isDigit c = true := fun _ => Decimal.isDigit_ofNat
    have canonical : (Decimal.ofNat i).head? = some '0' → Decimal.ofNat i = ['0'] := by
      intro zero
      rcases Nat.eq_zero_or_pos i with rfl | positive
      · decide
      · exact absurd zero (Decimal.head?_ofNat_of_pos positive)
    have shape : ¬ ((Decimal.ofNat i).isEmpty ||
        !(Decimal.ofNat i).all Decimal.isDigit) = true := by
      simpa using ⟨written, all⟩
    have lead : ¬ ((Decimal.ofNat i).head? == some '0' && Decimal.ofNat i ≠ ['0']) = true := by
      simpa using canonical
    simp only [index?, String.toList_ofList]
    rw [if_neg shape, if_neg lead, Decimal.value_ofNat]

theorem step?_object (key : String) (members : List (String × Json)) (v : Json) :
    step? key (.object members) = some v ↔
      ∃ before after, members = before ++ (key, v) :: after ∧ ∀ m ∈ after, m.1 ≠ key := by
  -- Members are searched from the last one, so what stands before in the search stands after here.
  simp only [step?, Option.map_eq_some_iff, List.find?_eq_some_iff_append]
  constructor
  · rintro ⟨⟨name, _⟩, ⟨same, after, before, parts, last⟩, rfl⟩
    obtain rfl : name = key := by simpa using same
    refine ⟨before.reverse, after.reverse, ?_, ?_⟩
    · simpa using congrArg List.reverse parts
    · simpa using last
  · rintro ⟨before, after, rfl, last⟩
    exact ⟨(key, v), ⟨by simp, after.reverse, before.reverse, by simp, by simpa using last⟩, rfl⟩

theorem step?_array (key : String) (items : List Json) (v : Json) :
    step? key (.array items) = some v ↔
      ∃ i, key = String.ofList (Decimal.ofNat i) ∧ items[i]? = some v := by
  simp only [step?, Option.bind_eq_some_iff, index?_eq_some_iff]

theorem at?_eq_some_iff (path : List String) (doc v : Json) :
    doc.at? path = some v ↔ Leads path doc v := by
  induction path generalizing doc with
  | nil =>
    constructor
    · rintro ⟨⟩
      exact .here v
    · rintro ⟨⟩
      rfl
  | cons key rest ih =>
    simp only [at?, Option.bind_eq_some_iff, ih]
    constructor
    · rintro ⟨next, stepped, leads⟩
      cases doc with
      | object members =>
        obtain ⟨before, after, rfl, last⟩ := (step?_object key members next).1 stepped
        exact .member before after last leads
      | array items =>
        obtain ⟨i, rfl, found⟩ := (step?_array key items next).1 stepped
        exact .item found leads
      | null | bool | number | text => simp [step?] at stepped
    · intro leads
      cases leads with
      | member before after last leads =>
        exact ⟨_, (step?_object _ _ _).2 ⟨before, after, rfl, last⟩, leads⟩
      | item found leads => exact ⟨_, (step?_array _ _ _).2 ⟨_, rfl, found⟩, leads⟩

theorem at?_append (front back : List String) (doc : Json) :
    doc.at? (front ++ back) = (doc.at? front).bind (at? back) := by
  induction front generalizing doc with
  | nil => rfl
  | cons key rest ih =>
    rw [List.cons_append, at?, at?]
    cases doc.step? key with
    | none => rfl
    | some next => exact ih next

end Json

namespace NodeAttributes

open Json

-- The list of the node's components; the flag is below its first one.
def componentsPath : List String := flagPath.take 3

theorem isOn_iff (v : Json) : isOn v = true ↔ v ≠ .null ∧ v ≠ .bool false := by
  cases v with
  | bool b => cases b <;> simp [isOn]
  | null | number | text | array | object => simp [isOn]

theorem startFirst_iff (document : Json) : (ofJson document).startFirst = true ↔
    ∃ v, Leads flagPath document v ∧ v ≠ .null ∧ v ≠ .bool false := by
  simp only [ofJson, Option.any_eq_true, at?_eq_some_iff, isOn_iff]

theorem ofJson_congr {document other : Json}
    (alike : ∀ v, Leads flagPath document v ↔ Leads flagPath other v) :
    ofJson document = ofJson other := by
  have same : (ofJson document).startFirst = (ofJson other).startFirst := by
    rw [Bool.eq_iff_iff, startFirst_iff, startFirst_iff]
    simp only [alike]
  exact congrArg mk same

theorem leads_flagPath_iff {document first : Json} {later : List Json}
    (components : Leads componentsPath document (.array (first :: later))) (v : Json) :
    Leads flagPath document v ↔ Leads (flagPath.drop 4) first v := by
  have parts : flagPath = componentsPath ++ "0" :: flagPath.drop 4 := by decide
  have start : step? "0" (.array (first :: later)) = some first :=
    (step?_array _ _ _).2 ⟨0, by decide, rfl⟩
  rw [← at?_eq_some_iff] at components
  rw [← at?_eq_some_iff, ← at?_eq_some_iff, parts, at?_append, components, Option.bind_some, at?,
    start]
  rfl

end NodeAttributes

namespace Settings

open NodeAttributes

/-- The document that settings name, if they name one, as it is read from the files. -/
inductive Names (s : Settings) (files : FileSystem) : Option Json → Prop where
  | nothing (unnamed : s.node.attributesFile = none) : Names s files none
  | document {path : OsString} {text : String} {document : Json}
      (named : s.node.attributesFile = some path) (readable : files.readText path = .ok text)
      (parsed : Json.parse? text = some document) :
      Names s files (some document)

variable {s : Settings} {files : FileSystem}

theorem attributes_of_names {document : Option Json} (names : s.Names files document) :
    s.attributes files =
      .ok ⟨(s.node.startFirst.or (document.map fun d => (ofJson d).startFirst)).getD false⟩ := by
  -- A given flag comes after the reading of the document, and only then takes its place.
  cases names with
  | nothing unnamed =>
    cases given : s.node.startFirst <;> simp [attributes, unnamed, given, bind, Except.bind]
  | document named readable parsed =>
    cases given : s.node.startFirst <;>
      simp [attributes, named, load, readable, parsed, given, bind, Except.bind]

theorem attributes_fails_iff : (∃ e, s.attributes files = .error e) ↔
    ∃ path, s.node.attributesFile = some path ∧
      ∀ text, files.readText path = .ok text → Json.parse? text = none := by
  cases named : s.node.attributesFile with
  | none => simp [attributes_of_names (.nothing named)]
  | some path =>
    cases readable : files.readText path with
    | error cause => simp [attributes, named, load, readable, bind, Except.bind]
    | ok text =>
      cases parsed : Json.parse? text with
      | none => simp [attributes, named, load, readable, parsed, bind, Except.bind]
      | some document =>
        simp [attributes_of_names (.document named readable parsed), readable, parsed]

end Settings

namespace NodeAttributes

/-- The flag of a document is decided at one place, and settings take it from the document that they
name unless they give it themselves. A document that is named has to be there all the same. -/
theorem flag_decided_by_place_or_override :
    (∀ document, (ofJson document).startFirst = true ↔
      ∃ v, Json.Leads ["REC", "PICs", "scalaris_PIC", "0", "attributes", "scalaris_start_first"]
        document v ∧ v ≠ .null ∧ v ≠ .bool false) ∧
    (∀ document other, (∀ v, Json.Leads flagPath document v ↔ Json.Leads flagPath other v) →
      ofJson document = ofJson other) ∧
    (∀ document other first later laterToo,
      Json.Leads ["REC", "PICs", "scalaris_PIC"] document (.array (first :: later)) →
      Json.Leads ["REC", "PICs", "scalaris_PIC"] other (.array (first :: laterToo)) →
      ofJson document = ofJson other) ∧
    ∀ (s : Settings) (files : FileSystem),
      ((∃ e, s.attributes files = .error e) ↔
        ∃ path, s.node.attributesFile = some path ∧
          ∀ text, files.readText path = .ok text → Json.parse? text = none) ∧
      ∀ document, s.Names files document →
        s.attributes files = .ok
          ⟨(s.node.startFirst.or (document.map fun d => (ofJson d).startFirst)).getD false⟩ := by
  refine ⟨startFirst_iff, fun _ _ => ofJson_congr, ?_, fun s files =>
    ⟨Settings.attributes_fails_iff, fun _ => Settings.attributes_of_names⟩⟩
  intro document other first later laterToo here there
  apply ofJson_congr
  intro v
  rw [leads_flagPath_iff here, leads_flagPath_iff there]

-- Zero counts as on. The second component says otherwise and does not matter.
def sampleComponent : Json := .object [("attributes", .object [("scalaris_start_first", .nat 0)])]

def sampleDocument (later : List Json) : Json :=
  .object [("REC", .object [("PICs", .object [
    ("scalaris_PIC", .array (sampleComponent :: later))])])]

def quietComponent : Json :=
  .object [("attributes", .object [("scalaris_start_first", .bool false)])]

def sampleFiles : FileSystem where
  nodes := [(["node"], .file (Text.toOctets (sampleDocument [quietComponent]).compact) false)]

theorem readText_node :
    sampleFiles.readText "/node" = .ok (sampleDocument [quietComponent]).compact := by
  have walks := FileSystem.target_absolute sampleFiles "/node" ["node"] (by decide)
  have found : sampleFiles.lookUp "/node" = .ok (["node"],
      .file (Text.toOctets (sampleDocument [quietComponent]).compact) false) := by
    simp only [FileSystem.lookUp, walks]
    simp [FileSystem.walk, sampleFiles, FileSystem.find?, FileSystem.nameLimit,
      Text.Utf8.size, Char.utf8Size]
  simp [FileSystem.readText, FileSystem.readOctets, found]

theorem readText_gone (text : String) : sampleFiles.readText "/gone" ≠ .ok text := by
  have walks := FileSystem.target_absolute sampleFiles "/gone" ["gone"] (by decide)
  have missing : sampleFiles.lookUp "/gone" = .error .notFound := by
    simp only [FileSystem.lookUp, walks]
    simp [FileSystem.walk, sampleFiles, FileSystem.find?, List.lookup_cons, FileSystem.nameLimit,
      Text.Utf8.size, Char.utf8Size]
  simp [FileSystem.readText, FileSystem.readOctets, missing]

theorem leads_sample (later : List Json) :
    Json.Leads ["REC", "PICs", "scalaris_PIC"] (sampleDocument later)
      (.array (sampleComponent :: later)) :=
  .member [] [] (by simp) (.member [] [] (by simp) (.member [] [] (by simp) (.here _)))

theorem flag_decided_by_place_or_override_sample :
    let named : Settings := { node := { attributesFile := some "/node" } }
    let missing : Settings :=
      { node := { startFirst := some true, attributesFile := some "/gone" } }
    Json.Leads ["REC", "PICs", "scalaris_PIC"] (sampleDocument []) (.array [sampleComponent]) ∧
      Json.Leads ["REC", "PICs", "scalaris_PIC"] (sampleDocument [quietComponent])
        (.array [sampleComponent, quietComponent]) ∧
      ofJson (sampleDocument []) = ofJson (sampleDocument [quietComponent]) ∧
      named.Names sampleFiles (some (sampleDocument [quietComponent])) ∧
      named.attributes sampleFiles = .ok ⟨true⟩ ∧
      ∃ e, missing.attributes sampleFiles = .error e := by
  intro named missing
  obtain ⟨-, -, later, settings⟩ := flag_decided_by_place_or_override
  have parsed : Json.parse? (sampleDocument [quietComponent]).compact =
      some (sampleDocument [quietComponent]) := by
    cbv
  have names : named.Names sampleFiles (some (sampleDocument [quietComponent])) :=
    .document rfl readText_node parsed
  refine ⟨leads_sample [], leads_sample _, later _ _ _ _ _ (leads_sample []) (leads_sample _),
    names, ?_, ?_⟩
  · rw [(settings named sampleFiles).2 _ names]
    rfl
  · refine (settings missing sampleFiles).1.2 ⟨"/gone", rfl, fun text read => ?_⟩
    exact absurd read (readText_gone text)

end NodeAttributes

end Converge
