import Converge.Proofs.FileGrowth
import Converge.Proofs.Planning
import Converge.Proofs.ServiceName
import Converge.Service.Recipe

set_option autoImplicit false

namespace Converge

def IsLatest (ds : List Definition) (name : String) (d : Definition) : Prop :=
  d.name = name ∧ ∃ before after, ds = before ++ d :: after ∧ ∀ other ∈ after, other.name ≠ name

theorem isLatest_iff_find? (ds : List Definition) (name : String) (d : Definition) :
    IsLatest ds name d ↔ ds.reverse.find? (fun x => x.name = name) = some d := by
  rw [List.find?_eq_some_iff_append]
  constructor
  · rintro ⟨named, before, after, rfl, none⟩
    refine ⟨by simpa using named, after.reverse, before.reverse, by simp, fun x member => ?_⟩
    simpa using none x (by simpa using member)
  · rintro ⟨named, after, before, parts, none⟩
    refine ⟨by simpa using named, before.reverse, after.reverse, ?_, fun x member => ?_⟩
    · rw [← List.reverse_reverse ds, parts]
      simp
    · simpa using none x (by simpa using member)

namespace Registry

theorem get?_register (r : Registry) (d : Definition) (name : String) :
    (r.register d).get? name = if d.name = name then some d else r.get? name := by
  rw [register, get?, lookup_replaced, get?]
  simp only [eq_comm]

theorem get?_foldl_register (ds : List Definition) (r : Registry) (name : String) :
    (ds.foldl register r).get? name =
      (ds.reverse.find? fun x => x.name = name).or (r.get? name) := by
  induction ds generalizing r with
  | nil => rfl
  | cons d rest ih =>
    rw [List.foldl_cons, ih, get?_register, List.reverse_cons, List.find?_append, Option.or_assoc]
    by_cases same : d.name = name <;> simp [same]

def withAll (ds : List Definition) : Registry := ds.foldl register .builtIn

-- A registry gives the latest definition of a name, and every key is its definition's own name.
theorem get?_withAll (ds : List Definition) (name : String) (d : Definition) :
    (withAll ds).get? name = some d ↔ IsLatest (Definition.builtIns ++ ds) name d := by
  rw [isLatest_iff_find?, withAll, builtIn, ← List.foldl_append, get?_foldl_register]
  simp [empty, get?]

theorem get?_withAll_eq_none_iff (ds : List Definition) (name : String) :
    (withAll ds).get? name = none ↔ ∀ d ∈ Definition.builtIns ++ ds, d.name ≠ name := by
  rw [withAll, builtIn, ← List.foldl_append, get?_foldl_register]
  simp [empty, get?, or_imp, forall_and, and_comm]

end Registry

namespace Plan

-- Where names are sound and distinct and no override is blank, only the script or an action can be
-- refused.
theorem refused_of_wellFormed {ds : List Declaration}
    (named : ∀ d ∈ ds, ServiceName.fault? d.name = none) (once : (ds.map (·.name)).Nodup)
    (worded : ∀ d ∈ ds, ∀ line, d.stopOverride = some line →
      ∃ c ∈ line.toList, Text.isBlank c = false)
    {paths : Paths} {files : FileSystem} {platform : String} {e : ApplyError}
    (refused : make paths files platform ds = .error e) :
    ∃ d ∈ ds, e = .unknownService d.name ∨ ∃ a ∈ d.desired, e = .unsupportedAction d.name a := by
  obtain ⟨before, d, after, rfl, -, first⟩ := (make_eq_error_iff _ _ _ _ _).1 refused
  have declared : d ∈ before ++ d :: after := by simp
  refine ⟨d, declared, ?_⟩
  -- Every declaration passes the checks of the name, of its being new and of the override.
  cases first with
  | name fault broken => simp [named d declared] at broken
  | duplicate _ again =>
    rw [List.map_append, List.nodup_append] at once
    exact absurd rfl (once.2.2 d.name again d.name (by simp))
  | script => exact .inl rfl
  | unsupported _ _ _ a lacks =>
    obtain ⟨done, left, parts, -⟩ := lacks
    exact .inr ⟨a, by simp [parts], rfl⟩
  | unrecognized _ _ _ _ a unknown =>
    obtain ⟨done, left, parts, -⟩ := unknown
    exact .inr ⟨a, by simp [parts], rfl⟩
  | override _ _ _ _ _ line given blank =>
    obtain ⟨c, member, letter⟩ := worded d declared line given
    simp [blank c member] at letter

end Plan

namespace Recipe

theorem mem_initScript (paths : Paths) {service : String} {c : Char}
    (member : c ∈ service.toList) : c ∈ (paths.initScript service).text.toList := by
  unfold Paths.initScript Path.join
  split_ifs <;> simp [OsString.text_append, member]

-- A hard stop names the service, so that its line is never blank, whatever the verb.
theorem hardStopLine_worded (paths : Paths) {service : String}
    (accepted : ServiceName.fault? service = none) (verb : String) :
    ∃ c ∈ (hardStopLine paths service verb).toList, Text.isBlank c = false := by
  obtain ⟨c, rest, parts⟩ := List.exists_cons_of_ne_nil
    ((ServiceName.fault?_eq_none_iff service).1 accepted).1
  have member : c ∈ service.toList := by simp [parts]
  refine ⟨c, ?_, ServiceName.isBlank_of_accepted accepted c member⟩
  simp [hardStopLine, mem_initScript paths member]

/-- A declaration follows a definition on a node. -/
structure Follows (node : NodeAttributes) (definition : Definition) (d : Declaration) : Prop where
  name : d.name = definition.name
  supported : ∀ c, d.supports c = true ↔ c ∈ definition.supported
  desired : d.desired = definition.desired
  override : d.stopOverride.isSome = true ↔
    node.startFirst = true ∧ definition.hardStop.isSome = true

theorem declare_follows (paths : Paths) (node : NodeAttributes) (service : String)
    (definition : Definition) :
    Follows node definition (declare paths node service definition) := by
  by_cases first : node.startFirst = true
  · simp only [declare, first, if_true]
    refine ⟨rfl, fun c => ?_, rfl, by simp [first]⟩
    simp [Declaration.supports, Definition.toDeclaration, Capabilities.has_ofList]
  · simp only [declare, first]
    refine ⟨rfl, fun c => ?_, rfl, by simp [first, Definition.toDeclaration]⟩
    simp [Declaration.supports, Definition.toDeclaration, Capabilities.has_ofList]

theorem declare_worded (paths : Paths) (node : NodeAttributes) {service : String}
    (accepted : ServiceName.fault? service = none) (definition : Definition) {line : String}
    (given : (declare paths node service definition).stopOverride = some line) :
    ∃ c ∈ line.toList, Text.isBlank c = false := by
  by_cases first : node.startFirst = true
  · simp only [declare, first, if_true, Option.map_eq_some_iff] at given
    obtain ⟨verb, -, rfl⟩ := given
    exact hardStopLine_worded paths accepted verb
  · simp [declare, first, Definition.toDeclaration] at given

theorem latest_of_service (ds : List Definition) (service : String) (listed : service ∈ services) :
    ∃ d, (Registry.withAll ds).get? service = some d := by
  rw [← Option.ne_none_iff_exists', ne_eq, Registry.get?_withAll_eq_none_iff]
  intro missing
  simp only [services, List.mem_cons, List.not_mem_nil, or_false] at listed
  rcases listed with rfl | rfl
  · exact missing .scalaris (by simp [Definition.builtIns]) rfl
  · exact missing .scalarisMonitor (by simp [Definition.builtIns]) rfl

/-- After any registrations a registry gives the latest definitions, the recipe declares its two
services from them, and a plan for these can only miss a script or an action. -/
theorem declarations_wellFormed (ds : List Definition) (node : NodeAttributes) (paths : Paths) :
    let registry := Registry.withAll ds
    (∀ name d, registry.get? name = some d ↔ IsLatest (Definition.builtIns ++ ds) name d) ∧
    (∀ name, registry.get? name = none ↔ ∀ d ∈ Definition.builtIns ++ ds, d.name ≠ name) ∧
    (∀ d name, name ≠ d.name → (registry.register d).get? name = registry.get? name) ∧
    ∃ first second one two,
      IsLatest (Definition.builtIns ++ ds) "scalaris" first ∧
      IsLatest (Definition.builtIns ++ ds) "scalaris-monitor" second ∧
      declarations registry node paths = .ok [one, two] ∧
      one.name = "scalaris" ∧ two.name = "scalaris-monitor" ∧
      Follows node first one ∧ Follows node second two ∧
      ∀ others files platform e, Plan.make others files platform [one, two] = .error e →
        ∃ d ∈ [one, two], e = .unknownService d.name ∨
          ∃ a ∈ d.desired, e = .unsupportedAction d.name a := by
  intro registry
  refine ⟨Registry.get?_withAll ds, Registry.get?_withAll_eq_none_iff ds, fun d name other => ?_, ?_⟩
  · rw [Registry.get?_register, if_neg (Ne.symm other)]
  obtain ⟨first, found⟩ := latest_of_service ds "scalaris" (by decide)
  obtain ⟨second, foundToo⟩ := latest_of_service ds "scalaris-monitor" (by decide)
  have latest := (Registry.get?_withAll ds _ first).1 found
  have latestToo := (Registry.get?_withAll ds _ second).1 foundToo
  have name : (declare paths node "scalaris" first).name = "scalaris" :=
    (declare_follows paths node "scalaris" first).name.trans latest.1
  have nameToo : (declare paths node "scalaris-monitor" second).name = "scalaris-monitor" :=
    (declare_follows paths node "scalaris-monitor" second).name.trans latestToo.1
  have accepted : ServiceName.fault? "scalaris" = none := by decide
  have acceptedToo : ServiceName.fault? "scalaris-monitor" = none := by decide
  refine ⟨first, second, declare paths node "scalaris" first,
    declare paths node "scalaris-monitor" second, latest, latestToo, ?_, name, nameToo,
    declare_follows .., declare_follows .., fun others files platform e refused => ?_⟩
  · simp only [declarations, services, List.mapM_cons, List.mapM_nil, registry, found, foundToo]
    rfl
  · refine Plan.refused_of_wellFormed ?_ ?_ ?_ refused
    · simp [name, nameToo, accepted, acceptedToo]
    · simp [name, nameToo]
    · simp only [List.forall_mem_cons, List.not_mem_nil, false_implies, implies_true, and_true]
      exact ⟨fun line => declare_worded paths node accepted first,
        fun line => declare_worded paths node acceptedToo second⟩

end Recipe

end Converge
