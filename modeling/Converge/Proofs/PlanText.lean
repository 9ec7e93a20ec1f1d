import Converge.Proofs.FlagPath
import Converge.Proofs.ReportLine

set_option autoImplicit false

namespace Converge

open Text

namespace Json

theorem infix_joined {α : Type} (f : α → List Char) {a : α} {as : List α} (member : a ∈ as) :
    f a <:+: joined f as := by
  induction as with
  | nil => cases member
  | cons b rest ih =>
    have parts := joined_cons f b rest []
    rw [List.append_nil] at parts
    rw [parts]
    rcases List.mem_cons.1 member with rfl | later
    · exact (List.prefix_append _ _).isInfix
    · have more : rest.isEmpty = false := by
        cases rest with
        | nil => cases later
        | cons => rfl
      rw [more, List.append_nil]
      exact ((ih later).trans (List.suffix_cons _ _).isInfix).trans (List.suffix_append _ _).isInfix

theorem Leads.infix_render {path : List String} {v w : Json} (leads : Leads path v w) :
    w.render <:+: v.render := by
  induction leads with
  | here v => exact List.infix_rfl
  | @member key path v w before after last rest ih =>
    rw [render, renderMembers_eq]
    have inside : v.render <:+: renderMember (key, v) :=
      ((List.suffix_cons ':' _).trans (List.suffix_append _ _)).isInfix
    have listed : renderMember (key, v) <:+: joined renderMember (before ++ (key, v) :: after) :=
      infix_joined renderMember (List.mem_append_right _ (.head _))
    exact ((ih.trans inside).trans listed).trans ⟨['\x7b'], ['\x7d'], rfl⟩
  | @item path items i v w found rest ih =>
    rw [render, renderItems_eq]
    have listed : v.render <:+: joined render items :=
      infix_joined render (List.mem_of_getElem? found)
    exact (ih.trans listed).trans ⟨['['], [']'], rfl⟩

end Json

theorem Capability.name_injective {a b : Capability} (same : a.name = b.name) : a = b := by
  cases a <;> cases b <;> simp [name] at same ⊢

namespace Capabilities

theorem toList_injective {a b : Capabilities} (same : a.toList = b.toList) : a = b := by
  rw [← ofList_toList a, same, ofList_toList]

theorem ofList_eq_iff (as bs : List Capability) : ofList as = ofList bs ↔ ∀ c, c ∈ as ↔ c ∈ bs := by
  constructor
  · intro same c
    have alike := congrArg (has · c) same
    simpa [has_ofList] using alike
  · intro alike
    simp only [ofList, List.contains_eq_mem, alike]

theorem toList_sublist (set : Capabilities) : set.toList.Sublist Capability.all :=
  List.filter_sublist

end Capabilities

theorem PlannedService.toJson_injective {a b : PlannedService} (same : a.toJson = b.toJson) :
    a = b := by
  rcases a with ⟨⟨name, supported, desired, stopOverride⟩, provider⟩
  rcases b with ⟨⟨name', supported', desired', stopOverride'⟩, provider'⟩
  have verbs (one : Json.texts (supported.toList.map Capability.name) =
      Json.texts (supported'.toList.map Capability.name)) : supported = supported' :=
    Capabilities.toList_injective
      ((List.map_inj_right fun _ _ => Capability.name_injective).1 (Json.texts_injective one))
  have actions (one : Json.texts (desired.map Action.name) =
      Json.texts (desired'.map Action.name)) : desired = desired' :=
    (List.map_inj_right fun _ _ => Action.name_injective).1 (Json.texts_injective one)
  -- A missing override has no member, so that either both have one or neither.
  cases stopOverride <;> cases stopOverride' <;>
    simp only [toJson, Declaration.members, Json.object.injEq, List.cons_append, List.nil_append,
      List.cons.injEq, Prod.mk.injEq, Json.text.injEq, true_and, and_true] at same
  · obtain ⟨rfl, supports, desires, providers⟩ := same
    rw [verbs supports, actions desires, ProviderKind.name_injective providers]
  · simp at same
  · simp at same
  · obtain ⟨rfl, supports, desires, rfl, providers⟩ := same
    rw [verbs supports, actions desires, ProviderKind.name_injective providers]

theorem Plan.toJson_injective {a b : Plan} (same : a.toJson = b.toJson) : a = b := by
  rcases a with ⟨platform, services⟩
  rcases b with ⟨platform', services'⟩
  simp only [toJson, Json.object.injEq, List.cons.injEq, Prod.mk.injEq, Json.text.injEq,
    Json.array.injEq, true_and, and_true] at same
  obtain ⟨rfl, each⟩ := same
  rw [(List.map_inj_right fun _ _ => PlannedService.toJson_injective).1 each]

/-- What one service is planned from. The verbs of its script come in any order and as often as one
likes. -/
structure ServiceRequest where
  name : String
  verbs : List Capability
  desired : List Action
  stopOverride : Option String
  provider : ProviderKind

namespace ServiceRequest

def planned (r : ServiceRequest) : PlannedService :=
  ⟨⟨r.name, .ofList r.verbs, r.desired, r.stopOverride⟩, r.provider⟩

structure SameWork (a b : ServiceRequest) : Prop where
  name : a.name = b.name
  verbs : ∀ c, c ∈ a.verbs ↔ c ∈ b.verbs
  desired : a.desired = b.desired
  stopOverride : a.stopOverride = b.stopOverride
  provider : a.provider = b.provider

theorem planned_eq_iff (a b : ServiceRequest) : a.planned = b.planned ↔ a.SameWork b := by
  simp only [planned, PlannedService.mk.injEq, Declaration.mk.injEq, Capabilities.ofList_eq_iff]
  constructor
  · rintro ⟨⟨name, verbs, desired, stopOverride⟩, provider⟩
    exact ⟨name, verbs, desired, stopOverride, provider⟩
  · rintro ⟨name, verbs, desired, stopOverride, provider⟩
    exact ⟨⟨name, verbs, desired, stopOverride⟩, provider⟩

end ServiceRequest

namespace Plan

def ofRequests (platform : String) (rs : List ServiceRequest) : Plan :=
  ⟨platform, rs.map ServiceRequest.planned⟩

theorem eq_ofRequests (plan : Plan) : ∃ rs, plan = ofRequests plan.platform rs := by
  let requests := plan.services.map fun s => (⟨s.declaration.name, s.declaration.supported.toList,
    s.declaration.desired, s.declaration.stopOverride, s.provider⟩ : ServiceRequest)
  refine ⟨requests, ?_⟩
  have same : requests.map ServiceRequest.planned = plan.services := by
    simp [requests, ServiceRequest.planned, Capabilities.ofList_toList, Function.comp_def]
  rw [ofRequests, same]

/-- The keys that lead to the verbs of a service in the text of a plan. -/
def verbsPath (i : Nat) : List String :=
  ["services", String.ofList (Decimal.ofNat i), "supported_actions"]

theorem leads_verbs (platform : String) {rs : List ServiceRequest} {i : Nat} {r : ServiceRequest}
    (found : rs[i]? = some r) :
    Json.Leads (verbsPath i) (ofRequests platform rs).toJson
      (.texts ((Capabilities.ofList r.verbs).toList.map Capability.name)) := by
  have listed : ((ofRequests platform rs).services.map PlannedService.toJson)[i]? =
      some r.planned.toJson := by
    simp [ofRequests, found]
  refine .member [("platform", _)] [] (by simp) (.item listed ?_)
  -- The verbs come second; an override makes one more member after them.
  cases stop : r.stopOverride <;>
    simp only [PlannedService.toJson, Declaration.members, ServiceRequest.planned, stop,
      List.cons_append, List.nil_append]
  · exact .member [("name", _)] [_, _] (by simp) (.here _)
  · exact .member [("name", _)] [_, _, _] (by simp) (.here _)

theorem compact_eq_iff (platform platform' : String) (rs rs' : List ServiceRequest) :
    (ofRequests platform rs).toJson.compact = (ofRequests platform' rs').toJson.compact ↔
      platform = platform' ∧ rs.length = rs'.length ∧
        ∀ i (inside : i < rs.length) (inside' : i < rs'.length), rs[i].SameWork rs'[i] := by
  constructor
  · intro same
    obtain ⟨rfl, each⟩ := Plan.mk.inj (toJson_injective (Json.compact_injective same))
    have lengths : rs.length = rs'.length := by simpa using congrArg List.length each
    refine ⟨rfl, lengths, fun i inside inside' => (ServiceRequest.planned_eq_iff _ _).1 ?_⟩
    have here := List.getElem_of_eq each (by simpa using inside)
    simpa using here
  · rintro ⟨rfl, lengths, each⟩
    have services : rs.map ServiceRequest.planned = rs'.map ServiceRequest.planned := by
      refine List.ext_getElem (by simpa using lengths) fun i inside inside' => ?_
      simpa using (ServiceRequest.planned_eq_iff _ _).2 (each i _ _)
    rw [ofRequests, ofRequests, services]

/-- The verbs of a service stand in the text in one order, however they were given. -/
theorem text_determines_work (platform platform' : String) (rs rs' : List ServiceRequest) :
    let text := (ofRequests platform rs).toJson.compact
    (text = (ofRequests platform' rs').toJson.compact ↔
      platform = platform' ∧ rs.length = rs'.length ∧
        ∀ i (inside : i < rs.length) (inside' : i < rs'.length), rs[i].SameWork rs'[i]) ∧
    ∀ i : Fin rs.length, ∃ verbs : List Capability,
      let written := Json.texts (verbs.map Capability.name)
      (ofRequests platform rs).toJson.at? (verbsPath i) = some written ∧
      written.render <:+: text.toList ∧
      verbs.Sublist [.status, .start, .stop, .restart] ∧ verbs.Nodup ∧
      ∀ c, c ∈ verbs ↔ c ∈ rs[i].verbs := by
  intro text
  refine ⟨compact_eq_iff platform platform' rs rs', fun i => ?_⟩
  have leads := leads_verbs platform (List.getElem?_eq_getElem i.isLt)
  have order := Capabilities.toList_sublist (.ofList rs[i].verbs)
  refine ⟨_, (Json.at?_eq_some_iff _ _ _).2 leads, ?_, order, order.nodup (by decide), fun c => ?_⟩
  · rw [show text.toList = _ from String.toList_ofList]
    exact leads.infix_render
  · rw [Capabilities.mem_toList, Capabilities.has_ofList, List.contains_iff_mem]
    rfl

example :
    let web : ServiceRequest := ⟨"web", [.stop, .start, .stop], [], some "", .genericInit⟩
    (ofRequests "suse" [web]).toJson.compact =
    "\x7b\"platform\":\"suse\",\"services\":[\x7b\"name\":\"web\"," ++
      "\"supported_actions\":[\"start\",\"stop\"],\"desired_actions\":[]," ++
      "\"stop_override\":\"\",\"provider\":\"generic_init\"\x7d]\x7d" := by
  cbv

end Plan

end Converge
