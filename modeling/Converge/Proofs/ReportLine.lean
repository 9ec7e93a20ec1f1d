import Converge.Proofs.JsonText
import Converge.Proofs.Stamp
import Converge.Report.Basic

set_option autoImplicit false

namespace Converge

theorem Action.name_injective {a b : Action} (same : a.name = b.name) : a = b := by
  cases a <;> cases b <;> simp [name] at same ⊢

theorem ProviderKind.name_injective {a b : ProviderKind} (same : a.name = b.name) : a = b := by
  cases a <;> cases b <;> simp [name] at same ⊢

theorem Json.texts_injective {a b : List String} (same : texts a = texts b) : a = b := by
  simp only [texts, array.injEq] at same
  exact (List.map_inj_right fun s t equal => by simpa using equal).1 same

theorem Outcome.toJson_injective {a b : Outcome} (same : a.toJson = b.toJson) : a = b := by
  rcases a with ⟨service, action, provider, changed, commands, milliseconds⟩
  rcases b with ⟨service', action', provider', changed', commands', milliseconds'⟩
  -- A missing member for the commands stands for none, so that either both have it or neither.
  cases commands <;> cases commands' <;>
    simp only [toJson, List.isEmpty_nil, List.isEmpty_cons, if_true, if_false, Bool.false_eq_true,
      Json.object.injEq, List.cons_append, List.nil_append, List.cons.injEq, Prod.mk.injEq,
      Json.text.injEq, Json.bool.injEq, Json.nat, Json.number.injEq, true_and, and_true] at same
  · obtain ⟨rfl, actions, providers, rfl, durations⟩ := same
    simp only [Action.name_injective actions, ProviderKind.name_injective providers, mk.injEq,
      true_and]
    omega
  · simp at same
  · simp at same
  · obtain ⟨rfl, actions, providers, rfl, lines, durations⟩ := same
    simp only [Action.name_injective actions, ProviderKind.name_injective providers,
      Json.texts_injective lines, mk.injEq, true_and]
    omega

theorem Verdict.toJson_injective {a b : Verdict} (same : a.toJson = b.toJson) : a = b := by
  cases a <;> cases b <;> simp_all [toJson]

theorem Report.toJson_injective {a b : Report} (same : a.toJson = b.toJson) : a = b := by
  rcases a with ⟨runId, started, finished, platform, outcomes, verdict⟩
  rcases b with ⟨runId', started', finished', platform', outcomes', verdict'⟩
  have each {os os' : List Outcome} (same : os.map Outcome.toJson = os'.map Outcome.toJson) :
      os = os' :=
    (List.map_inj_right fun o o' => Outcome.toJson_injective).1 same
  cases finished <;> cases finished' <;>
    simp only [toJson, Json.object.injEq, List.cons_append, List.nil_append, List.cons.injEq,
      Prod.mk.injEq, Json.text.injEq, Json.array.injEq, true_and, and_true] at same
  · obtain ⟨ids, begun, rfl, recorded, verdicts⟩ := same
    rw [RunId.toString_injective ids, Timestamp.toString_injective begun, each recorded,
      Verdict.toJson_injective verdicts]
  · simp at same
  · simp at same
  · obtain ⟨ids, begun, ended, rfl, recorded, verdicts⟩ := same
    rw [RunId.toString_injective ids, Timestamp.toString_injective begun,
      Timestamp.toString_injective ended, each recorded, Verdict.toJson_injective verdicts]

theorem Report.line_injective {a b : Report} (same : a.line = b.line) : a = b :=
  toJson_injective (Json.compact_injective same)

theorem Report.line_printed (r : Report) : ∀ c ∈ r.line.toList, 0x20 ≤ c.toNat := by
  intro c member
  exact Json.printed_render r.toJson c (by simpa [line, Json.compact] using member)

end Converge
