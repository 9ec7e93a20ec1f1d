import Converge.Proofs.CommandSequence
import Converge.Proofs.Effects

set_option autoImplicit false

namespace Converge

variable {ρ : Type}

open Course

/-- The issues that a step can come to. Only a step that starts or stops a service asks for its
status. -/
inductive Issue.Serves (paths : Paths) (s : Step) (i : Issue ρ) : Prop where
  | query (purpose : i.purpose = .query) (command : i.command = statusCommand paths s.1)
      (asks : s.1.supports .status = true) (switches : s.2 = .start ∨ s.2 = .stop)
  | change (purpose : i.purpose = .change) (command : i.command = actionCommand paths s.1 s.2)

namespace Course

variable (paths : Paths) (runner : Runner ρ)

theorem step_serves (s : Step) (h : Host ρ) :
    ∀ i ∈ (step paths runner s h).issues, i.Serves paths s := by
  have shape := step_cases paths runner s h
  generalize step paths runner s h = c at shape ⊢
  cases shape with
  | linked => simp [idle]
  | unanswered switches asks =>
    simpa [alone] using Issue.Serves.query rfl rfl asks switches
  | settled asks r given same =>
    have switches : s.2 = .start ∨ s.2 = .stop := same.imp And.left And.left
    simpa [alone] using Issue.Serves.query rfl rfl asks switches
  | unsettled asks r given differs =>
    have switches : s.2 = .start ∨ s.2 = .stop := differs.imp And.left And.left
    rw [andThen_of_success (ask_passes paths runner given)]
    simp only [alone, change, List.mem_append, List.mem_singleton]
    rintro i (rfl | rfl)
    · exact .query rfl rfl asks switches
    · exact .change rfl rfl
  | unasked => simpa [change, alone] using Issue.Serves.change rfl rfl

end Course

/-- The program that a command names for a script. A program is a text, so that a directory that is
no text is only shown in it, and then another file is meant. -/
structure Paths.Names (paths : Paths) (service program : String) : Prop where
  joined : program = (paths.initScript service).text
  parts : program = paths.initDir.text ++
    (if paths.initDir.octets.getLast? = some Path.slash then "" else "/") ++ service
  exact : OsString.ofText program = paths.initScript service ↔
    ∃ directory : String, paths.initDir = OsString.ofText directory

namespace Permitted

variable {paths : Paths} {platform : String} {hasScript : String → Bool} {d : Declaration}

end Permitted

namespace Pass

end Pass

namespace Sample

-- Only `db` runs, and every change succeeds.
def willing : Runner Unit := fun h c =>
  { result := .ok (.ofExitCode (if c = ⟨"/etc/init.d/web", ["status"]⟩ then 3 else 0)), host := h }

theorem follow_steps (runner : Runner Unit) :
    follow {} runner (steps [web, db]) host =
      (change {} runner (web, .enable) host).andThen
        (follow {} runner [(web, .start), (db, .stop)]) := by
  rw [← step_web_enable runner rfl]
  rfl

end Sample

namespace Pass

open Sample

end Pass

end Converge
