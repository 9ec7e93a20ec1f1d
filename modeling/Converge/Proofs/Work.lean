import Converge.Pass

set_option autoImplicit false

namespace Converge.Work

variable {ρ : Type} {α β : Type}

theorem run_bind (w : Work ρ α) (f : α → Work ρ β) (p : Progress ρ) :
    (w >>= f).run p =
      match w.run p with
      | (.ok a, q) => (f a).run q
      | (.error e, q) => (.error e, q) := by
  change (match w.run p with | (r, q) => ExceptT.bindCont f r q) = _
  rcases w.run p with ⟨_ | _, q⟩ <;> rfl

-- From every progress on `h`, the work ends with `r` on `h'`.
def Ends (w : Work ρ α) (h : Host ρ) (r : Except ApplyError α) (h' : Host ρ)
    (issued : List Command) (recorded : List Outcome) : Prop :=
  ∀ p : Progress ρ, p.host = h → ∃ said, w.run p =
    (r, { host := h', issued := p.issued ++ issued, outcomes := p.outcomes ++ recorded,
          events := p.events ++ said })

theorem ends_pure (a : α) (h : Host ρ) : Ends (pure a) h (.ok a) h [] [] := by
  rintro p rfl
  exact ⟨[], by simp; rfl⟩

theorem ends_throw (e : ApplyError) (h : Host ρ) :
    Ends (throw e : Work ρ α) h (.error e) h [] [] := by
  rintro p rfl
  exact ⟨[], by simp; rfl⟩

theorem ends_host (h : Host ρ) : Ends host h (.ok h) h [] [] := by
  rintro p rfl
  exact ⟨[], by simp; rfl⟩

theorem ends_tell (events : List LogEvent) (h : Host ρ) :
    Ends (modify fun p => { p with events := p.events ++ events }) h (.ok ()) h [] [] := by
  rintro p rfl
  exact ⟨events, by simp; rfl⟩

theorem ends_say (level : Log.Level) (source : Log.Source) (message : String)
    (fields : List (String × Json)) (h : Host ρ) :
    Ends (say level source message fields) h (.ok ()) h [] [] :=
  ends_tell _ h

theorem ends_record (o : Outcome) (h : Host ρ) : Ends (record o) h (.ok ()) h [] [o] := by
  rintro p rfl
  exact ⟨[], by simp; rfl⟩

theorem ends_issue (runner : Runner ρ) (c : Command) (h : Host ρ) :
    Ends (issue runner c) h (runner h c).result (runner h c).host [c] [] := by
  rintro p rfl
  refine ⟨(runner p.host c).events, ?_⟩
  have here : (get : Work ρ (Progress ρ)).run p = (.ok p, p) := rfl
  have put (q : Progress ρ) : (set q : Work ρ PUnit).run p = (.ok ⟨⟩, q) := rfl
  rw [issue, run_bind, here]
  simp only [run_bind, put, List.append_nil]
  cases (runner p.host c).result <;> rfl

theorem Ends.bind {w : Work ρ α} {f : α → Work ρ β} {h h₁ h₂ : Host ρ} {a : α}
    {r : Except ApplyError β} {cs₁ cs₂ : List Command} {os₁ os₂ : List Outcome}
    (first : Ends w h (.ok a) h₁ cs₁ os₁) (next : Ends (f a) h₁ r h₂ cs₂ os₂) :
    Ends (w >>= f) h r h₂ (cs₁ ++ cs₂) (os₁ ++ os₂) := by
  intro p here
  obtain ⟨said₁, run₁⟩ := first p here
  obtain ⟨said₂, run₂⟩ := next ⟨h₁, p.issued ++ cs₁, p.outcomes ++ os₁, p.events ++ said₁⟩ rfl
  exact ⟨said₁ ++ said₂, by simp [run_bind, run₁, run₂]⟩

theorem Ends.bind_error {w : Work ρ α} {h h' : Host ρ} {e : ApplyError} {cs : List Command}
    {os : List Outcome} (first : Ends w h (.error e) h' cs os) (f : α → Work ρ β) :
    Ends (w >>= f) h (.error e) h' cs os := by
  intro p here
  obtain ⟨said, run⟩ := first p here
  exact ⟨said, by simp [run_bind, run]⟩

theorem Ends.after {w : Work ρ α} {f : α → Work ρ β} {h h₁ h₂ : Host ρ} {a : α}
    {r : Except ApplyError β} {cs : List Command} {os : List Outcome}
    (first : Ends w h (.ok a) h₁ [] []) (next : Ends (f a) h₁ r h₂ cs os) :
    Ends (w >>= f) h r h₂ cs os :=
  first.bind next

theorem Ends.before {w : Work ρ α} {f : α → Work ρ β} {h h₁ h₂ : Host ρ} {a : α}
    {r : Except ApplyError β} {cs : List Command} {os : List Outcome}
    (first : Ends w h (.ok a) h₁ cs []) (next : Ends (f a) h₁ r h₂ [] os) :
    Ends (w >>= f) h r h₂ cs os := by
  simpa using first.bind next

end Converge.Work

namespace Converge.Pass

variable {ρ : Type}

theorem apply_of_ends {paths : Paths} {runner : Runner ρ} {platform : String}
    {ds : List Declaration} {host left : Host ρ} {result : Except ApplyError Unit}
    {issued : List Command} {recorded : List Outcome}
    (ends : Work.Ends (work paths runner platform ds) host result left issued recorded)
    (runId : RunId) :
    let ending := apply paths runner runId platform ds host
    ending.result = result ∧ ending.issued = issued ∧ ending.host = left ∧
      ending.report = { Report.start runId ⟨host.wall⟩ platform with
        outcomes := recorded }.close ⟨left.wall⟩ result := by
  obtain ⟨said, run⟩ := ends { host := host } rfl
  simp [apply, run]

theorem work_ends_of_unplanned {paths : Paths} {platform : String} {ds : List Declaration}
    {host : Host ρ} {e : ApplyError}
    (refused : Plan.make paths host.files platform ds = .error e) (runner : Runner ρ) :
    Work.Ends (work paths runner platform ds) host (.error e) host [] [] := by
  apply (Work.ends_host host).after
  apply (Work.ends_tell _ host).after
  rw [refused]
  exact Work.ends_throw e host

end Converge.Pass
