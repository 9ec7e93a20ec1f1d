import Converge.Proofs.Planning

set_option autoImplicit false

namespace Converge

inductive Purpose where
  | query
  | change
  deriving DecidableEq, Repr

structure Issue (ρ : Type) where
  purpose : Purpose
  command : Command
  reply : Response ρ

structure Course (ρ : Type) where
  issues : List (Issue ρ)
  host : Host ρ
  failure : Option ApplyError

abbrev Step := Declaration × Action

def steps (ds : List Declaration) : List Step := ds.flatMap fun d => d.desired.map fun a => (d, a)

variable {ρ : Type}

def Response.succeeded (reply : Response ρ) : Bool :=
  match reply.result with
  | .ok r => r.success
  | .error _ => false

namespace Issue

def failure? (s : Step) (i : Issue ρ) : Option ApplyError :=
  match i.reply.result with
  | .error e => some e
  | .ok r =>
    if i.purpose = .query ∨ r.success = true then none
    else some (.actionFailed s.1.name s.2 r.exitCode (failureText r.stderr))

def succeeded (i : Issue ρ) : Bool := i.reply.succeeded

end Issue

namespace Course

def commands (c : Course ρ) : List Command := c.issues.map (·.command)

def dialogue (c : Course ρ) : List (Command × Response ρ) :=
  c.issues.map fun i => (i.command, i.reply)

def changes (c : Course ρ) : List (Issue ρ) := c.issues.filter (·.purpose == .change)

def lines (c : Course ρ) : List String := c.changes.map (·.command.line)

def result (c : Course ρ) : Except ApplyError Unit :=
  match c.failure with
  | none => .ok ()
  | some e => .error e

-- What the work of a step gives back.
def answer (c : Course ρ) : Except ApplyError (List String) :=
  match c.failure with
  | none => .ok c.lines
  | some e => .error e

def idle (h : Host ρ) : Course ρ := ⟨[], h, none⟩

def alone (s : Step) (i : Issue ρ) : Course ρ := ⟨[i], i.reply.host, i.failure? s⟩

def andThen (c : Course ρ) (next : Host ρ → Course ρ) : Course ρ :=
  match c.failure with
  | some _ => c
  | none => ⟨c.issues ++ (next c.host).issues, (next c.host).host, (next c.host).failure⟩

variable (paths : Paths) (runner : Runner ρ)

def statusCommand (d : Declaration) : Command := ⟨(paths.initScript d.name).text, ["status"]⟩

def actionCommand (d : Declaration) : Action → Command
  | .enable => ⟨"update-rc.d", [d.name, "defaults"]⟩
  | .start => ⟨(paths.initScript d.name).text, ["start"]⟩
  | .stop => (d.stopOverride.bind Command.ofLine?).getD ⟨(paths.initScript d.name).text, ["stop"]⟩
  | .restart => ⟨(paths.initScript d.name).text, ["restart"]⟩

def ask (d : Declaration) (h : Host ρ) : Issue ρ :=
  ⟨.query, statusCommand paths d, runner h (statusCommand paths d)⟩

def attempt (s : Step) (h : Host ρ) : Issue ρ :=
  ⟨.change, actionCommand paths s.1 s.2, runner h (actionCommand paths s.1 s.2)⟩

def change (s : Step) (h : Host ρ) : Course ρ := alone s (attempt paths runner s h)

-- Without a status verb the change is always made.
def changeUnless (settled : Bool) (s : Step) (h : Host ρ) : Course ρ :=
  if s.1.supports .status then
    let asked := ask paths runner s.1 h
    if asked.succeeded = settled then alone s asked
    else (alone s asked).andThen (change paths runner s)
  else change paths runner s h

def step (s : Step) (h : Host ρ) : Course ρ :=
  match s.2 with
  | .enable =>
    if BootLink.present h.files paths.rcRoot s.1.name then idle h else change paths runner s h
  | .start => changeUnless paths runner true s h
  | .stop => changeUnless paths runner false s h
  | .restart => change paths runner s h

def follow : List Step → Host ρ → Course ρ
  | [], h => idle h
  | s :: rest, h => (step paths runner s h).andThen (follow rest)

theorem idle_andThen (h : Host ρ) (next : Host ρ → Course ρ) : (idle h).andThen next = next h := by
  simp [andThen, idle]

theorem andThen_idle (c : Course ρ) : c.andThen idle = c := by
  rcases c with ⟨issues, h, _ | e⟩ <;> simp [andThen, idle]

theorem andThen_assoc (c : Course ρ) (f g : Host ρ → Course ρ) :
    (c.andThen f).andThen g = c.andThen fun h => (f h).andThen g := by
  rcases c with ⟨issues, h, _ | e⟩
  · cases failed : (f h).failure <;> simp [andThen, failed]
  · simp [andThen]

theorem follow_append (xs ys : List Step) (h : Host ρ) :
    follow paths runner (xs ++ ys) h =
      (follow paths runner xs h).andThen (follow paths runner ys) := by
  induction xs generalizing h with
  | nil => simp [follow, idle_andThen]
  | cons s rest ih =>
    -- The courses after `s` differ by their host, so that they are compared as functions.
    have next : follow paths runner (rest ++ ys) =
        fun h => (follow paths runner rest h).andThen (follow paths runner ys) := funext ih
    simp [follow, andThen_assoc, next]

theorem follow_singleton (s : Step) (h : Host ρ) :
    follow paths runner [s] h = step paths runner s h :=
  andThen_idle _

theorem andThen_of_failure {c : Course ρ} {e : ApplyError} (failed : c.failure = some e)
    (next : Host ρ → Course ρ) : c.andThen next = c := by
  simp [andThen, failed]

theorem andThen_of_success {c : Course ρ} (passed : c.failure = none) (next : Host ρ → Course ρ) :
    c.andThen next =
      ⟨c.issues ++ (next c.host).issues, (next c.host).host, (next c.host).failure⟩ := by
  simp [andThen, passed]

theorem ask_passes {s : Step} {h : Host ρ} {r : CommandResult}
    (given : (ask paths runner s.1 h).reply.result = .ok r) :
    (alone s (ask paths runner s.1 h)).failure = none := by
  have query : (ask paths runner s.1 h).purpose = .query := rfl
  simp [alone, Issue.failure?, given, query]

theorem ask_fails {s : Step} {h : Host ρ} {e : ApplyError}
    (given : (ask paths runner s.1 h).reply.result = .error e) :
    (alone s (ask paths runner s.1 h)).failure = some e := by
  simp [alone, Issue.failure?, given]

def outcome (kind : ProviderKind) (s : Step) (h : Host ρ) (c : Course ρ) : Outcome where
  service := s.1.name
  action := s.2
  provider := kind
  changed := !c.lines.isEmpty
  commands := c.lines
  milliseconds := Pass.milliseconds h.clock c.host.clock

-- A step that fails leaves no record, whatever it issued.
def outcomes (kind : ProviderKind) : List Step → Host ρ → List Outcome
  | [], _ => []
  | s :: rest, h =>
    let c := step paths runner s h
    match c.failure with
    | none => outcome kind s h c :: outcomes kind rest c.host
    | some _ => []

theorem outcomes_append (kind : ProviderKind) (xs ys : List Step) (h : Host ρ) :
    outcomes paths runner kind (xs ++ ys) h = outcomes paths runner kind xs h ++
      match (follow paths runner xs h).failure with
      | none => outcomes paths runner kind ys (follow paths runner xs h).host
      | some _ => [] := by
  induction xs generalizing h with
  | nil => simp [outcomes, follow, idle]
  | cons s rest ih =>
    cases failed : (step paths runner s h).failure <;>
      simp [outcomes, follow, andThen, failed, ih]

/-- All that a step can come to, with what decides it. -/
inductive StepCases (s : Step) (h : Host ρ) : Course ρ → Prop where
  | linked (enables : s.2 = .enable)
      (present : BootLink.present h.files paths.rcRoot s.1.name = true) : StepCases s h (idle h)
  | unanswered (switches : s.2 = .start ∨ s.2 = .stop) (asks : s.1.supports .status = true)
      (e : ApplyError) (given : (ask paths runner s.1 h).reply.result = .error e) :
      StepCases s h (alone s (ask paths runner s.1 h))
  | settled (asks : s.1.supports .status = true) (r : CommandResult)
      (given : (ask paths runner s.1 h).reply.result = .ok r)
      (same : s.2 = .start ∧ r.success = true ∨ s.2 = .stop ∧ r.success = false) :
      StepCases s h (alone s (ask paths runner s.1 h))
  | unsettled (asks : s.1.supports .status = true) (r : CommandResult)
      (given : (ask paths runner s.1 h).reply.result = .ok r)
      (differs : s.2 = .start ∧ r.success = false ∨ s.2 = .stop ∧ r.success = true) :
      StepCases s h ((alone s (ask paths runner s.1 h)).andThen (change paths runner s))
  | unasked (reason : s.2 = .enable ∧ BootLink.present h.files paths.rcRoot s.1.name = false ∨
        (s.2 = .start ∨ s.2 = .stop) ∧ s.1.supports .status = false ∨ s.2 = .restart) :
      StepCases s h (change paths runner s h)

theorem changeUnless_cases (settled : Bool) (s : Step) (h : Host ρ)
    (switches : s.2 = if settled then .start else .stop) :
    StepCases paths runner s h (changeUnless paths runner settled s h) := by
  have action : s.2 = .start ∨ s.2 = .stop := by cases settled <;> simp [switches]
  unfold changeUnless
  by_cases asks : s.1.supports .status = true
  · simp only [asks, if_true]
    cases given : (ask paths runner s.1 h).reply.result with
    | error e =>
      rw [andThen_of_failure (ask_fails paths runner given), ite_self]
      exact .unanswered action asks e given
    | ok r =>
      have told : (ask paths runner s.1 h).succeeded = r.success := by
        simp [Issue.succeeded, Response.succeeded, given]
      rw [told]
      split
      next same => exact .settled asks r given (by cases settled <;> simp_all)
      next differs => exact .unsettled asks r given (by cases settled <;> simp_all)
  · simp only [asks]
    exact .unasked (.inr (.inl ⟨action, by simpa using asks⟩))

theorem step_cases (s : Step) (h : Host ρ) :
    StepCases paths runner s h (step paths runner s h) := by
  rcases s with ⟨d, _ | _ | _ | _⟩
  · simp only [step]
    split
    next present => exact .linked rfl present
    next absent => exact .unasked (.inl ⟨rfl, by simpa using absent⟩)
  · exact changeUnless_cases paths runner true _ h rfl
  · exact changeUnless_cases paths runner false _ h rfl
  · exact .unasked (.inr (.inr rfl))

-- What holds of single commands and is kept by joining courses holds of every course.
theorem follow_induct {P : Host ρ → Course ρ → Prop} (still : ∀ h, P h (idle h))
    (asks : ∀ s h, P h (alone s (ask paths runner s.1 h)))
    (acts : ∀ s h, P h (change paths runner s h))
    (joins : ∀ h c next, P h c → (∀ h', P h' (next h')) → P h (c.andThen next))
    (ss : List Step) (h : Host ρ) : P h (follow paths runner ss h) := by
  have one (s : Step) (h : Host ρ) : P h (step paths runner s h) := by
    have shape := step_cases paths runner s h
    generalize step paths runner s h = c at shape ⊢
    cases shape with
    | linked => exact still h
    | unanswered => exact asks s h
    | settled => exact asks s h
    | unsettled => exact joins _ _ _ (asks s h) (acts s)
    | unasked => exact acts s h
  induction ss generalizing h with
  | nil => exact still h
  | cons s rest ih => exact joins _ _ _ (one s h) ih

-- Each command meets the host that the last one left.
def exchanges : Host ρ → List Command → List (Command × Response ρ)
  | _, [] => []
  | h, c :: rest => (c, runner h c) :: exchanges (runner h c).host rest

def hostAfter (h : Host ρ) (cs : List Command) : Host ρ :=
  cs.foldl (fun h c => (runner h c).host) h

theorem exchanges_append (h : Host ρ) (xs ys : List Command) :
    exchanges runner h (xs ++ ys) =
      exchanges runner h xs ++ exchanges runner (hostAfter runner h xs) ys := by
  induction xs generalizing h with
  | nil => rfl
  | cons c rest ih => simp [exchanges, hostAfter, ih]

theorem follow_exchanges (ss : List Step) (h : Host ρ) :
    exchanges runner h (follow paths runner ss h).commands = (follow paths runner ss h).dialogue ∧
      hostAfter runner h (follow paths runner ss h).commands = (follow paths runner ss h).host := by
  apply follow_induct paths runner (P := fun h c =>
    exchanges runner h c.commands = c.dialogue ∧ hostAfter runner h c.commands = c.host)
  · exact fun h => ⟨rfl, rfl⟩
  · exact fun s h => ⟨rfl, rfl⟩
  · exact fun s h => ⟨rfl, rfl⟩
  · rintro h c next ⟨told, left⟩ rest
    cases failed : c.failure with
    | some e =>
      rw [andThen_of_failure failed]
      exact ⟨told, left⟩
    | none =>
      obtain ⟨toldNext, leftNext⟩ := rest c.host
      simp only [andThen_of_success failed, commands, dialogue, List.map_append] at *
      constructor
      · rw [exchanges_append, told, left, toldNext]
      · rw [← leftNext, ← left, hostAfter, List.foldl_append]
        rfl

end Course

namespace Issue

/-- Whether nothing follows an issue: the runner gave an error, or a change did not succeed. -/
def Stops (i : Issue ρ) : Prop :=
  match i.reply.result with
  | .error _ => True
  | .ok r => i.purpose = .change ∧ r.success = false

theorem failure?_eq_none_iff (s : Step) (i : Issue ρ) : i.failure? s = none ↔ ¬ i.Stops := by
  unfold failure? Stops
  cases i.reply.result <;> cases i.purpose <;> simp

theorem passes_iff_of_change (s : Step) (i : Issue ρ) (purpose : i.purpose = .change) :
    i.failure? s = none ↔ i.succeeded = true := by
  unfold failure? succeeded Response.succeeded
  cases i.reply.result <;> simp [purpose]

end Issue

namespace Course

-- A course that fails ends with the only issue that stops it.
def StopsAtFailure (c : Course ρ) : Prop :=
  match c.failure with
  | none => ∀ i ∈ c.issues, ¬ i.Stops
  | some _ => ∃ passed last, c.issues = passed ++ [last] ∧ (∀ i ∈ passed, ¬ i.Stops) ∧ last.Stops

theorem alone_stopsAtFailure (s : Step) (i : Issue ρ) : (alone s i).StopsAtFailure := by
  have stops := Issue.failure?_eq_none_iff s i
  unfold StopsAtFailure
  split
  next passed => simpa [alone] using stops.1 passed
  next e failed =>
    refine ⟨[], i, rfl, by simp, ?_⟩
    by_contra passes
    simp [alone, stops.2 passes] at failed

theorem andThen_stopsAtFailure {c : Course ρ} {next : Host ρ → Course ρ}
    (first : c.StopsAtFailure) (rest : ∀ h, (next h).StopsAtFailure) :
    (c.andThen next).StopsAtFailure := by
  cases failed : c.failure with
  | some e => rwa [andThen_of_failure failed]
  | none =>
    have second := rest c.host
    rw [andThen_of_success failed]
    simp only [StopsAtFailure, failed] at first second ⊢
    cases stopped : (next c.host).failure with
    | none =>
      simp only [stopped, List.mem_append] at second ⊢
      rintro i (member | member)
      · exact first i member
      · exact second i member
    | some e =>
      simp only [stopped] at second ⊢
      obtain ⟨passed, last, parts, before, stops⟩ := second
      refine ⟨c.issues ++ passed, last, by simp [parts], ?_, stops⟩
      simp only [List.mem_append]
      rintro i (member | member)
      · exact first i member
      · exact before i member

theorem follow_stopsAtFailure (paths : Paths) (runner : Runner ρ) (ss : List Step) (h : Host ρ) :
    (follow paths runner ss h).StopsAtFailure := by
  apply follow_induct paths runner (P := fun _ c => c.StopsAtFailure)
  · intro h
    simp [StopsAtFailure, idle]
  · exact fun s h => alone_stopsAtFailure s _
  · exact fun s h => alone_stopsAtFailure s _
  · exact fun _ _ _ first rest => andThen_stopsAtFailure first rest

end Course

end Converge
