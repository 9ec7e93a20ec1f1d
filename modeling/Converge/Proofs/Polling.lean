import Mathlib.Data.List.Chain
import Converge.Execution.Run

set_option autoImplicit false

namespace Converge.Execution

variable {σ : Type}

namespace Poll

/-- An end and a failure decide at any time, a process that runs only from the deadline on. -/
def Decides (deadline : Nat) (poll : Poll σ) : Prop := poll.seen = .running → deadline ≤ poll.clock

def outcome (poll : Poll σ) : Ending σ :=
  match poll.seen with
  | .exited status => .exited status
  | .running => .timedOut
  | .unknown reason => .lost reason

theorem seen_of_outcome {poll : Poll σ} (timedOut : poll.outcome = .timedOut) :
    poll.seen = .running := by
  unfold outcome at timedOut
  split at timedOut
  case h_2 shown => exact shown
  all_goals cases timedOut

/-- The next look at a running process comes a poll interval later or more. -/
def Paced (a b : Poll σ) : Prop :=
  a.seen = .running → b.seen = .running → a.clock + pollInterval ≤ b.clock

end Poll

def Ending.orders : Ending σ → List Order
  | .timedOut => [.kill, .reap]
  | .exited _ | .lost _ => []

theorem Ending.count_kill_le (ending : Ending σ) : ending.orders.count .kill ≤ 1 := by
  cases ending <;> simp [orders]

theorem Ending.kill_mem_iff (ending : Ending σ) : .kill ∈ ending.orders ↔ ending = .timedOut := by
  cases ending <;> simp [orders]

variable {deadline : Nat} {looks : List (Poll σ)}

theorem waitUntil_of_decides {poll : Poll σ} (decides : poll.Decides deadline) :
    waitUntil deadline (poll :: looks) = some ⟨poll.outcome, poll.outcome.orders, 1⟩ := by
  rw [waitUntil, Poll.outcome]
  cases shown : poll.seen with
  | exited status => rfl
  | unknown reason => rfl
  | running => exact if_pos (decides shown)

theorem waitUntil_of_waits {poll : Poll σ} (waits : ¬ poll.Decides deadline) :
    waitUntil deadline (poll :: looks) =
      (waitUntil deadline looks).map fun w => { w with polls := w.polls + 1 } := by
  obtain ⟨shown, early⟩ : poll.seen = .running ∧ ¬ deadline ≤ poll.clock := by
    simpa [Poll.Decides] using waits
  rw [waitUntil, shown]
  exact if_neg early

theorem waitUntil_eq_none_iff :
    waitUntil deadline looks = none ↔ ∀ poll ∈ looks, ¬ poll.Decides deadline := by
  induction looks with
  | nil => simp [waitUntil]
  | cons poll rest ih =>
    rw [List.forall_mem_cons]
    by_cases decides : poll.Decides deadline
    · simp [waitUntil_of_decides decides, decides]
    · simp [waitUntil_of_waits decides, decides, ih]

theorem waitUntil_first {before after : List (Poll σ)} {poll : Poll σ}
    (waits : ∀ earlier ∈ before, ¬ earlier.Decides deadline) (decides : poll.Decides deadline) :
    waitUntil deadline (before ++ poll :: after) =
      some ⟨poll.outcome, poll.outcome.orders, before.length + 1⟩ := by
  induction before with
  | nil => exact waitUntil_of_decides decides
  | cons first before ih =>
    have later := ih fun earlier member => waits earlier (.tail _ member)
    rw [List.cons_append, waitUntil_of_waits (waits first (.head _)), later]
    rfl

theorem waitUntil_eq_some_iff (w : Waited σ) :
    waitUntil deadline looks = some w ↔
      ∃ before poll after, looks = before ++ poll :: after ∧
        (∀ earlier ∈ before, ¬ earlier.Decides deadline) ∧ poll.Decides deadline ∧
        w = ⟨poll.outcome, poll.outcome.orders, before.length + 1⟩ := by
  constructor
  · intro waited
    induction looks generalizing w with
    | nil => cases waited
    | cons poll rest ih =>
      by_cases decides : poll.Decides deadline
      · rw [waitUntil_of_decides decides] at waited
        exact ⟨[], poll, rest, rfl, by simp, decides, (Option.some.inj waited).symm⟩
      · rw [waitUntil_of_waits decides] at waited
        obtain ⟨later, follows, rfl⟩ := Option.map_eq_some_iff.1 waited
        obtain ⟨before, last, after, rfl, waits, ends, rfl⟩ := ih later follows
        exact ⟨poll :: before, last, after, rfl, List.forall_mem_cons.2 ⟨decides, waits⟩, ends, rfl⟩
  · rintro ⟨before, poll, after, rfl, waits, decides, rfl⟩
    exact waitUntil_first waits decides

-- Looks that do not decide all come before the deadline, a poll interval apart.
theorem length_undecided_le {first : Poll σ} {rest : List (Poll σ)}
    (paced : (first :: rest).IsChain Poll.Paced)
    (waits : ∀ poll ∈ first :: rest, ¬ poll.Decides deadline) :
    (first :: rest).length ≤ (deadline - first.clock) / pollInterval + 1 := by
  induction rest generalizing first with
  | nil => simp
  | cons second rest ih =>
    obtain ⟨apart, later⟩ := List.isChain_cons_cons.1 paced
    have early {poll : Poll σ} (member : poll ∈ first :: second :: rest) :
        poll.seen = .running ∧ poll.clock < deadline := by
      simpa [Poll.Decides] using waits poll member
    obtain ⟨runs, -⟩ := early (.head _)
    obtain ⟨stillRuns, before⟩ := early (.tail _ (.head _))
    have gap := apart runs stillRuns
    have tail := ih later fun poll member => waits poll (.tail _ member)
    calc (first :: second :: rest).length
        = (second :: rest).length + 1 := rfl
      _ ≤ (deadline - second.clock) / pollInterval + 1 + 1 := Nat.succ_le_succ tail
      _ = (deadline - second.clock + pollInterval) / pollInterval + 1 := by
        rw [Nat.add_div_right _ (by decide)]
      _ ≤ (deadline - first.clock) / pollInterval + 1 := by
        refine Nat.succ_le_succ (Nat.div_le_div_right ?_)
        omega

theorem polls_le {first : Poll σ} {rest : List (Poll σ)} {w : Waited σ}
    (paced : (first :: rest).IsChain Poll.Paced)
    (waited : waitUntil deadline (first :: rest) = some w) :
    w.polls ≤ (deadline - first.clock) / pollInterval + 2 := by
  obtain ⟨before, poll, after, parts, waits, -, rfl⟩ := (waitUntil_eq_some_iff w).1 waited
  cases before with
  | nil => simp
  | cons a before =>
    rw [parts] at paced
    obtain rfl : first = a := (List.cons.inj parts).1
    exact Nat.succ_le_succ (length_undecided_le paced.left_of_append waits)

section

variable {ρ : Type} (ps : Processes ρ) (process : Nat)

def Processes.poll (w : World ρ) : Poll (Option Int) :=
  ⟨(ps.look process w).1, (ps.look process w).2.clock⟩

/-- Looks at a process with a nap between them, and the world after the last one. -/
inductive Processes.Watched : World ρ → List (Poll (Option Int)) → World ρ → Prop where
  | last (w : World ρ) : Watched w [ps.poll process w] (ps.look process w).2
  | again {w after : World ρ} {looks : List (Poll (Option Int))}
      (later : Watched (ps.sleep pollInterval (ps.look process w).2) looks after) :
      Watched w (ps.poll process w :: looks) after

variable {ps process}

theorem Processes.Watched.eq_cons {w after : World ρ} {looks : List (Poll (Option Int))}
    (watched : ps.Watched process w looks after) : ∃ rest, looks = ps.poll process w :: rest := by
  cases watched <;> exact ⟨_, rfl⟩

section

variable {before : List (Poll (Option Int))} {last : Poll (Option Int)} {w after : World ρ}
  (watched : ps.Watched process w (before ++ [last]) after)

include watched

theorem Processes.Watched.of_decides (decides : (ps.poll process w).Decides deadline)
    (waits : ∀ earlier ∈ before, ¬ earlier.Decides deadline) :
    last = ps.poll process w ∧ after = (ps.look process w).2 := by
  generalize row : before ++ [last] = looks at watched
  cases watched with
  | last =>
    obtain ⟨-, rfl⟩ : before = [] ∧ last = ps.poll process w := by
      simpa [List.append_eq_singleton_iff] using row
    exact ⟨rfl, rfl⟩
  | again later =>
    obtain ⟨rest, rfl⟩ := later.eq_cons
    cases before with
    | nil => simp at row
    | cons first before =>
      obtain ⟨rfl, -⟩ := List.cons.inj row
      exact absurd decides (waits _ (.head _))

theorem Processes.Watched.of_waits (waits : ¬ (ps.poll process w).Decides deadline)
    (decides : last.Decides deadline) :
    ∃ rest, before = ps.poll process w :: rest ∧
      ps.Watched process (ps.sleep pollInterval (ps.look process w).2) (rest ++ [last]) after := by
  generalize row : before ++ [last] = looks at watched
  cases watched with
  | last =>
    obtain ⟨-, rfl⟩ : before = [] ∧ last = ps.poll process w := by
      simpa [List.append_eq_singleton_iff] using row
    exact absurd decides waits
  | again later =>
    obtain ⟨others, rfl⟩ := later.eq_cons
    cases before with
    | nil => simp at row
    | cons first before =>
      obtain ⟨rfl, tails⟩ := List.cons.inj row
      exact ⟨before, rfl, (show before ++ [last] = _ from tails) ▸ later⟩

end

theorem Processes.Watched.paced {w after : World ρ} {looks : List (Poll (Option Int))}
    (watched : ps.Watched process w looks after) : looks.IsChain Poll.Paced := by
  induction watched with
  | last w => exact .singleton _
  | @again w after looks later ih =>
    have apart : Poll.Paced (ps.poll process w)
        (ps.poll process (ps.sleep pollInterval (ps.look process w).2)) := by
      intro _ _
      exact (ps.clock_le_sleep pollInterval _).trans (ps.clock_le_look process _)
    obtain ⟨rest, rfl⟩ := later.eq_cons
    exact .cons_cons apart ih

variable (ps process deadline)

theorem await_watched (w : World ρ) :
    ∃ looks, ps.Watched process w looks (await ps process deadline w).2 ∧
      waitUntil deadline looks = some (await ps process deadline w).1 ∧
      looks.length = (await ps process deadline w).1.polls := by
  fun_induction await ps process deadline w with
  | case1 w seen exitCode shown =>
    refine ⟨_, .last w, ?_⟩
    rw [waitUntil_of_decides fun runs => by simp [Processes.poll, shown] at runs]
    simp [Poll.outcome, Processes.poll, shown, Ending.orders]
  | case2 w seen reason shown =>
    refine ⟨_, .last w, ?_⟩
    rw [waitUntil_of_decides fun runs => by simp [Processes.poll, shown] at runs]
    simp [Poll.outcome, Processes.poll, shown, Ending.orders]
  | case3 w seen shown late =>
    refine ⟨_, .last w, ?_⟩
    rw [waitUntil_of_decides fun _ => late]
    simp [Poll.outcome, Processes.poll, shown, Ending.orders]
  | case4 w seen shown early waited after next ih =>
    obtain ⟨looks, watched, answer, count⟩ := ih
    rw [next] at watched answer count
    have waits : ¬ (ps.poll process w).Decides deadline := fun decides => early (decides shown)
    refine ⟨_, .again watched, ?_, congrArg Nat.succ count⟩
    rw [waitUntil_of_waits waits, answer]
    rfl

theorem await_decided (w : World ρ) :
    ∃ before last, ps.Watched process w (before ++ [last]) (await ps process deadline w).2 ∧
      (∀ earlier ∈ before, ¬ earlier.Decides deadline) ∧ last.Decides deadline ∧
      (await ps process deadline w).1 = ⟨last.outcome, last.outcome.orders, before.length + 1⟩ := by
  obtain ⟨looks, watched, answer, count⟩ := await_watched deadline ps process w
  obtain ⟨before, last, after, rfl, waits, decides, waited⟩ := (waitUntil_eq_some_iff _).1 answer
  obtain rfl : after = [] := by
    simpa [waited] using count
  exact ⟨before, last, watched, waits, decides, waited⟩

theorem await_polls_le (w : World ρ) :
    (await ps process deadline w).1.polls ≤ (deadline - w.clock) / pollInterval + 2 := by
  obtain ⟨looks, watched, answer, -⟩ := await_watched deadline ps process w
  obtain ⟨rest, rfl⟩ := watched.eq_cons
  have few := polls_le watched.paced answer
  have later : w.clock ≤ (ps.poll process w).clock := ps.clock_le_look process w
  have sooner : (deadline - (ps.poll process w).clock) / pollInterval ≤
      (deadline - w.clock) / pollInterval := Nat.div_le_div_right (by omega)
  omega

def Processes.carryOut (orders : List Order) (w : World ρ) : World ρ :=
  orders.foldl (fun w order => (ps.order order process w).2) w

theorem obey_snd (orders : List Order) (w : World ρ) :
    (obey ps process orders w).2 = ps.carryOut process orders w := by
  induction orders generalizing w with
  | nil => rfl
  | cons order rest ih =>
    have later := ih (ps.order order process w).2
    simp only [obey]
    split <;> exact later

-- The orders are carried out, and then the end is told, unless the grace that an ended process gets
-- would be beyond the clock.
theorem conclude_told (timeout start : Nat) (host : Host ρ) (c : Command)
    (waited : Waited (Option Int)) (w : World ρ) :
    let response := conclude ps timeout start deadline host c process waited w
    let left := ps.carryOut process waited.orders w
    match waited.ending.told timeout with
    | .error e => response.result = .error e ∧ response.host = { host with toWorld := left }
    | .ok status =>
      match later? left.clock grace with
      | some _ => response.host.crash = host.crash ∧
          ∃ r, response.result = .ok r ∧ r.exitCode = status ∧ r.success = (status == some 0)
      | none => response.host = { toWorld := left, crash := some ⟨gracePlace, overflow⟩ } := by
  intro response left
  have carried : (obey ps process waited.orders w).2 = left := obey_snd ps process waited.orders w
  simp only [response, conclude, carried]
  cases waited.ending.told timeout with
  | error e => exact ⟨rfl, rfl⟩
  | ok status =>
    generalize later? left.clock grace = due
    cases due with
    | none => rfl
    | some graceEnd => exact ⟨rfl, _, rfl, rfl, rfl⟩

end

/-- The clock may go as it likes, but for the number of looks. -/
theorem first_deciding_look_counts (deadline : Nat) (looks : List (Poll σ)) :
    (waitUntil deadline looks = none ↔ ∀ poll ∈ looks, ¬ poll.Decides deadline) ∧
    (∀ w, waitUntil deadline looks = some w ↔
      ∃ before poll after, looks = before ++ poll :: after ∧
        (∀ earlier ∈ before, ¬ earlier.Decides deadline) ∧ poll.Decides deadline ∧
        w = ⟨poll.outcome, poll.outcome.orders, before.length + 1⟩) ∧
    (∀ w, waitUntil deadline looks = some w →
      (∀ poll ∈ looks.take w.polls, ∀ status, poll.seen = .exited status →
        w.ending = .exited status) ∧
      (w.ending = .timedOut → w.orders = [.kill, .reap] ∧
        ∃ poll ∈ looks.take w.polls, poll.seen = .running ∧ deadline ≤ poll.clock) ∧
      w.orders.count .kill ≤ 1 ∧ (.kill ∈ w.orders → w.ending = .timedOut)) ∧
    (looks.IsChain Poll.Paced → ∀ first ∈ looks.head?,
      (∀ w, waitUntil deadline looks = some w →
        w.polls ≤ (deadline - first.clock) / pollInterval + 2) ∧
      ((deadline - first.clock) / pollInterval + 2 ≤ looks.length →
        (waitUntil deadline looks).isSome)) ∧
    ∀ {ρ : Type} (ps : Processes ρ) (process : Nat) (w : World ρ),
      (∃ looks, ps.Watched process w looks (await ps process deadline w).2 ∧
        waitUntil deadline looks = some (await ps process deadline w).1 ∧
        looks.length = (await ps process deadline w).1.polls) ∧
      (await ps process deadline w).1.polls ≤ (deadline - w.clock) / pollInterval + 2 ∧
      ∀ (timeout start : Nat) (host : Host ρ) (c : Command) (waited : Waited (Option Int)),
        let response := conclude ps timeout start deadline host c process waited w
        let left := ps.carryOut process waited.orders w
        match waited.ending.told timeout with
        | .error e => response.result = .error e ∧ response.host = { host with toWorld := left }
        | .ok status =>
          match later? left.clock grace with
          | some _ => response.host.crash = host.crash ∧
              ∃ r, response.result = .ok r ∧ r.exitCode = status ∧ r.success = (status == some 0)
          | none =>
              response.host = { toWorld := left, crash := some ⟨gracePlace, overflow⟩ } := by
  refine ⟨waitUntil_eq_none_iff, waitUntil_eq_some_iff, ?_, ?_, ?_⟩
  · intro w waited
    obtain ⟨before, poll, after, rfl, waits, decides, rfl⟩ := (waitUntil_eq_some_iff w).1 waited
    have seen : (before ++ poll :: after).take (before.length + 1) = before ++ [poll] := by
      rw [List.take_length_add_append, List.take_succ_cons, List.take_zero]
    rw [seen]
    refine ⟨?_, ?_, poll.outcome.count_kill_le, poll.outcome.kill_mem_iff.1⟩
    · intro look member status shown
      rcases List.mem_append.1 member with early | last
      · exact absurd (fun runs => by simp [shown] at runs) (waits look early)
      · obtain rfl := List.mem_singleton.1 last
        simp only [Poll.outcome, shown]
    · intro timedOut
      have runs := Poll.seen_of_outcome timedOut
      exact ⟨congrArg Ending.orders timedOut, poll, by simp, runs, decides runs⟩
  · intro paced first here
    obtain ⟨rest, rfl⟩ := List.head?_eq_some_iff.1 here
    refine ⟨fun w waited => polls_le paced waited, fun long => ?_⟩
    rw [Option.isSome_iff_ne_none]
    intro waits
    have short := length_undecided_le paced (waitUntil_eq_none_iff.1 waits)
    omega
  · intro ρ ps process w
    exact ⟨await_watched deadline ps process w, await_polls_le deadline ps process w,
      fun timeout start host c waited => conclude_told deadline ps process timeout start host c waited w⟩

-- An end that shows only after the deadline still counts.
theorem first_deciding_look_counts_late :
    let looks : List (Poll Nat) :=
      [⟨.running, 0⟩, ⟨.running, pollInterval⟩, ⟨.exited 3, 9 * pollInterval⟩]
    let w : Waited Nat := ⟨.exited 3, [], 3⟩
    waitUntil (2 * pollInterval) looks = some w ∧ looks.IsChain Poll.Paced ∧
      w.polls ≤ 2 * pollInterval / pollInterval + 2 := by
  intro looks w
  obtain ⟨-, answer, -, bound, -⟩ := first_deciding_look_counts (2 * pollInterval) looks
  have waited : waitUntil (2 * pollInterval) looks = some w := by
    refine (answer w).2 ⟨[⟨.running, 0⟩, ⟨.running, pollInterval⟩], _, [], rfl, ?_, ?_, rfl⟩
    · simp [Poll.Decides, pollInterval]
    · simp [Poll.Decides]
  have paced : looks.IsChain Poll.Paced := by
    simp [looks, Poll.Paced]
  exact ⟨waited, paced, (bound paced _ rfl).1 w waited⟩

end Converge.Execution
