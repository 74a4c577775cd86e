/-
# Courier.Proofs.Circuit.Outcomes -- a circuit moves as the recorded outcomes say

A breaker keeps two counters; what they ought to hold can be told without them, from
the outcomes recorded since the circuit last changed its state
(`outcomesSinceMove`).  `Faithful` is the simulation between the two: a closed circuit
holds the length of the trailing run of failures, a half-open one the number of
successes, and neither has reached its threshold.  Whatever else the counters hold --
failures recorded while open, successes left over from a relapse -- is overwritten
before it is looked at.

An event is one of three things to the counters (`Turn`): nothing, the beginning of a
half-open period, or an outcome.  One turn keeps a breaker faithful
(`Turn.faithful`) and moves it exactly where the outcomes say (`Turn.moves_of_closed`,
`Turn.moves_of_half`), and so does every event of every history
(`moves_follow_outcomes`).
-/
import Courier.Proofs.Circuit.Step
import Mathlib.Data.List.DropRight

namespace Courier.Circuit.Overlap

set_option autoImplicit false

/-! ## What a history records -/

/-- The outcome an event records: that of a pending call that ends. -/
def recorded? (o : Overlap) : Event → Option Bool
  | .finish call success _ => (o.permit? call).map fun _ => success
  | _ => none

/-- The situation after an event, with the outcomes recorded since the last move. -/
def record (c : Config) (sofar : Overlap × List Bool) (event : Event) : Overlap × List Bool :=
  let next := (sofar.1.step c event).1
  (next,
    if next.breaker.state = sofar.1.breaker.state then
      sofar.2 ++ (sofar.1.recorded? event).toList
    else [])

/-- The outcomes recorded since the circuit last changed its state, oldest first. -/
def outcomesSinceMove (c : Config) (events : List Event) : List Bool :=
  (events.foldl (record c) (initial, [])).2

/-- The length of the run of failures at the end of some outcomes. -/
def trailingFailures (outcomes : List Bool) : Nat := (outcomes.rtakeWhile (!·)).length

@[simp] theorem trailingFailures_nil : trailingFailures [] = 0 := rfl

@[simp] theorem trailingFailures_failure (outcomes : List Bool) :
    trailingFailures (outcomes ++ [false]) = trailingFailures outcomes + 1 := by
  simp [trailingFailures]

@[simp] theorem trailingFailures_success (outcomes : List Bool) :
    trailingFailures (outcomes ++ [true]) = 0 := by
  simp [trailingFailures]

theorem foldl_record_fst (c : Config) (events : List Event) :
    (events.foldl (record c) (initial, [])).1 = after c events := by
  induction events using List.reverseRecOn with
  | nil => rfl
  | append_singleton events event ih =>
      rw [after_concat, ← ih, List.foldl_append]
      rfl

theorem outcomesSinceMove_concat (c : Config) (events : List Event) (event : Event) :
    outcomesSinceMove c (events ++ [event]) =
      if (after c (events ++ [event])).breaker.state = (after c events).breaker.state then
        outcomesSinceMove c events ++ ((after c events).recorded? event).toList
      else [] := by
  rw [after_concat, ← foldl_record_fst, outcomesSinceMove, List.foldl_append]
  rfl

/-! ## One turn -/

/-- What an event means for the state of a breaker and for its two counters. -/
inductive Turn (c : Config) (b : Breaker) : Option Bool → Breaker → Prop where
  | idle {next : Breaker} (state : next.state = b.state) (failures : next.failures = b.failures)
      (successes : next.successes = b.successes) : Turn c b none next
  | reopened {next : Breaker} (opened : b.state = .opened) (half : next.state = .halfOpen)
      (fresh : next.successes = 0) : Turn c b none next
  | outcome {success : Bool} {now : Instant} {permit : Permit} {recorded : Breaker × List Metric}
      (outcome : Breaker.Recorded c now (b.release permit) success recorded) :
      Turn c b (some success) recorded.1

theorem Step.turn {c : Config} {o : Overlap} {event : Event} {next : Overlap × List Metric}
    (step : Step c o event next) :
    Turn c o.breaker (o.recorded? event) next.1.breaker := by
  cases step with
  | denied => exact .idle rfl rfl rfl
  | begun entry =>
      cases entry with
      | passed | probe => exact .idle rfl rfl rfl
      | reopened opened => exact .reopened opened rfl rfl
  | replaced entry =>
      cases entry with
      | passed | probe => exact .idle (by simp) (by simp) (by simp)
      | reopened opened => exact .reopened opened (by simp) (by simp)
  | ended held outcome =>
      simp only [recorded?, held, Option.map_some]
      exact .outcome outcome
  | dropped => exact .idle (by simp) (by simp) (by simp)
  | strayFinish gone =>
      simp only [recorded?, gone, Option.map_none]
      exact .idle rfl rfl rfl
  | strayDrop => exact .idle rfl rfl rfl

variable {c : Config} {b : Breaker} {seen : List Bool} {recorded : Option Bool} {next : Breaker}

/-- A breaker whose counters agree with the outcomes recorded since its last move. -/
structure Faithful (c : Config) (b : Breaker) (seen : List Bool) : Prop where
  failures : b.state = .closed → b.failures = trailingFailures seen
  untripped : b.state = .closed → trailingFailures seen < c.failureLimit
  successes : b.state = .halfOpen → b.successes = seen.count true
  unfailed : b.state = .halfOpen → false ∉ seen
  unrecovered : b.state = .halfOpen → seen.count true < c.successLimit

/-- A breaker that has just become open has nothing to agree with. -/
theorem Faithful.of_opened (opened : b.state = .opened) : Faithful c b seen := by
  constructor <;> simp [opened]

theorem Turn.faithful (turn : Turn c b recorded next) (faithful : Faithful c b seen) :
    Faithful c next (if next.state = b.state then seen ++ recorded.toList else []) := by
  cases turn with
  | idle state failures successes =>
      rw [if_pos state, Option.toList_none, List.append_nil]
      constructor
      · rw [state, failures]; exact faithful.failures
      · rw [state]; exact faithful.untripped
      · rw [state, successes]; exact faithful.successes
      · rw [state]; exact faithful.unfailed
      · rw [state]; exact faithful.unrecovered
  | reopened opened half fresh =>
      rw [if_neg (by simp [opened, half])]
      constructor <;> simp [half, fresh]
  | outcome outcome =>
      cases outcome with
      | cleared closed =>
          rw [Breaker.release_state] at closed
          rw [if_pos (by simp)]
          constructor <;> simp [closed]
      | lateSuccess opened => exact .of_opened opened
      | suffered unprobed few =>
          rw [Breaker.release_state] at unprobed
          rw [Breaker.release_failures] at few
          rw [if_pos (by simp)]
          constructor
          · intro closed
            have run := faithful.failures (by simpa using closed)
            simp [run]
          · intro closed
            have run := faithful.failures (by simpa using closed)
            simp only [Option.toList_some, trailingFailures_failure, Config.failureLimit]
            omega
          all_goals
            intro half
            exact absurd (by simpa using half) unprobed
      | counted half few =>
          rw [Breaker.release_state] at half
          rw [Breaker.release_successes] at few
          have count := faithful.successes half
          have clean := faithful.unfailed half
          rw [if_pos (by simp)]
          constructor
          · simp [half]
          · simp [half]
          · simp [count]
          · simp [clean]
          · simp only [Option.toList_some, List.count_append, List.count_singleton_self,
              Config.successLimit]
            omega
      | recovered half =>
          rw [Breaker.release_state] at half
          rw [if_neg (by simp [half])]
          constructor <;> simp
      | tripped | lateFailure opened | relapsed => exact .of_opened (by simp_all)

theorem faithful_after (c : Config) (events : List Event) :
    Faithful c (after c events).breaker (outcomesSinceMove c events) := by
  induction events using List.reverseRecOn with
  | nil => constructor <;> simp [initial, Breaker.initial, outcomesSinceMove]
  | append_singleton events event ih =>
      have turn := (step_spec c (after c events) event).turn
      rw [← after_concat] at turn
      rw [outcomesSinceMove_concat]
      exact turn.faithful ih

/-! ## Where the circuit moves -/

theorem Turn.moves_of_closed (turn : Turn c b recorded next) (faithful : Faithful c b seen)
    (closed : b.state = .closed) :
    (next.state ≠ .closed ↔
      recorded = some false ∧ trailingFailures (seen ++ [false]) = c.failureLimit) ∧
    (next.state ≠ .closed → next.state = .opened ∧ next.failures = 0) := by
  have run := faithful.failures closed
  have below := faithful.untripped closed
  cases turn with
  | idle state => simp [state, closed]
  | reopened opened => simp [closed] at opened
  | outcome outcome =>
      cases outcome with
      | cleared => simp [closed]
      | lateSuccess opened | lateFailure opened => simp [closed] at opened
      | counted half | recovered half | relapsed half => simp [closed] at half
      | suffered _ few =>
          have short : trailingFailures seen + 1 ≠ c.failureLimit := by
            rw [Breaker.release_failures] at few
            rw [Config.failureLimit]
            omega
          simp [closed, short]
      | tripped _ enough =>
          have reached : trailingFailures seen + 1 = c.failureLimit := by
            rw [Breaker.release_failures] at enough
            rw [Config.failureLimit] at below ⊢
            omega
          simp [reached]

theorem Turn.moves_of_half (turn : Turn c b recorded next) (faithful : Faithful c b seen)
    (half : b.state = .halfOpen) :
    (next.state = .opened ↔ recorded = some false) ∧
    (next.state = .closed ↔
      recorded = some true ∧ (seen ++ [true]).count true = c.successLimit) ∧
    (next.state = .closed → next.failures = 0 ∧ next.successes = 0) := by
  have count := faithful.successes half
  have below := faithful.unrecovered half
  cases turn with
  | idle state => simp [state, half]
  | reopened opened => simp [half] at opened
  | outcome outcome =>
      cases outcome with
      | cleared closed | tripped closed => simp [half] at closed
      | lateSuccess opened | lateFailure opened => simp [half] at opened
      | suffered unprobed => simp [half] at unprobed
      | relapsed => simp
      | counted _ few =>
          have short : seen.count true + 1 ≠ c.successLimit := by
            rw [Breaker.release_successes] at few
            rw [Config.successLimit]
            omega
          simp [half, short]
      | recovered _ enough =>
          have reached : seen.count true + 1 = c.successLimit := by
            rw [Breaker.release_successes] at enough
            rw [Config.successLimit] at below ⊢
            omega
          simp [reached]

/-- An outcome recorded while the circuit is open does not move it. -/
theorem Turn.opened_of_outcome {success : Bool} (turn : Turn c b (some success) next)
    (opened : b.state = .opened) : next.state = .opened := by
  cases turn with
  | outcome outcome =>
      cases outcome with
      | cleared closed => simp [opened] at closed
      | counted half | recovered half => simp [opened] at half
      | lateSuccess | suffered | lateFailure => simpa using opened
      | tripped | relapsed => rfl

/-- A call that is turned away leaves everything as it is. -/
theorem step_of_denied {o : Overlap} {call : Nat} {now : Instant}
    (denied : (o.start c call now).1 = false) : (o.step c (.start call now)).1 = o := by
  have entry := Breaker.enter_entry c now o.breaker
  simp only [start] at denied
  simp only [step, start]
  generalize o.breaker.enter c now = admission at entry denied ⊢
  cases entry with
  | cooling | full => rfl
  | passed | reopened | probe => simp at denied

theorem state_of_drop (c : Config) (o : Overlap) (call : Nat) :
    (o.step c (.drop call)).1.breaker.state = o.breaker.state := by
  have spec := step_spec c o (.drop call)
  generalize o.step c (.drop call) = next at spec ⊢
  cases spec with
  | dropped => simp
  | strayDrop => rfl

/-- The only way out of an open circuit is a call that is let through. -/
theorem start_of_leaving_opened {o : Overlap} {event : Event} (opened : o.breaker.state = .opened)
    (moved : (o.step c event).1.breaker.state ≠ .opened) :
    (o.step c event).1.breaker.state = .halfOpen ∧
      ∃ call now, event = .start call now ∧ (o.start c call now).1 = true := by
  have turn := (step_spec c o event).turn
  have half : (o.step c event).1.breaker.state = .halfOpen := by
    generalize recorded : o.recorded? event = outcome at turn
    generalize (o.step c event).1.breaker = next at turn moved
    cases turn with
    | idle state => exact absurd (state.trans opened) moved
    | reopened _ half => exact half
    | outcome outcome => exact absurd ((Turn.outcome outcome).opened_of_outcome opened) moved
  refine ⟨half, ?_⟩
  cases event with
  | start call now =>
      refine ⟨call, now, rfl, ?_⟩
      by_contra denied
      rw [step_of_denied (by simpa using denied)] at moved
      exact moved opened
  | finish call success now =>
      exfalso
      cases held : o.permit? call with
      | none => simp [step, finish, held, opened] at half
      | some permit =>
          simp only [recorded?, held, Option.map_some] at turn
          exact moved (turn.opened_of_outcome opened)
  | drop call => exact absurd ((state_of_drop c o call).trans opened) moved

/-- **A circuit moves as the recorded outcomes say.**  After any history and for any
next event: a closed circuit counts the failures at the end of the outcomes recorded
since it closed and opens at the one that completes the run; a half-open one counts
the successes since it became half open, opens at the first failure and closes at the
success that makes them enough; outcomes recorded while it is open, dropped calls and
calls turned away move it nowhere. -/
theorem moves_follow_outcomes (c : Config) (events : List Event) (event : Event) :
    let before := after c events
    let next := (after c (events ++ [event])).breaker
    let seen := outcomesSinceMove c events
    let recorded := before.recorded? event
    (before.breaker.state = .closed →
      before.breaker.failures = trailingFailures seen ∧
      (next.state ≠ .closed ↔
        recorded = some false ∧ trailingFailures (seen ++ [false]) = c.failureLimit) ∧
      (next.state ≠ .closed → next.state = .opened ∧ next.failures = 0)) ∧
    (before.breaker.state = .halfOpen →
      before.breaker.successes = seen.count true ∧ false ∉ seen ∧
      (next.state = .opened ↔ recorded = some false) ∧
      (next.state = .closed ↔
        recorded = some true ∧ (seen ++ [true]).count true = c.successLimit) ∧
      (next.state = .closed → next.failures = 0 ∧ next.successes = 0)) ∧
    (before.breaker.state = .opened →
      (∀ success, recorded = some success → next.state = .opened) ∧
      (next.state ≠ .opened → next.state = .halfOpen ∧
        ∃ call now, event = .start call now ∧ (before.start c call now).1 = true)) ∧
    (∀ call, event = .drop call → next.state = before.breaker.state) ∧
    (∀ call now, event = .start call now → (before.start c call now).1 = false →
      next.state = before.breaker.state) := by
  intro before next seen recorded
  have stepped : next = (before.step c event).1.breaker := by rw [← after_concat]
  have turn : Turn c before.breaker recorded next := stepped ▸ (step_spec c before event).turn
  have faithful := faithful_after c events
  refine ⟨fun closed => ?_, fun half => ?_, fun opened => ⟨?_, ?_⟩, ?_, ?_⟩
  · exact ⟨faithful.failures closed, turn.moves_of_closed faithful closed⟩
  · exact ⟨faithful.successes half, faithful.unfailed half, turn.moves_of_half faithful half⟩
  · intro success outcome
    rw [outcome] at turn
    exact turn.opened_of_outcome opened
  · rw [stepped]
    exact start_of_leaving_opened opened
  · rintro call rfl
    rw [stepped]
    exact state_of_drop c before call
  · rintro call now rfl denied
    rw [stepped, step_of_denied denied]

end Courier.Circuit.Overlap
