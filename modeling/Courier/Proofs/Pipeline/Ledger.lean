/-
# Courier.Proofs.Pipeline.Ledger -- the metrics of the layers add up

Every layer of a pipeline records what it does, and none looks at what the others
record.  Over any session the records agree all the same: each admission asked for is one
decision of the limiter, each protected call one outcome of the breaker and one ending of
the retry loop, and the attempts that the endings tell of are those that were timed and
those that were made.  `AddUp` says so of a list of metrics, and what it says survives
putting lists together (`AddUp.append`); the pieces of a turn add up (`callTurn_addUp`,
`step_addUp`), hence those of a session do (`session_addUp`).

The one thing that spoils it is a call that breaks off: it is one protected call without
an outcome, and its attempts were timed but are told of by no ending.  `metrics_conserved`
has the equations with these calls accounted for, and says that without them, and only
then, the layers agree.
-/
import Courier.Proofs.Pipeline.Turn

namespace Courier.Pipeline

set_option autoImplicit false

open Circuit.Breaker (Moves)
open Courier.Metric (numbers total count)

variable {ε α : Type}

/-! ## What is counted of a session -/

/-- Whether an event asks for an admission. -/
def Event.asks : Event ε α → Bool
  | .execute _ _ => true
  | .grant _ _ => true
  | _ => false

/-- The metrics of a session, oldest first. -/
def recorded (turns : List (Event ε α × Turn ε α)) : List Metric := turns.flatMap (·.2.metrics)

/-- Invocations of the operations in a session. -/
def invocations (turns : List (Event ε α × Turn ε α)) : Nat :=
  turns.foldr (fun turn rest => turn.2.calls + rest) 0

/-- A session without the turns of calls that broke off. -/
def unbroken (turns : List (Event ε α × Turn ε α)) : List (Event ε α × Turn ε α) :=
  turns.filter (!·.2.isBroken)

theorem unbroken_cons (turn : Event ε α × Turn ε α) (turns : List (Event ε α × Turn ε α)) :
    unbroken (turn :: turns) =
      if turn.2.isBroken then unbroken turns else turn :: unbroken turns := by
  cases broke : turn.2.isBroken <;> simp [unbroken, broke]

theorem invocations_cons (turn : Event ε α × Turn ε α) (turns : List (Event ε α × Turn ε α)) :
    invocations (turn :: turns) = turn.2.calls + invocations turns := rfl

theorem recorded_cons (turn : Event ε α × Turn ε α) (turns : List (Event ε α × Turn ε α)) :
    recorded (turn :: turns) = turn.2.metrics ++ recorded turns := rfl

theorem countP_cons_toNat {β : Type} (p : β → Bool) (b : β) (rest : List β) :
    (b :: rest).countP p = (p b).toNat + rest.countP p := by
  rw [List.countP_cons, Nat.add_comm]
  cases p b <;> rfl

/-! ## Metrics that add up -/

/-- Metrics of so many decisions and outcomes of a breaker, of endings that tell of so many
attempts, and of so many timed attempts; endings and outcomes belong together. -/
structure AddUp (decisions calls attempts timed : Nat) (metrics : List Metric) : Prop where
  decisions : total .decisions [("decision", "allowed")] metrics +
    total .decisions [("decision", "denied")] metrics = decisions
  calls : total .calls [("result", "rejected")] metrics +
    total .calls [("result", "success")] metrics +
    total .calls [("result", "failure")] metrics = calls
  successes : count .retries [("result", "success")] metrics =
    total .calls [("result", "success")] metrics
  failures : count .retries [("result", "failure")] metrics =
    total .calls [("result", "failure")] metrics
  cancelled : count .retries [("result", "cancelled")] metrics = 0
  attempts : total .retries [] metrics = attempts
  timed : total .timeouts [("result", "completed")] metrics +
    total .timeouts [("result", "elapsed")] metrics = timed

namespace AddUp

variable {decisions calls attempts timed moreDecisions moreCalls moreAttempts moreTimed : Nat}
variable {metrics more : List Metric}

theorem nil : AddUp 0 0 0 0 [] := by
  constructor <;> rfl

theorem append (one : AddUp decisions calls attempts timed metrics)
    (other : AddUp moreDecisions moreCalls moreAttempts moreTimed more) :
    AddUp (decisions + moreDecisions) (calls + moreCalls) (attempts + moreAttempts)
      (timed + moreTimed) (metrics ++ more) := by
  obtain ⟨decisions₁, calls₁, successes₁, failures₁, cancelled₁, attempts₁, timed₁⟩ := one
  obtain ⟨decisions₂, calls₂, successes₂, failures₂, cancelled₂, attempts₂, timed₂⟩ := other
  constructor <;> simp only [Metric.total_append, Metric.count_append] <;> omega

theorem decision (allowed : Bool) : AddUp 1 0 0 0 [.decision allowed] := by
  cases allowed <;> constructor <;> rfl

theorem evicted (n : Nat) : AddUp 0 0 0 0 [.evicted n] := by
  constructor <;> rfl

theorem rejected (found : Circuit.State) : AddUp 0 1 0 0 [.call found .rejected] := by
  constructor <;> rfl

theorem timedOnce (completed : Bool) : AddUp 0 0 0 1 [.timed completed] := by
  cases completed <;> constructor <;> rfl

/-- An ending of the retry loop and the breaker's outcome are of one kind. -/
theorem ended (success : Bool) (n : Nat) (found : Circuit.State) :
    AddUp 0 1 n 0
      [.retried (Retry.ending success) n, .call found (Circuit.Breaker.result success)] := by
  cases success <;> constructor <;> rfl

/-- Transitions add nothing. -/
theorem moves (moves : Moves metrics) : AddUp 0 0 0 0 metrics := by
  have none : ∀ (f : Metric.Family) (labels : List (String × String)),
      Metric.Family.transitions.name ≠ f.name → numbers f labels metrics = [] := by
    intro f labels other
    apply Metric.numbers_of_other
    intro m member
    obtain ⟨source, target, rfl⟩ := moves m member
    exact other
  have noDecision := fun labels => none .decisions labels (by decide)
  have noCall := fun labels => none .calls labels (by decide)
  have noEnding := fun labels => none .retries labels (by decide)
  have noTimeout := fun labels => none .timeouts labels (by decide)
  constructor <;> simp [total, count, noDecision, noCall, noEnding, noTimeout]

end AddUp

theorem timeoutMetrics_addUp (c : Config) (operation : Operation ε α) (n : Nat) :
    AddUp 0 0 0 n (timeoutMetrics c operation n) := by
  induction n with
  | zero => exact .nil
  | succ n ih =>
      rw [timeoutMetrics_eq_map] at ih ⊢
      rw [List.range_succ, List.map_append]
      exact ih.append (.timedOnce _)

/-! ## Turns -/

variable {c : Config} {s : State} {call : Call ε α} {turn : Turn ε α}

/-- A protected call is one outcome of the breaker, and its ending tells of the attempts that
were made and timed; a call that breaks off is neither. -/
theorem callTurn_addUp (became : CallTurn c s call turn) :
    AddUp 0 (if turn.isBroken then 0 else 1) (if turn.isBroken then 0 else turn.calls) turn.calls
      turn.metrics := by
  cases became with
  | rejected => exact .rejected _
  | @ended n breaker found before after lastOne admitting settling =>
      have timed := timeoutMetrics_addUp c call.operation n
      have told := AddUp.ended (call.operation.outcome c (n - 1)).isOk n found
      have all := (((AddUp.moves admitting).append timed).append told).append (.moves settling)
      simpa [Turn.isBroken] using all
  | @broken error n breaker before positive admitting =>
      have all := (AddUp.moves admitting).append (timeoutMetrics_addUp c call.operation n)
      simpa [Turn.isBroken] using all

theorem isLimited_of_isBroken (broke : turn.isBroken = true) : turn.isLimited = false := by
  unfold Turn.isBroken at broke
  unfold Turn.isLimited
  cases answer : turn.answer with
  | broken error => rfl
  | ended outcome | admitted allowed | left n | swept n => simp [answer] at broke

theorem protects_of_isBroken {event : Event ε α} (broke : (step c s event).isBroken = true) :
    protects (event, step c s event) = true := by
  cases event with
  | run call => rfl
  | execute identifier call =>
      show (!(step c s (.execute identifier call)).isLimited) = true
      rw [isLimited_of_isBroken broke]
      rfl
  | grant identifier now | remaining identifier now | sweep now => cases broke

/-- A call that breaks off has made an attempt. -/
theorem calls_of_isBroken {event : Event ε α} (broke : (step c s event).isBroken = true) :
    1 ≤ (step c s event).calls := by
  cases event with
  | run call => exact (calls_of_broken broke).1
  | execute identifier call =>
      cases granted : (grant c identifier call.clock.asked s).1 with
      | false =>
          rw [step_of_denied granted] at broke
          cases broke
      | true =>
          rw [step_of_granted granted, Turn.isBroken_after] at broke
          rw [step_of_granted granted, Turn.after_calls]
          exact (calls_of_broken broke).1
  | grant identifier now | remaining identifier now | sweep now => cases broke

/-- The metrics of one event add up. -/
theorem step_addUp (c : Config) (s : State) (event : Event ε α) :
    AddUp event.asks.toNat
      (protects (event, step c s event) && !(step c s event).isBroken).toNat
      (if (step c s event).isBroken then 0 else (step c s event).calls) (step c s event).calls
      (step c s event).metrics := by
  cases event with
  | run call =>
      have became := callTurn_addUp (callTurn_run c s call)
      cases broke : (step c s (.run call)).isBroken <;>
        simpa [broke, Event.asks, protects] using became
  | execute identifier call =>
      cases granted : (grant c identifier call.clock.asked s).1 with
      | false =>
          rw [step_of_denied granted]
          exact .decision false
      | true =>
          have became := callTurn_run c (grant c identifier call.clock.asked s).2.1 call
          have all := (AddUp.decision true).append (callTurn_addUp became)
          have free := isLimited_of_callTurn became
          rw [step_of_granted granted]
          generalize step c (grant c identifier call.clock.asked s).2.1 (.run call) = turn
            at all free ⊢
          cases broke : turn.isBroken <;> simpa [broke, free, Event.asks, protects] using all
  | grant identifier now => exact .decision _
  | remaining identifier now => exact .nil
  | sweep now =>
      show AddUp 0 0 0 0 (s.limiter.sweep c.rate now).2.2
      unfold Limiter.sweep
      simp only
      split
      · exact .nil
      · exact .evicted _

/-! ## Sessions -/

theorem session_addUp (c : Config) (s : State) (events : List (Event ε α)) :
    AddUp (events.countP Event.asks) ((unbroken (session c s events)).countP protects)
      (invocations (unbroken (session c s events))) (invocations (session c s events))
      (recorded (session c s events)) := by
  induction events generalizing s with
  | nil => exact .nil
  | cons event events ih =>
      have all := (step_addUp c s event).append (ih (step c s event).state)
      unfold session
      rw [unbroken_cons, countP_cons_toNat Event.asks, invocations_cons, recorded_cons]
      cases broke : (step c s event).isBroken with
      | true => simpa [broke] using all
      | false => simpa [broke, countP_cons_toNat, invocations_cons] using all

/-- Every call that breaks off is a protected one and has made an attempt. -/
theorem session_isBroken (c : Config) (s : State) (events : List (Event ε α)) :
    (unbroken (session c s events)).countP protects +
        (session c s events).countP (·.2.isBroken) = (session c s events).countP protects ∧
      invocations (unbroken (session c s events)) +
        (session c s events).countP (·.2.isBroken) ≤ invocations (session c s events) := by
  induction events generalizing s with
  | nil => exact ⟨rfl, Nat.le_refl 0⟩
  | cons event events ih =>
      obtain ⟨calls, attempts⟩ := ih (step c s event).state
      unfold session
      cases broke : (step c s event).isBroken with
      | true =>
          have called := protects_of_isBroken broke
          have made := calls_of_isBroken broke
          simp only [unbroken_cons, countP_cons_toNat, broke, called, if_true, invocations_cons,
            Bool.toNat_true]
          omega
      | false =>
          simp only [unbroken_cons, countP_cons_toNat, broke, Bool.false_eq_true, if_false,
            invocations_cons, Bool.toNat_false]
          omega

/-- Without the calls that broke off there are as many protected calls and as many
invocations only if there are no such calls. -/
theorem session_whole_iff (c : Config) (s : State) (events : List (Event ε α)) :
    ((unbroken (session c s events)).countP protects = (session c s events).countP protects ↔
      ∀ turn ∈ session c s events, turn.2.isBroken = false) ∧
    (invocations (unbroken (session c s events)) = invocations (session c s events) ↔
      ∀ turn ∈ session c s events, turn.2.isBroken = false) := by
  obtain ⟨calls, attempts⟩ := session_isBroken c s events
  have none : (session c s events).countP (·.2.isBroken) = 0 ↔
      ∀ turn ∈ session c s events, turn.2.isBroken = false := by
    rw [List.countP_eq_zero]
    simp only [Bool.not_eq_true]
  have whole : (∀ turn ∈ session c s events, turn.2.isBroken = false) →
      unbroken (session c s events) = session c s events := by
    intro all
    refine List.filter_eq_self.mpr fun turn member => ?_
    rw [all turn member]
    rfl
  refine ⟨⟨fun same => none.mp ?_, fun all => by rw [whole all]⟩,
    ⟨fun same => none.mp ?_, fun all => by rw [whole all]⟩⟩
  · omega
  · omega

/-- **The metrics of the layers add up.**  Over any session, from any state: every admission
asked for is one decision of the limiter; every protected call that does not break off is one
outcome of the breaker, and, if it was let through, one ending of the retry loop of the same
kind, none of them cancelled; the endings tell of the invocations of these calls, and every
invocation was timed once.

So the breaker's outcomes are all the protected calls, and the endings tell of all
invocations, exactly if no call breaks off: if no call with random jitter comes to a delay
with nothing to draw from. -/
theorem metrics_conserved (c : Config) (s : State) (events : List (Event ε α)) :
    let turns := session c s events
    let metrics := recorded turns
    let outcomes := total .calls [("result", "rejected")] metrics +
      total .calls [("result", "success")] metrics + total .calls [("result", "failure")] metrics
    total .decisions [("decision", "allowed")] metrics +
        total .decisions [("decision", "denied")] metrics = events.countP Event.asks ∧
    outcomes = (unbroken turns).countP protects ∧
    count .retries [("result", "success")] metrics =
      total .calls [("result", "success")] metrics ∧
    count .retries [("result", "failure")] metrics =
      total .calls [("result", "failure")] metrics ∧
    count .retries [("result", "cancelled")] metrics = 0 ∧
    total .retries [] metrics = invocations (unbroken turns) ∧
    total .timeouts [("result", "completed")] metrics +
      total .timeouts [("result", "elapsed")] metrics = invocations turns ∧
    (outcomes = turns.countP protects ↔ ∀ turn ∈ turns, turn.2.isBroken = false) ∧
    (total .retries [] metrics = invocations turns ↔ ∀ turn ∈ turns, turn.2.isBroken = false) ∧
    (∀ (now : State) (event : Event ε α),
      (step c now event).isBroken = true ↔ event.Breaks c now) := by
  intro turns metrics outcomes
  have sums := session_addUp c s events
  obtain ⟨calls, attempts⟩ := session_whole_iff c s events
  rw [← sums.calls] at calls
  rw [← sums.attempts] at attempts
  exact ⟨sums.decisions, sums.calls, sums.successes, sums.failures, sums.cancelled, sums.attempts,
    sums.timed, calls, attempts, isBroken_iff c⟩

/-- The same work behind the same long pause, drawn at random and then left as it is: of the
two calls one breaks off after its first attempt. -/
def brokenThenWhole : List (Event String Nat) :=
  [.run ⟨busyOnce, .random fun _ => ⟨0, true⟩, .still 0⟩,
    .run ⟨busyOnce, .adjusted Retry.Jitter.unchanged, .still 0⟩]

/-- Two protected calls and one outcome, three invocations and an ending that tells of two. -/
theorem metrics_conserved_longPause :
    let turns := session longPause .initial brokenThenWhole
    let metrics := recorded turns
    turns.countP protects = 2 ∧ invocations turns = 3 ∧
      total .calls [("result", "rejected")] metrics +
        total .calls [("result", "success")] metrics +
        total .calls [("result", "failure")] metrics = 1 ∧
      total .retries [] metrics = 2 := by
  intro turns metrics
  obtain ⟨-, outcomes, -, -, -, told, -, -⟩ := metrics_conserved longPause .initial brokenThenWhole
  have protectedOnce : (unbroken turns).countP protects = 1 := by decide +kernel
  have invokedTwice : invocations (unbroken turns) = 2 := by decide +kernel
  exact ⟨by decide +kernel, by decide +kernel, outcomes.trans protectedOnce,
    told.trans invokedTwice⟩

end Courier.Pipeline
