/-
# Courier.Proofs.Pipeline.Separation -- the limiter and the protected calls stay apart

The limiter of a pipeline knows nothing of what becomes of the calls it lets through.
`Event.asked` is what an event asks of the limiter, and the limiter of a pipeline does with
it what a limiter on its own does (`limiter_step`, `reply_step`); a call has no part in it.
So two sessions that ask the same of the limiter, whatever their calls do, get the same
replies, one event after the other (`map_reply_session`): an admission is kept when the
breaker turns the call away, when every attempt fails, and when the call breaks off.

The other way round, an event that does not come to a call is the limiter's alone
(`step_of_not_protects`).
-/
import Courier.Limiter
import Courier.Proofs.Pipeline.Turn

namespace Courier.Limiter

set_option autoImplicit false

/-- What a limiter is seen to answer. -/
inductive Reply where
  | decided (allowed : Bool)
  | left (count : Nat)
  | swept (count : Nat)
  deriving DecidableEq

/-- What a limiter answers to an event. -/
def reply (c : Config) (l : Limiter) : Event → Reply
  | .allow id now => .decided (l.allow c now id).1
  | .remaining id now => .left (l.remaining c now id)
  | .sweep now => .swept (l.sweep c now).1

/-- What a limiter answers to one event after the other, where some ask nothing of it. -/
def replies (c : Config) : Limiter → List (Option Event) → List (Option Reply)
  | _, [] => []
  | l, event :: events =>
      event.map (l.reply c) :: replies c (event.elim l (l.step c)) events

end Courier.Limiter

namespace Courier.Pipeline

set_option autoImplicit false

open Courier.Metric (numbers)

variable {ε α : Type} {c : Config} {s : State}

/-- What an event asks of the limiter. -/
def Event.asked : Event ε α → Option Limiter.Event
  | .execute identifier call => some (.allow identifier call.clock.asked)
  | .run _ => none
  | .grant identifier now => some (.allow identifier now)
  | .remaining identifier now => some (.remaining identifier now)
  | .sweep now => some (.sweep now)

/-- What an event and its turn show of the limiter. -/
def reply (turn : Event ε α × Turn ε α) : Option Limiter.Reply :=
  match turn.1, turn.2.answer with
  | .execute _ _, _ => some (.decided (!turn.2.isLimited))
  | .grant _ _, .admitted allowed => some (.decided allowed)
  | .remaining _ _, .left count => some (.left count)
  | .sweep _, .swept count => some (.swept count)
  | _, _ => none

/-! ## One event -/

/-- A call leaves the limiter as it finds it. -/
theorem CallTurn.limiter_eq {call : Call ε α} {turn : Turn ε α} (became : CallTurn c s call turn) :
    turn.state.limiter = s.limiter := by
  cases became with
  | rejected | ended | broken => rfl

/-- The limiter goes on as one of its own. -/
theorem limiter_step (c : Config) (s : State) (event : Event ε α) :
    (step c s event).state.limiter = event.asked.elim s.limiter (s.limiter.step c.rate) := by
  cases event with
  | run call => exact (callTurn_run c s call).limiter_eq
  | execute identifier call =>
      cases granted : (grant c identifier call.clock.asked s).1 with
      | false =>
          rw [step_of_denied granted]
          rfl
      | true =>
          have kept := (callTurn_run c (grant c identifier call.clock.asked s).2.1 call).limiter_eq
          rw [step_of_granted granted, Turn.after_state, kept]
          rfl
  | grant identifier now | remaining identifier now | sweep now => rfl

/-- What is seen of the limiter is what it answers on its own. -/
theorem reply_step (c : Config) (s : State) (event : Event ε α) :
    reply (event, step c s event) = event.asked.map (s.limiter.reply c.rate) := by
  cases event with
  | execute identifier call =>
      show some (Limiter.Reply.decided (!(step c s (.execute identifier call)).isLimited)) =
        some (.decided (grant c identifier call.clock.asked s).1)
      rw [isLimited_execute, Bool.not_not]
  | run call | grant identifier now | remaining identifier now | sweep now => rfl

/-- An event that does not come to a call invokes nothing, leaves the breaker as it is, and
records what a limiter records. -/
theorem step_of_not_protects (event : Event ε α)
    (apart : protects (event, step c s event) = false) :
    (step c s event).calls = 0 ∧ (step c s event).state.breaker = s.breaker ∧
      ∀ m ∈ (step c s event).metrics, (∃ allowed, m = .decision allowed) ∨ ∃ n, m = .evicted n := by
  cases event with
  | run call => cases apart
  | execute identifier call =>
      have denied : (grant c identifier call.clock.asked s).1 = false := by
        have limited : (!(step c s (.execute identifier call)).isLimited) = false := apart
        rwa [isLimited_execute, Bool.not_not] at limited
      rw [step_of_denied denied]
      exact ⟨rfl, rfl, fun m member => .inl ⟨false, List.mem_singleton.mp member⟩⟩
  | grant identifier now =>
      exact ⟨rfl, rfl, fun m member => .inl ⟨_, List.mem_singleton.mp member⟩⟩
  | remaining identifier now => exact ⟨rfl, rfl, fun m member => nomatch member⟩
  | sweep now =>
      refine ⟨rfl, rfl, fun m member => .inr ?_⟩
      have swept : m ∈ (s.limiter.sweep c.rate now).2.2 := member
      unfold Limiter.sweep at swept
      simp only at swept
      split at swept
      · cases swept
      · exact ⟨_, List.mem_singleton.mp swept⟩

/-! ## Sessions -/

/-- What a session shows of the limiter, event by event. -/
theorem map_reply_session (c : Config) (s : State) (events : List (Event ε α)) :
    (session c s events).map reply = s.limiter.replies c.rate (events.map Event.asked) := by
  induction events generalizing s with
  | nil => rfl
  | cons event events ih =>
      have rest := ih (step c s event).state
      rw [limiter_step] at rest
      show reply (event, step c s event) :: (session c (step c s event).state events).map reply = _
      rw [reply_step, rest]
      rfl

/-- **The limiter and the calls do not leak into each other.**  Two sessions that begin with
the same limiter and ask the same of it, with whatever work, predicates, pauses and breakers,
show the same of it, event by event: decisions on admissions, admissions left, identifiers
swept; what a call comes to never changes it.  And an event that does not come to a call (a
denied one, an admission, a question, a sweep) invokes nothing, leaves the breaker as it is,
and records no metric of the breaker, the retry loop or the timeouts. -/
theorem limiter_apart_from_calls {ε' α' : Type} (c : Config) (s t : State)
    (same : s.limiter = t.limiter) (events : List (Event ε α)) (others : List (Event ε' α'))
    (asked : events.map Event.asked = others.map Event.asked) :
    (session c s events).map reply = (session c t others).map reply ∧
    (∀ (now : State) (event : Event ε α), (step c now event).state.limiter =
      event.asked.elim now.limiter (now.limiter.step c.rate)) ∧
    ∀ (now : State) (event : Event ε α), protects (event, step c now event) = false →
      (step c now event).calls = 0 ∧ (step c now event).state.breaker = now.breaker ∧
      ∀ f ∈ callFamilies, numbers f [] (step c now event).metrics = [] := by
  refine ⟨?_, limiter_step c, ?_⟩
  · calc (session c s events).map reply
        = s.limiter.replies c.rate (events.map Event.asked) := map_reply_session c s events
      _ = t.limiter.replies c.rate (others.map Event.asked) := by rw [same, asked]
      _ = (session c t others).map reply := (map_reply_session c t others).symm
  · intro now event apart
    obtain ⟨calls, breaker, metrics⟩ := step_of_not_protects event apart
    have elsewhere : ∀ f ∈ callFamilies,
        Metric.Family.decisions.name ≠ f.name ∧ Metric.Family.evictions.name ≠ f.name := by
      decide
    refine ⟨calls, breaker, fun f member => Metric.numbers_of_other f [] fun m recorded => ?_⟩
    rcases metrics m recorded with ⟨allowed, rfl⟩ | ⟨n, rfl⟩
    · exact (elsewhere f member).1
    · exact (elsewhere f member).2

/-- Two admissions a minute, and a breaker that opens at the first failure. -/
def fragile : Config where
  timeout := .ofSeconds 30
  circuit := { failureThreshold := 1, successThreshold := 1, cooldown := .ofSeconds 30, probes := 1 }
  retry := none
  rate := { maxRequests := 2, window := .ofSeconds 60 }

/-- Work that always ends the same. -/
def always (outcome : Except String Nat) : Operation String Nat where
  work _ := .sleeping 0 outcome
  timedOut cut := cut.message
  shouldRetry _ := true

/-- A third request in a minute, and what is left then. -/
def thirdRequest (outcome : Except String Nat) : List (Event String Nat) :=
  let request : Event String Nat :=
    .execute "guest" ⟨always outcome, .random fun _ => ⟨0, true⟩, .still 0⟩
  [request, request, request, .remaining "guest" 0]

/-- With work that fails the second request is turned away by the breaker and with work that
succeeds it is not; the limiter shows the same.  The third request is denied either way and
comes to nothing. -/
theorem limiter_apart_from_calls_fragile :
    let failing := session fragile .initial (thirdRequest (.error "down"))
    let working := session fragile .initial (thirdRequest (.ok 1))
    failing.map (·.2.calls) = [1, 0, 0, 0] ∧ working.map (·.2.calls) = [1, 1, 0, 0] ∧
      failing.map reply = working.map reply ∧
      working.map reply =
        [some (.decided true), some (.decided true), some (.decided false), some (.left 0)] ∧
      ∀ turn ∈ failing.drop 2,
        (step fragile ⟨⟨[("guest", [0, 0])]⟩, .initial⟩ turn.1).calls = 0 := by
  intro failing working
  have apart := limiter_apart_from_calls fragile .initial .initial rfl
    (thirdRequest (.error "down")) (thirdRequest (.ok 1)) rfl
  refine ⟨by decide +kernel, by decide +kernel, apart.1, by decide +kernel, ?_⟩
  intro turn member
  refine (apart.2.2 _ turn.1 ?_).1
  have denied : ∀ turn ∈ failing.drop 2, protects (turn.1,
      step fragile ⟨⟨[("guest", [0, 0])]⟩, .initial⟩ turn.1) = false := by decide +kernel
  exact denied turn member

end Courier.Pipeline
