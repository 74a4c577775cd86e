/-
# Courier.Proofs.Pipeline.Turn -- what one request does to a pipeline

`CallTurn` is all that can become of a protected call: the breaker turns it away, or it ends
as its last attempt does, or it breaks off after some attempts (`callTurn_run`).  Each case
says which metrics are recorded; transitions of the breaker apart, these are the timeouts
around the attempts (`timeoutMetrics_eq_map`), one ending of the retry loop and one outcome of
the breaker, and all of them belong to `callFamilies`.  None touches the limiter.

An event that asks for an admission and a call is the one (`step_of_denied`), or the one and
then the other (`step_of_granted`), as the limiter decides (`isLimited_execute`).  A call
breaks off just when it is drawn for at random and comes to a delay with nothing to draw from
(`isBroken_run_iff`, `isBroken_iff`).
-/
import Courier.Metric.Query
import Courier.Pipeline.Session
import Courier.Proofs.Pipeline.OneCall

namespace Courier.Pipeline

set_option autoImplicit false

open Circuit.Breaker (Moves)
open Retry (LastAttempt)

variable {ε α : Type}

/-! ## Timed attempts -/

theorem race_metrics {β : Type} (limit : Duration) (work : Work β) :
    (Timeout.race limit work).metrics = [.timed (Timeout.finishes limit work)] := by
  unfold Timeout.race Timeout.finishes
  cases work.needs with
  | none => rfl
  | some millis =>
      by_cases within : millis ≤ limit.timerMillis
      · simp [within]
      · simp [within]

/-- Every attempt is timed once. -/
theorem timeoutMetrics_eq_map (c : Config) (operation : Operation ε α) (n : Nat) :
    timeoutMetrics c operation n =
      (List.range n).map fun k => .timed (Timeout.finishes c.timeout (operation.work k)) := by
  unfold timeoutMetrics
  simp only [race_metrics]
  induction n with
  | zero => rfl
  | succ n ih =>
      rw [List.range_succ, List.flatMap_append, List.map_append, ih]
      rfl

/-! ## A protected call -/

/-- What becomes of a protected call. -/
inductive CallTurn (c : Config) (s : State) (call : Call ε α) : Turn ε α → Prop where
  /-- The breaker turns it away. -/
  | rejected (denied : (s.breaker.enter c.circuit call.clock.started).permit = none) :
      CallTurn c s call
        ⟨.ended (.error .circuitOpen), s, 0, [.call s.breaker.state .rejected]⟩
  /-- It ends as its last attempt does. -/
  | ended {n : Nat} {breaker : Circuit.Breaker} {found : Circuit.State} {before after : List Metric}
      (lastOne : LastAttempt call.operation.shouldRetry (call.operation.outcome c)
        c.policy.attempts n)
      (admitting : Moves before) (settling : Moves after) :
      CallTurn c s call
        ⟨.ended (answer n (call.operation.outcome c (n - 1))), { s with breaker := breaker }, n,
          before ++ timeoutMetrics c call.operation n ++
            [.retried (Retry.ending (call.operation.outcome c (n - 1)).isOk) n] ++
            .call found (Circuit.Breaker.result (call.operation.outcome c (n - 1)).isOk) :: after⟩
  /-- It breaks off. -/
  | broken {error : Retry.Jitter.DrawError} {n : Nat} {breaker : Circuit.Breaker}
      {before : List Metric} (positive : 1 ≤ n) (admitting : Moves before) :
      CallTurn c s call
        ⟨.broken error, { s with breaker := breaker }, n,
          before ++ timeoutMetrics c call.operation n⟩

variable {c : Config} {s : State} {call : Call ε α}

theorem callTurn_of_denied (denied : (s.breaker.enter c.circuit call.clock.started).permit = none) :
    CallTurn c s call (.ofReport (call.report c s)) := by
  have entry := Circuit.Breaker.enter_entry c.circuit call.clock.started s.breaker
  have rejected := CallTurn.rejected denied
  unfold Call.report run
  simp only [denied]
  generalize s.breaker.enter c.circuit call.clock.started = admission at entry denied ⊢
  obtain ⟨permit, breaker, metrics⟩ := admission
  cases denied
  rw [entry.eq_of_denied, entry.metrics_of_denied]
  exact rejected

/-- A call that is let through, and does not break off, ends as its last attempt does. -/
theorem callTurn_of_granted {permit : Circuit.Permit}
    (granted : (s.breaker.enter c.circuit call.clock.started).permit = some permit) :
    CallTurn c s call (.ofReport (call.report c s)) := by
  have entry := Circuit.Breaker.enter_entry c.circuit call.clock.started s.breaker
  obtain ⟨n, lastOne, shows⟩ := attempts_spec c call.pauses.jitter call.operation
  have outcome : (attempts c call.pauses.jitter call.operation).outcome =
      call.operation.outcome c (n - 1) := shows.outcome
  have metrics : (attempts c call.pauses.jitter call.operation).metrics =
      [.retried (Retry.ending (call.operation.outcome c (n - 1)).isOk) n] :=
    Retry.runIf_metrics c.policy call.pauses.jitter call.operation.shouldRetry _ lastOne
  unfold Call.report run
  simp only [granted, shows.calls, outcome, metrics]
  generalize s.breaker.enter c.circuit call.clock.started = admission at entry granted ⊢
  obtain ⟨given, breaker, before⟩ := admission
  cases granted
  obtain ⟨recorded, told, settled⟩ := Circuit.Breaker.settle_recorded c.circuit
    call.clock.finished permit (call.operation.outcome c (n - 1)).isOk breaker
  simp only [settled]
  exact @CallTurn.ended ε α c s call n recorded.1 breaker.state before recorded.2 lastOne
    entry.moves_of_granted told.moves

theorem callTurn_ofReport (c : Config) (s : State) (call : Call ε α) :
    CallTurn c s call (.ofReport (call.report c s)) := by
  cases answer : (s.breaker.enter c.circuit call.clock.started).permit with
  | none => exact callTurn_of_denied answer
  | some permit => exact callTurn_of_granted answer

/-- A call that came to the breaker was not denied its admission. -/
theorem isLimited_of_callTurn {turn : Turn ε α} (became : CallTurn c s call turn) :
    turn.isLimited = false := by
  cases became with
  | rejected | broken => rfl
  | @ended n =>
      show Turn.isLimited ⟨.ended (answer n (call.operation.outcome c (n - 1))), _, _, _⟩ = false
      cases call.operation.outcome c (n - 1) <;> rfl

/-- Where the breaker, the retry loop and the timeouts record what they do. -/
def callFamilies : List Metric.Family := [.transitions, .calls, .retries, .timeouts]

/-- A call is told of by the breaker, the retry loop and the timeouts only. -/
theorem family_mem_of_callTurn {turn : Turn ε α} (became : CallTurn c s call turn) :
    ∀ m ∈ turn.metrics, m.observation.family ∈ callFamilies := by
  have moved : ∀ {metrics : List Metric}, Moves metrics →
      ∀ m ∈ metrics, m.observation.family ∈ callFamilies := by
    intro metrics moves m member
    obtain ⟨source, target, rfl⟩ := moves m member
    exact .head _
  have timed : ∀ {n : Nat}, ∀ m ∈ timeoutMetrics c call.operation n,
      m.observation.family ∈ callFamilies := by
    intro n m member
    rw [timeoutMetrics_eq_map] at member
    obtain ⟨k, -, rfl⟩ := List.mem_map.mp member
    exact .tail _ (.tail _ (.tail _ (.head _)))
  intro m member
  cases became with
  | rejected =>
      cases List.mem_singleton.mp member
      exact .tail _ (.head _)
  | ended lastOne admitting settling =>
      simp only [List.mem_append, List.mem_cons, List.not_mem_nil, or_false] at member
      rcases member with ((before | attempt) | rfl) | rfl | after
      · exact moved admitting m before
      · exact timed m attempt
      · exact .tail _ (.tail _ (.head _))
      · exact .tail _ (.head _)
      · exact moved settling m after
  | broken positive admitting =>
      rcases List.mem_append.mp member with before | attempt
      · exact moved admitting m before
      · exact timed m attempt

/-! ## Calls that break off -/

theorem Pauses.drawn_eq_ok {β : Type} {pauses : Pauses} {delays : List Duration} {shown drawn : β}
    (ok : pauses.drawn delays shown = .ok drawn) : drawn = shown := by
  cases pauses with
  | adjusted jitter =>
      cases ok
      rfl
  | random draws =>
      by_cases all : delays.all Retry.Jitter.drawable = true
      · have same : shown = drawn := by simpa [Pauses.drawn, Retry.Jitter.drawn, all] using ok
        exact same.symm
      · simp [Pauses.drawn, Retry.Jitter.drawn, all] at ok

/-- Something breaks off just when it was drawn for at random and one of its delays has
nothing to draw from. -/
theorem Pauses.drawn_eq_error_iff {β : Type} (pauses : Pauses) (delays : List Duration)
    (shown : β) :
    pauses.drawn delays shown = .error .emptyRange ↔
      (∃ draws, pauses = .random draws) ∧
        ∃ delay ∈ delays, Retry.Jitter.drawable delay = false := by
  cases pauses with
  | adjusted jitter =>
      refine iff_of_false (fun broken => nomatch broken) ?_
      rintro ⟨⟨draws, same⟩, -⟩
      cases same
  | random draws =>
      show Retry.Jitter.drawn delays shown = .error .emptyRange ↔ _
      rw [Retry.Jitter.drawn_eq_error_iff]
      exact ⟨fun empty => ⟨⟨draws, rfl⟩, empty⟩, fun broken => broken.2⟩

theorem undrawable_of_broken {error : Retry.Jitter.DrawError}
    (broken : call.pauses.drawn (call.report c s).delays (call.report c s) = .error error) :
    (∃ draws, call.pauses = .random draws) ∧ Undrawable c call.operation call.clock s := by
  cases error
  obtain ⟨⟨draws, random⟩, empty⟩ := (Pauses.drawn_eq_error_iff _ _ _).mp broken
  refine ⟨⟨draws, random⟩, ?_⟩
  unfold Call.report Pauses.jitter at empty
  rw [random] at empty
  exact (undrawable_iff draws).mpr empty

theorem callTurn_brokenTurn {error : Retry.Jitter.DrawError}
    (broken : call.pauses.drawn (call.report c s).delays (call.report c s) = .error error) :
    CallTurn c s call (call.brokenTurn c s error) := by
  obtain ⟨-, admitted, -⟩ := undrawable_of_broken broken
  obtain ⟨permit, granted⟩ := Option.ne_none_iff_exists'.mp admitted
  have entry := Circuit.Breaker.enter_entry c.circuit call.clock.started s.breaker
  have admitting : Moves (s.breaker.enter c.circuit call.clock.started).metrics := by
    generalize s.breaker.enter c.circuit call.clock.started = admission at entry granted ⊢
    obtain ⟨given, breaker, before⟩ := admission
    cases granted
    exact entry.moves_of_granted
  exact .broken (Nat.le_add_left 1 _) admitting

/-- What becomes of a protected call is one of the three cases. -/
theorem callTurn_run (c : Config) (s : State) (call : Call ε α) :
    CallTurn c s call (step c s (.run call)) := by
  unfold step
  cases drawn : call.pauses.drawn (call.report c s).delays (call.report c s) with
  | ok report =>
      simp only [drawn]
      rw [Pauses.drawn_eq_ok drawn]
      exact callTurn_ofReport c s call
  | error error =>
      simp only [drawn]
      exact callTurn_brokenTurn drawn

theorem isBroken_run_iff (c : Config) (s : State) (call : Call ε α) :
    (step c s (.run call)).isBroken = true ↔
      (∃ draws, call.pauses = .random draws) ∧ Undrawable c call.operation call.clock s := by
  unfold step
  cases drawn : call.pauses.drawn (call.report c s).delays (call.report c s) with
  | error error =>
      simp only [drawn]
      exact iff_of_true rfl (undrawable_of_broken drawn)
  | ok report =>
      simp only [drawn]
      refine iff_of_false Bool.false_ne_true ?_
      rintro ⟨⟨draws, random⟩, stuck⟩
      have jitter : call.pauses.jitter = Retry.Jitter.random draws := by rw [random]; rfl
      have empty : ∃ delay ∈ (call.report c s).delays, Retry.Jitter.drawable delay = false := by
        unfold Call.report
        rw [jitter]
        exact (undrawable_iff draws).mp stuck
      rw [(Pauses.drawn_eq_error_iff _ _ _).mpr ⟨⟨draws, random⟩, empty⟩] at drawn
      cases drawn

theorem attemptsTo_le_length {delays : List Duration}
    (empty : ∃ delay ∈ delays, Retry.Jitter.drawable delay = false) :
    attemptsTo delays ≤ delays.length := by
  obtain ⟨delay, member, nothing⟩ := empty
  exact List.findIdx_lt_length_of_exists ⟨delay, member, by rw [nothing, Bool.not_false]⟩

/-- A call that breaks off has made an attempt, and would have made another one. -/
theorem calls_of_broken (broke : (step c s (.run call)).isBroken = true) :
    1 ≤ (step c s (.run call)).calls ∧
      ∃ n, LastAttempt call.operation.shouldRetry (call.operation.outcome c) c.policy.attempts n ∧
        (step c s (.run call)).calls < n := by
  unfold step at broke ⊢
  cases drawn : call.pauses.drawn (call.report c s).delays (call.report c s) with
  | ok report =>
      simp only [drawn] at broke
      cases broke
  | error error =>
      simp only [drawn]
      cases error
      have empty := ((Pauses.drawn_eq_error_iff _ _ _).mp drawn).2
      obtain ⟨-, admitted, n, lastOne, -⟩ := undrawable_of_broken drawn
      have length : (call.report c s).delays.length = n - 1 := by
        unfold Call.report
        rw [delays_of_admitted admitted lastOne, List.length_map, List.length_range]
      have early : attemptsTo (call.report c s).delays ≤ n - 1 :=
        length ▸ attemptsTo_le_length empty
      refine ⟨Nat.le_add_left 1 _, n, lastOne, ?_⟩
      exact Nat.lt_of_le_of_lt early (Nat.sub_lt lastOne.positive Nat.one_pos)

/-! ## An admission and a call -/

/-- An admission is one decision of the limiter. -/
theorem grant_metrics (c : Config) (identifier : String) (now : Instant) (s : State) :
    (grant c identifier now s).2.2 = [.decision (grant c identifier now s).1] := rfl

theorem step_of_denied {identifier : String}
    (denied : (grant c identifier call.clock.asked s).1 = false) :
    step c s (.execute identifier call) =
      ⟨.ended (.error (.rateLimited identifier)), (grant c identifier call.clock.asked s).2.1, 0,
        [.decision false]⟩ := by
  have metrics := grant_metrics c identifier call.clock.asked s
  rw [denied] at metrics
  unfold step execute
  simp only [denied, metrics, Bool.false_eq_true, if_false]
  cases pauses : call.pauses <;> rfl

/-- With the admission granted, the call follows. -/
theorem step_of_granted {identifier : String}
    (granted : (grant c identifier call.clock.asked s).1 = true) :
    step c s (.execute identifier call) =
      (step c (grant c identifier call.clock.asked s).2.1 (.run call)).after
        [.decision true] := by
  have metrics := grant_metrics c identifier call.clock.asked s
  rw [granted] at metrics
  unfold step execute
  simp only [granted, metrics, if_true]
  cases pauses : call.pauses with
  | adjusted jitter => simp [Call.report, pauses, Pauses.drawn, Turn.after, Turn.ofReport]
  | random draws =>
      simp only [Call.report, pauses, Pauses.drawn, Retry.Jitter.drawn, Pauses.jitter]
      by_cases all : (run c (Retry.Jitter.random draws) call.operation call.clock
          (grant c identifier call.clock.asked s).2.1).delays.all Retry.Jitter.drawable = true
      · simp only [all, if_true]
        rfl
      · simp only [all, Bool.false_eq_true, if_false]

/-- A request is limited just when its admission is denied. -/
theorem isLimited_execute (c : Config) (s : State) (identifier : String) (call : Call ε α) :
    (step c s (.execute identifier call)).isLimited =
      !(grant c identifier call.clock.asked s).1 := by
  cases granted : (grant c identifier call.clock.asked s).1 with
  | false =>
      rw [step_of_denied granted]
      rfl
  | true =>
      have free := isLimited_of_callTurn
        (callTurn_run c (grant c identifier call.clock.asked s).2.1 call)
      rw [step_of_granted granted, Turn.isLimited_after, free]
      rfl

/-- Whether an event came to a protected call. -/
def protects (turn : Event ε α × Turn ε α) : Bool :=
  match turn.1 with
  | .run _ => true
  | .execute _ _ => !turn.2.isLimited
  | _ => false

/-- The call of an event comes to a delay with nothing to draw from. -/
def Event.Breaks (c : Config) (s : State) : Event ε α → Prop
  | .execute identifier call =>
      (Pipeline.grant c identifier call.clock.asked s).1 = true ∧
        (∃ draws, call.pauses = .random draws) ∧ Undrawable c call.operation call.clock s
  | .run call =>
      (∃ draws, call.pauses = .random draws) ∧ Undrawable c call.operation call.clock s
  | _ => False

theorem isBroken_iff (c : Config) (s : State) (event : Event ε α) :
    (step c s event).isBroken = true ↔ event.Breaks c s := by
  cases event with
  | run call => exact isBroken_run_iff c s call
  | execute identifier call =>
      show _ ↔ (grant c identifier call.clock.asked s).1 = true ∧ _
      cases granted : (grant c identifier call.clock.asked s).1 with
      | false =>
          rw [step_of_denied granted]
          exact iff_of_false Bool.false_ne_true fun stuck => Bool.false_ne_true stuck.1
      | true =>
          -- an admission leaves the breaker as it is
          have broken := isBroken_run_iff c (grant c identifier call.clock.asked s).2.1 call
          rw [step_of_granted granted, Turn.isBroken_after, broken]
          exact (and_iff_right rfl).symm
  | grant identifier now | remaining identifier now | sweep now =>
      exact iff_of_false Bool.false_ne_true id

end Courier.Pipeline
