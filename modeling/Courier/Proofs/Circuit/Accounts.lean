/-
# Courier.Proofs.Circuit.Accounts -- the metrics of a breaker describe a way it went

A breaker counts the transitions it makes and the calls it answers, and both accounts can be
checked against its history.

The transitions, taken in order, are the legs of a way from the closed state to the present
one (`Path`), each of them one of four (`Move`).  On any way a state is entered as often as it
is left, but for the two ends (`Path.balance`); so what is counted into the states and out of
them tells where the breaker stands.

Calls are kept in a `ledger` with one line for each call that asked for leave, in which its
fate is entered: it was turned away, it ended, or it was abandoned.  `Agrees` is what the
ledger has to do with the pending calls and with the metrics.  One event keeps it
(`Step.agrees`): no two pending calls share a number, so the end of a call is entered in one
line, and a line that has its fate is never touched again.
-/
import Courier.Metric.Query
import Courier.Proofs.Circuit.Slots

namespace Courier

set_option autoImplicit false

theorem Circuit.State.name_eq_iff {state other : Circuit.State} :
    state.name = other.name ↔ state = other := by
  cases state <;> cases other <;> simp [Circuit.State.name]

theorem Metric.CallResult.name_eq_iff {result other : Metric.CallResult} :
    result.name = other.name ↔ result = other := by
  cases result <;> cases other <;> simp [Metric.CallResult.name]

namespace Circuit

open Courier.Metric (CallResult total)

/-! ## Ways through the states -/

/-- The moves a circuit can make. -/
inductive Move : State → State → Prop where
  | tripped : Move .closed .opened
  | probed : Move .opened .halfOpen
  | recovered : Move .halfOpen .closed
  | relapsed : Move .halfOpen .opened

/-- Moves that lead from one state to another, each from where the one before it ended. -/
inductive Path : State → List (State × State) → State → Prop where
  | here (s : State) : Path s [] s
  | leg {s t u : State} {moves : List (State × State)} (move : Move s t)
      (rest : Path t moves u) : Path s ((s, t) :: moves) u

namespace Path

variable {s t u : State} {moves more : List (State × State)}

theorem single (move : Move s t) : Path s [(s, t)] t := .leg move (.here t)

theorem append (first : Path s moves t) (second : Path t more u) :
    Path s (moves ++ more) u := by
  induction first with
  | here => exact second
  | leg move _ ih => exact .leg move (ih second)

theorem move_of_mem (path : Path s moves t) {move : State × State} (member : move ∈ moves) :
    Move move.1 move.2 := by
  induction path with
  | here => cases member
  | leg first _ ih =>
      rcases List.mem_cons.mp member with rfl | later
      · exact first
      · exact ih later

/-- A state is entered as often as it is left, but for the two ends of the way. -/
theorem balance (path : Path s moves t) (u : State) :
    moves.countP (fun move => decide (move.2 = u)) + (if s = u then 1 else 0) =
      moves.countP (fun move => decide (move.1 = u)) + (if t = u then 1 else 0) := by
  induction path with
  | here => rfl
  | leg _ _ ih =>
      simp only [List.countP_cons, decide_eq_true_eq]
      omega

end Path

/-! ## What the metrics tell -/

/-- The transition that a metric tells of. -/
def transition? : Metric → Option (State × State)
  | .transition source target => some (source, target)
  | _ => none

/-- The call that a metric counts: the state it is counted under, and how it was answered. -/
def call? : Metric → Option (State × CallResult)
  | .call state result => some (state, result)
  | _ => none

/-- The transitions in a list of metrics, oldest first. -/
def transitions (metrics : List Metric) : List (State × State) := metrics.filterMap transition?

/-- The calls counted in a list of metrics, oldest first. -/
def counted (metrics : List Metric) : List (State × CallResult) := metrics.filterMap call?

theorem total_transitions (labels : List (String × String)) (metrics : List Metric) :
    total .transitions labels metrics =
      (transitions metrics).countP fun move =>
        labels.all [("from", move.1.name), ("to", move.2.name)].contains := by
  refine Metric.total_eq_countP _ _ transition? _ (fun m => ?_) metrics
  cases m <;> rfl

theorem total_calls (labels : List (String × String)) (metrics : List Metric) :
    total .calls labels metrics =
      (counted metrics).countP fun call =>
        labels.all [("result", call.2.name), ("state", call.1.name)].contains := by
  refine Metric.total_eq_countP _ _ call? _ (fun m => ?_) metrics
  cases m <;> rfl

theorem total_into (state : State) (metrics : List Metric) :
    total .transitions [("to", state.name)] metrics =
      (transitions metrics).countP fun move => decide (move.2 = state) := by
  rw [total_transitions]
  refine List.countP_congr fun move _ => ?_
  simp [State.name_eq_iff, eq_comm]

theorem total_outOf (state : State) (metrics : List Metric) :
    total .transitions [("from", state.name)] metrics =
      (transitions metrics).countP fun move => decide (move.1 = state) := by
  rw [total_transitions]
  refine List.countP_congr fun move _ => ?_
  simp [State.name_eq_iff, eq_comm]

theorem total_between (source target : State) (metrics : List Metric) :
    total .transitions [("from", source.name), ("to", target.name)] metrics =
      (transitions metrics).count (source, target) := by
  rw [total_transitions, List.count_eq_countP]
  refine List.countP_congr fun move _ => ?_
  simp [State.name_eq_iff, Prod.ext_iff, @eq_comm _ source, @eq_comm _ target]

theorem total_answered (state : State) (result : CallResult) (metrics : List Metric) :
    total .calls [("state", state.name), ("result", result.name)] metrics =
      (counted metrics).count (state, result) := by
  rw [total_calls, List.count_eq_countP]
  refine List.countP_congr fun call _ => ?_
  simp [State.name_eq_iff, CallResult.name_eq_iff, Prod.ext_iff, @eq_comm _ state,
    @eq_comm _ result]

theorem counted_append (metrics more : List Metric) :
    counted (metrics ++ more) = counted metrics ++ counted more :=
  List.filterMap_append

/-- Transitions count no call. -/
theorem counted_of_moves {metrics : List Metric} (moves : Breaker.Moves metrics) :
    counted metrics = [] := by
  refine List.filterMap_eq_nil_iff.mpr fun m member => ?_
  obtain ⟨source, target, rfl⟩ := moves m member
  rfl

/-- A call and the transition it makes count one call. -/
theorem counted_call {more : List Metric} (state : State) (result : CallResult)
    (moves : Breaker.Moves more) : counted (.call state result :: more) = [(state, result)] := by
  rw [counted, List.filterMap_cons]
  exact congrArg (List.cons _) (counted_of_moves moves)

/-! ## The way of a breaker -/

namespace Breaker

variable {c : Config} {now : Instant} {b : Breaker}

theorem Entry.path {admission : Admission} (entry : Entry c now b admission) :
    Path b.state (transitions admission.metrics) admission.breaker.state := by
  cases entry with
  | passed | cooling | full | probe => exact .here _
  | reopened opened =>
      rw [opened]
      exact .single .probed

theorem Recorded.path {success : Bool} {recorded : Breaker × List Metric}
    (outcome : Recorded c now b success recorded) :
    Path b.state (transitions recorded.2) recorded.1.state := by
  cases outcome with
  | cleared | lateSuccess | counted | suffered | lateFailure => exact .here _
  | recovered half =>
      rw [half]
      exact .single .recovered
  | tripped closed =>
      rw [closed]
      exact .single .tripped
  | relapsed half =>
      rw [half]
      exact .single .relapsed

end Breaker

/-- Whether an event is a call that asks for leave. -/
def Event.asks : Event → Bool
  | .start _ _ => true
  | _ => false

namespace Overlap

variable {c : Config} {o : Overlap}

/-- One event leads on from where the breaker stands. -/
theorem Step.path {event : Event} {next : Overlap × List Metric} (step : Step c o event next) :
    Path o.breaker.state (transitions next.2) next.1.breaker.state := by
  cases step with
  | denied entry | begun entry => exact entry.path
  | replaced entry =>
      rw [Breaker.release_state]
      exact entry.path
  | ended held outcome =>
      have path := outcome.path
      rw [Breaker.release_state] at path
      exact path
  | dropped =>
      rw [Breaker.release_state]
      exact .here _
  | strayFinish | strayDrop => exact .here _

/-- What a history counts, oldest first. -/
def metrics (c : Config) (events : List Event) : List Metric := (initial.run c events).2

theorem run_concat_metrics (c : Config) (o : Overlap) (events : List Event) (event : Event) :
    (o.run c (events ++ [event])).2 =
      (o.run c events).2 ++ ((o.run c events).1.step c event).2 := by
  induction events generalizing o with
  | nil => exact List.append_nil _
  | cons first events ih =>
      simp only [List.cons_append, run, ih, List.append_assoc]

theorem metrics_concat (c : Config) (events : List Event) (event : Event) :
    metrics c (events ++ [event]) = metrics c events ++ ((after c events).step c event).2 :=
  run_concat_metrics c initial events event

/-- The transitions of a history lead from the closed state to the present one. -/
theorem path_after (c : Config) (events : List Event) :
    Path .closed (transitions (metrics c events)) (after c events).breaker.state := by
  induction events using List.reverseRecOn with
  | nil => exact .here _
  | append_singleton events event ih =>
      rw [metrics_concat, after_concat, transitions, List.filterMap_append]
      exact ih.append (step_spec c _ event).path

/-! ## The ledger of calls -/

/-- What has become of a call. -/
inductive Fate where
  | pending
  /-- It was turned away by the breaker in this state, or it ended and its outcome found the
  breaker in this state. -/
  | counted (state : State) (result : CallResult)
  | abandoned
  deriving DecidableEq

/-- Enters the fate of a pending call. -/
def close (call : Nat) (fate : Fate) (lines : List (Nat × Fate)) : List (Nat × Fate) :=
  lines.map fun line => if line = (call, .pending) then (call, fate) else line

/-- The ledger after one more event.  A call that is let through under a number still in use
leaves the older call abandoned. -/
def note (c : Config) (o : Overlap) (lines : List (Nat × Fate)) : Event → List (Nat × Fate)
  | .start call now =>
      if (o.start c call now).1 then close call .abandoned lines ++ [(call, .pending)]
      else lines ++ [(call, .counted o.breaker.state .rejected)]
  | .finish call success _ =>
      close call (.counted o.breaker.state (Breaker.result success)) lines
  | .drop call => close call .abandoned lines

/-- The ledger from a situation on, in which it stands at `lines`. -/
def ledgerFrom (c : Config) (o : Overlap) (lines : List (Nat × Fate)) :
    List Event → List (Nat × Fate)
  | [] => lines
  | event :: events => ledgerFrom c (o.step c event).1 (note c o lines event) events

/-- The calls that asked for leave in a history, oldest first, with what has become of them. -/
def ledger (c : Config) (events : List Event) : List (Nat × Fate) := ledgerFrom c initial [] events

theorem ledgerFrom_concat (c : Config) (o : Overlap) (lines : List (Nat × Fate))
    (events : List Event) (event : Event) :
    ledgerFrom c o lines (events ++ [event]) =
      note c (o.run c events).1 (ledgerFrom c o lines events) event := by
  induction events generalizing o lines with
  | nil => rfl
  | cons first events ih => exact ih (o.step c first).1 (note c o lines first)

theorem ledger_concat (c : Config) (events : List Event) (event : Event) :
    ledger c (events ++ [event]) = note c (after c events) (ledger c events) event :=
  ledgerFrom_concat c initial [] events event

/-! ## Entering a fate -/

variable {call other : Nat} {fate : Fate} {lines : List (Nat × Fate)}

theorem length_close (call : Nat) (fate : Fate) (lines : List (Nat × Fate)) :
    (close call fate lines).length = lines.length :=
  List.length_map _

/-- A call whose fate is entered is pending no longer; the others stay as they are. -/
theorem count_close (ended : fate ≠ .pending) (lines : List (Nat × Fate)) :
    (close call fate lines).count (other, .pending) =
      if other = call then 0 else lines.count (other, .pending) := by
  induction lines with
  | nil => simp [close]
  | cons line lines ih =>
      rw [close, List.map_cons, List.count_cons, List.count_cons]
      rw [close] at ih
      rw [ih]
      by_cases same : other = call
      · by_cases here : line = (call, .pending) <;> simp [here, same, ended]
      · have apart : ¬ call = other := Ne.symm same
        by_cases here : line = (call, .pending) <;> simp [here, same, apart]

/-- Entering a fate adds to those of its kind as many lines as had the call pending. -/
theorem countP_close {state : State} {result : CallResult} (lines : List (Nat × Fate)) :
    (close call fate lines).countP (fun line => decide (line.2 = .counted state result)) =
      lines.countP (fun line => decide (line.2 = .counted state result)) +
        if fate = .counted state result then lines.count (call, .pending) else 0 := by
  induction lines with
  | nil => simp [close]
  | cons line lines ih =>
      rw [close, List.map_cons, List.countP_cons, List.countP_cons, List.count_cons]
      rw [close] at ih
      rw [ih]
      by_cases here : line = (call, .pending)
      · by_cases same : fate = .counted state result <;> simp [here, same]
        omega
      · by_cases same : fate = .counted state result <;> simp [here, same]
        omega

/-! ## The ledger, the pending calls and the metrics -/

theorem permit?_cons (b : Breaker) (call : Nat) (permit : Permit) (rest : List (Nat × Permit))
    (other : Nat) :
    (⟨b, (call, permit) :: rest⟩ : Overlap).permit? other =
      if call = other then some permit else (⟨b, rest⟩ : Overlap).permit? other := by
  unfold permit?
  by_cases same : call = other
  · rw [List.find?_cons_of_pos (by simpa using same), if_pos same]
    rfl
  · rw [List.find?_cons_of_neg (by simpa using same), if_neg same]

theorem permit?_without (o : Overlap) (b : Breaker) (call other : Nat) :
    (⟨b, o.without call⟩ : Overlap).permit? other =
      if other = call then none else o.permit? other := by
  unfold permit? without
  rw [List.find?_filter]
  by_cases same : other = call
  · simp [same]
  · have alike : (fun entry : Nat × Permit =>
        decide ((entry.1 != call) = true ∧ (entry.1 == other) = true)) = (·.1 == other) := by
      funext entry
      by_cases here : entry.1 = other <;> simp [here, same]
    rw [alike, if_neg same]

/-- A ledger that tells of the pending calls and of the calls counted. -/
structure Agrees (o : Overlap) (metrics : List Metric) (lines : List (Nat × Fate)) : Prop where
  /-- A pending call has one line, and nothing else is pending in the ledger. -/
  pending : ∀ call, lines.count (call, .pending) = (o.permit? call).isSome.toNat
  counted : ∀ state result, (counted metrics).count (state, result) =
    lines.countP fun line => decide (line.2 = .counted state result)

namespace Agrees

variable {metrics more : List Metric}

theorem nil : Agrees initial [] [] := ⟨fun _ => rfl, fun _ _ => rfl⟩

/-- A call is no longer pending, and is counted as its fate says. -/
theorem ended (agrees : Agrees o metrics lines) (b : Breaker) (settled : fate ≠ .pending)
    (told : ∀ state result, (Circuit.counted more).count (state, result) =
      if fate = .counted state result then (o.permit? call).isSome.toNat else 0) :
    Agrees ⟨b, o.without call⟩ (metrics ++ more) (close call fate lines) where
  pending other := by
    rw [count_close settled, permit?_without, agrees.pending]
    by_cases same : other = call <;> simp [same]
  counted state result := by
    rw [counted_append, List.count_append, agrees.counted, told, countP_close, agrees.pending]

/-- A call begins under a free number. -/
theorem begun {b : Breaker} {call : Nat} (agrees : Agrees ⟨b, o.without call⟩ metrics lines)
    (breaker : Breaker) (permit : Permit) :
    Agrees ⟨breaker, (call, permit) :: o.without call⟩ metrics (lines ++ [(call, .pending)]) where
  pending other := by
    have before := agrees.pending other
    rw [permit?_without] at before
    rw [permit?_cons, permit?_without, List.count_append, before]
    by_cases same : call = other <;> simp [same]
  counted state result := by
    rw [agrees.counted, List.countP_append]
    rfl

/-- The end of a call that is not pending is entered nowhere. -/
theorem stray (agrees : Agrees o metrics lines) (gone : o.permit? call = none) (fate : Fate) :
    Agrees o (metrics ++ []) (close call fate lines) := by
  have absent : (call, Fate.pending) ∉ lines := by
    rw [← List.count_eq_zero, agrees.pending, gone]
    rfl
  have same : close call fate lines = lines := by
    refine (List.map_congr_left fun line member => if_neg ?_).trans (List.map_id _)
    rintro rfl
    exact absent member
  rw [same, List.append_nil]
  exact agrees

/-- A call that is turned away is counted at once. -/
theorem denied (agrees : Agrees o metrics lines) (call : Nat) :
    Agrees o (metrics ++ [.call o.breaker.state .rejected])
      (lines ++ [(call, .counted o.breaker.state .rejected)]) where
  pending other := by
    rw [List.count_append, agrees.pending]
    simp
  counted state result := by
    rw [counted_append, List.count_append, agrees.counted, counted_call _ _ Breaker.moves_nil,
      List.countP_append]
    simp [List.count_cons, Prod.ext_iff]

/-- A call that is let through is pending, and takes the place of an older one of its number. -/
theorem admitted {call : Nat} {now : Instant} {permit : Permit} {breaker : Breaker}
    (agrees : Agrees o metrics lines)
    (entry : Breaker.Entry c now o.breaker ⟨some permit, breaker, more⟩) (next : Breaker) :
    Agrees ⟨next, (call, permit) :: o.without call⟩ (metrics ++ more)
      (note c o lines (.start call now)) := by
  have granted : (o.start c call now).1 = true := by
    rw [start_eq_isSome, entry.eq_enter]
    rfl
  rw [note, if_pos granted]
  refine Agrees.begun (agrees.ended o.breaker (by simp) fun state result => ?_) next permit
  rw [counted_of_moves entry.moves_of_granted]
  simp

end Agrees

/-- One event keeps the ledger in agreement. -/
theorem Step.agrees {event : Event} {next : Overlap × List Metric} {metrics : List Metric}
    (step : Step c o event next) (agrees : Agrees o metrics lines) :
    Agrees next.1 (metrics ++ next.2) (note c o lines event) := by
  cases step with
  | @denied call now told entry =>
      have away : (o.start c call now).1 = false := by
        rw [start_eq_isSome, entry.eq_enter]
        rfl
      rw [note, if_neg (by simp [away]), entry.metrics_of_denied]
      exact agrees.denied call
  | @begun call now permit breaker told entry free =>
      exact agrees.admitted entry breaker
  | @replaced call now permit older breaker told entry held =>
      exact agrees.admitted entry (breaker.release older)
  | @ended call success now permit recorded held outcome =>
      refine agrees.ended recorded.1 (by simp) fun state result => ?_
      rw [counted_call _ _ outcome.moves, held]
      simp [List.count_cons, Prod.ext_iff]
  | @dropped call permit held =>
      refine agrees.ended _ (by simp) fun state result => ?_
      simp [counted]
  | strayFinish gone => exact agrees.stray gone _
  | strayDrop gone => exact agrees.stray gone _

theorem agrees_after (c : Config) (events : List Event) :
    Agrees (after c events) (metrics c events) (ledger c events) := by
  induction events using List.reverseRecOn with
  | nil => exact .nil
  | append_singleton events event ih =>
      rw [after_concat, metrics_concat, ledger_concat]
      exact (step_spec c _ event).agrees ih

/-- Every call that asks for leave has a line of its own. -/
theorem length_ledger (c : Config) (events : List Event) :
    (ledger c events).length = events.countP Event.asks := by
  induction events using List.reverseRecOn with
  | nil => rfl
  | append_singleton events event ih =>
      rw [ledger_concat, List.countP_append, ← ih]
      cases event with
      | start call now =>
          rw [note]
          split <;> simp [length_close, Event.asks]
      | finish call success now => simp [note, length_close, Event.asks]
      | drop call => simp [note, length_close, Event.asks]

/-- **The metrics of a breaker describe a way it went.**  After any history the transitions
counted, in their order, lead from the closed state to the present one, each of them one of the
four moves and no other ever counted; so those counted into a state less those counted out of
it are one for the present state, less one for the closed state, with which it began.

Every call that asked for leave has one line in the ledger.  Those that were turned away are
counted under the state that did so, and those that ended under the state their outcome found,
each in one number of the calls and once; those that were abandoned or are still pending are
counted nowhere. -/
theorem moves_and_calls_counted (c : Config) (events : List Event) :
    let metrics := (initial.run c events).2
    Path .closed (transitions metrics) (after c events).breaker.state ∧
    (∀ source target, ¬ Move source target →
      total .transitions [("from", source.name), ("to", target.name)] metrics = 0) ∧
    (∀ state : State,
      (total .transitions [("to", state.name)] metrics : Int) -
          total .transitions [("from", state.name)] metrics =
        (if (after c events).breaker.state = state then 1 else 0) -
          (if state = .closed then 1 else 0)) ∧
    (ledger c events).length = events.countP Event.asks ∧
    (∀ state result,
      total .calls [("state", state.name), ("result", result.name)] metrics =
        (ledger c events).countP fun line => decide (line.2 = .counted state result)) ∧
    ∀ call, (call, Fate.pending) ∈ ledger c events ↔
      ((after c events).permit? call).isSome = true := by
  intro recorded
  have path : Path .closed (transitions recorded) (after c events).breaker.state :=
    path_after c events
  have agrees : Agrees (after c events) recorded (ledger c events) := agrees_after c events
  refine ⟨path, ?_, ?_, length_ledger c events, ?_, ?_⟩
  · intro source target never
    rw [total_between, List.count_eq_zero]
    exact fun member => never (path.move_of_mem member)
  · intro state
    have balance := path.balance state
    rw [total_into, total_outOf]
    simp only [@eq_comm _ State.closed state] at balance
    split_ifs at balance ⊢ <;> omega
  · intro state result
    rw [total_answered, agrees.counted]
  · intro call
    rw [← List.count_pos_iff, agrees.pending]
    cases (after c events).permit? call <;> simp

/-- A call is counted under the state that its outcome finds, whatever state let it through. -/
example :
    ledger strict [.start 1 0, .start 2 0, .finish 1 false 0, .finish 2 true 0, .start 3 0] =
      [(1, .counted .closed .failure), (2, .counted .opened .success),
        (3, .counted .opened .rejected)] := by
  decide

end Overlap

end Circuit

end Courier
