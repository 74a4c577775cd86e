/-
# Courier.Proofs.Store.Faults -- only faults of the database count against it

The breaker in front of a database is told of the query alone.  A query that ends in a
fault, or runs past its limit, is a failure; any other is a success, whatever the caller
makes of the reply.  `Mistake` lists the errors a caller gets from a reply: an id that no
row has, an update that touches no row, a row that holds no record.

* `step_taken`: an operation is turned away, or settled by what its query came to;
* `interpret_eq_error_iff`: a reply is an error to the caller exactly in a `Mistake`;
* `only_faults_count`: every operation of a session is counted by its query alone, so
  that without faults a closed circuit stays closed, and none opens without ten faults
  in a row.
-/
import Courier.Proofs.Circuit.Step
import Courier.Store.Database

namespace Courier.Store.Database

set_option autoImplicit false

open Circuit (Breaker Permit)

/-! ## Queries that fail -/

theorem Exchange.faulty_eq_true_iff {x : Exchange} :
    x.faulty = true ↔ x.answer = none ∨ ∃ fault, x.answer = some (.error fault) := by
  unfold faulty limited
  rcases x.answer with - | (fault | reply) <;> simp [Except.isOk, Except.toBool]

theorem Exchange.faulty_eq_false_iff {x : Exchange} :
    x.faulty = false ↔ ∃ reply, x.answer = some (.ok reply) := by
  unfold faulty limited
  rcases x.answer with - | (fault | reply) <;> simp [Except.isOk, Except.toBool]

/-! ## Replies that are errors to the caller -/

/-- The errors a caller gets from a reply of the database. -/
inductive Mistake : Operation → Reply → ServiceError → Prop where
  /-- There is no row with the id. -/
  | missing {id : String} {reply : Reply} (empty : reply.rows = []) :
      Mistake (.get id) reply (.notFound id)
  | unknownStatus {id : String} {reply : Reply} {row : Row} (first : reply.rows.head? = some row)
      (unknown : Notification.Status.ofName? row.status = none) :
      Mistake (.get id) reply (.database (Notification.Status.unknown row.status))
  | unknownKind {id : String} {reply : Reply} {row : Row} (first : reply.rows.head? = some row)
      (known : (Notification.Status.ofName? row.status).isSome)
      (unknown : Notification.Kind.ofName? row.kind = none) :
      Mistake (.get id) reply (.database (Notification.Kind.unknown row.kind))
  /-- No row was touched. -/
  | statusUnset {id : String} {status : Notification.Status} {reply : Reply}
      (none : reply.affected = 0) : Mistake (.setStatus id status) reply (.notFound id)
  | sentUnset {id : String} {sentAt : Timestamp} {retries : UInt32} {reply : Reply}
      (none : reply.affected = 0) : Mistake (.markSent id sentAt retries) reply (.notFound id)
  | failedUnset {id error : String} {retries : UInt32} {reply : Reply}
      (none : reply.affected = 0) : Mistake (.markFailed id error retries) reply (.notFound id)

theorem touched_eq_error_iff {id : String} {reply : Reply} {error : ServiceError} :
    touched id reply = .error error ↔ reply.affected = 0 ∧ error = .notFound id := by
  unfold touched
  by_cases none : reply.affected = 0
  · simp [none, eq_comm]
  · simp [none]

/-- A row is refused for its status first, then for its kind. -/
theorem notification_eq_error_iff {row : Row} {error : ServiceError} :
    row.notification = .error error ↔
      (Notification.Status.ofName? row.status = none ∧
        error = .database (Notification.Status.unknown row.status)) ∨
      ((Notification.Status.ofName? row.status).isSome ∧
        Notification.Kind.ofName? row.kind = none ∧
        error = .database (Notification.Kind.unknown row.kind)) := by
  unfold Row.notification
  cases Notification.Status.ofName? row.status with
  | none => simp [eq_comm]
  | some status =>
      cases Notification.Kind.ofName? row.kind with
      | none => simp [eq_comm]
      | some kind => simp

/-- A reply is an error to the caller exactly in a `Mistake`. -/
theorem interpret_eq_error_iff {operation : Operation} {reply : Reply} {error : ServiceError} :
    interpret operation reply = .error error ↔ Mistake operation reply error := by
  constructor
  · intro refused
    cases operation with
    | create | ping => cases refused
    | setStatus | markSent | markFailed =>
        obtain ⟨none, rfl⟩ := touched_eq_error_iff.mp refused
        constructor
        exact none
    | get id =>
        simp only [interpret] at refused
        cases first : reply.rows.head? with
        | none =>
            simp only [first] at refused
            cases refused
            exact .missing (List.head?_eq_none_iff.mp first)
        | some row =>
            simp only [first] at refused
            cases read : row.notification with
            | ok n => simp [read, Except.map] at refused
            | error e =>
                rw [read] at refused
                cases refused
                obtain ⟨unknown, rfl⟩ | ⟨known, unknown, rfl⟩ := notification_eq_error_iff.mp read
                · exact .unknownStatus first unknown
                · exact .unknownKind first known unknown
  · intro mistake
    cases mistake with
    | missing empty => simp [interpret, empty]
    | unknownStatus first unknown =>
        simp [interpret, first, notification_eq_error_iff.mpr (.inl ⟨unknown, rfl⟩), Except.map]
    | unknownKind first known unknown =>
        simp [interpret, first, notification_eq_error_iff.mpr (.inr ⟨known, unknown, rfl⟩),
          Except.map]
    | statusUnset none | sentUnset none | failedUnset none =>
        exact touched_eq_error_iff.mpr ⟨none, rfl⟩

/-! ## One operation -/

/-- What a caller gets whose operation is turned away. -/
def turnedAway : Outcome := .error (.database "database circuit breaker is open")

/-- What the end of an operation is to a breaker that has its permit back. -/
def Exchange.recorded (x : Exchange) (held : Breaker) : Breaker × List Metric :=
  if x.faulty then held.recordFailure protection.circuit x.finish
  else held.recordSuccess protection.circuit

theorem Exchange.recorded_recorded (x : Exchange) (held : Breaker) :
    Breaker.Recorded protection.circuit x.finish held (!x.faulty) (x.recorded held) := by
  unfold recorded
  cases x.faulty with
  | true => exact Breaker.recordFailure_recorded protection.circuit x.finish held
  | false => exact Breaker.recordSuccess_recorded protection.circuit x.finish held

/-- The ways an operation can go. -/
inductive Taken (b : Breaker) (x : Exchange) : Turn → Prop where
  | denied (admission : x.admission b = ⟨none, b, [.call b.state .rejected]⟩) :
      Taken b x ⟨turnedAway, b, [.call b.state .rejected]⟩
  | settled (permit : Permit) (breaker : Breaker) (opening : List Metric) (completed : Bool)
      (admission : x.admission b = ⟨some permit, breaker, opening⟩)
      (entry : Breaker.Entry protection.circuit x.start b ⟨some permit, breaker, opening⟩) :
      Taken b x ⟨(limited x.answer).1.bind (interpret x.operation),
        (x.recorded (breaker.release permit)).1,
        opening ++ [.timed completed] ++
          .call breaker.state (Breaker.result (!x.faulty)) ::
            (x.recorded (breaker.release permit)).2⟩

theorem step_taken (b : Breaker) (x : Exchange) : Taken b x (step b x) := by
  have entry : Breaker.Entry protection.circuit x.start b (x.admission b) :=
    Breaker.enter_entry protection.circuit x.start b
  cases admission : x.admission b with
  | mk permit breaker metrics =>
      rw [admission] at entry
      cases permit with
      | none =>
          have answer : step b x = ⟨turnedAway, breaker, metrics⟩ := by
            unfold Exchange.admission at admission
            simp only [step, apply, bounded, admission]
            rfl
          rw [answer, entry.metrics_of_denied, entry.eq_of_denied]
          rw [entry.metrics_of_denied, entry.eq_of_denied] at admission
          exact .denied admission
      | some permit =>
          have settled : breaker.settle protection.circuit x.finish permit
              (limited x.answer).1.isOk =
              ((x.recorded (breaker.release permit)).1, .call breaker.state
                (Breaker.result (!x.faulty)) :: (x.recorded (breaker.release permit)).2) := by
            unfold Breaker.settle Exchange.recorded Exchange.faulty Breaker.result
            cases (limited x.answer).1.isOk <;> rfl
          have answer : step b x = ⟨(limited x.answer).1.bind (interpret x.operation),
              (x.recorded (breaker.release permit)).1, metrics ++ [.timed (limited x.answer).2] ++
                .call breaker.state (Breaker.result (!x.faulty)) ::
                  (x.recorded (breaker.release permit)).2⟩ := by
            unfold Exchange.admission at admission
            simp only [step, apply, bounded, admission, settled]
          rw [answer]
          exact .settled _ _ _ _ admission entry

/-! ## What is counted -/

/-- An operation that was let through is counted by what its query came to. -/
structure Admitted (e : Entry) (permit : Permit) : Prop where
  failure : (∃ state, Metric.call state .failure ∈ e.turn.metrics) ↔
    e.exchange.answer = none ∨ ∃ fault, e.exchange.answer = some (.error fault)
  success : (∃ state, Metric.call state .success ∈ e.turn.metrics) ↔
    ∃ reply, e.exchange.answer = some (.ok reply)
  breaker : e.turn.breaker =
    (e.exchange.recorded ((e.exchange.admission e.before).breaker.release permit)).1
  /-- A success clears a closed circuit's count. -/
  cleared : e.before.state = .closed → (∃ reply, e.exchange.answer = some (.ok reply)) →
    e.turn.breaker = { e.before with failures := 0 }
  /-- A failure adds one to it, and the tenth in a row opens the circuit. -/
  suffered : e.before.state = .closed →
    (e.exchange.answer = none ∨ ∃ fault, e.exchange.answer = some (.error fault)) →
      e.turn.breaker =
        if e.before.failures + 1 < 10 then
          { e.before with
            failures := e.before.failures + 1, lastFailure := some e.exchange.finish }
        else
          { e.before with
            state := .opened, failures := 0, lastFailure := some e.exchange.finish }
  late : e.exchange.answer = none → e.turn.outcome = .error (.ofTimedOut ⟨protection.timeout⟩)
  fault : ∀ fault, e.exchange.answer = some (.error fault) →
    e.turn.outcome = .error (.ofFault fault)
  /-- The caller of one that counts as a success may get an error all the same. -/
  mistake : ∀ reply error, e.exchange.answer = some (.ok reply) →
    (e.turn.outcome = .error error ↔ Mistake e.exchange.operation reply error)

/-- What is counted of an operation. -/
structure Counted (e : Entry) : Prop where
  denied : (e.exchange.admission e.before).permit = none →
    e.turn = ⟨turnedAway, e.before, [.call e.before.state .rejected]⟩
  admitted : ∀ permit, (e.exchange.admission e.before).permit = some permit → Admitted e permit

variable {b : Breaker} {x : Exchange}

/-- Among the metrics of an operation that was let through is one call. -/
theorem call_mem_iff {state found : Circuit.State} {result counted : Metric.CallResult}
    {opening moves : List Metric} {completed : Bool} (first : Breaker.Moves opening)
    (last : Breaker.Moves moves) :
    Metric.call state result ∈ opening ++ [.timed completed] ++ .call found counted :: moves ↔
      state = found ∧ result = counted := by
  have notFirst : Metric.call state result ∉ opening := by
    intro member
    obtain ⟨source, target, same⟩ := first _ member
    cases same
  have notLast : Metric.call state result ∉ moves := by
    intro member
    obtain ⟨source, target, same⟩ := last _ member
    cases same
  simp [notFirst, notLast]

/-- A closed circuit lets every operation through. -/
theorem admission_of_closed (closed : b.state = .closed) :
    x.admission b = ⟨some ⟨false⟩, b, []⟩ := by
  have entry : Breaker.Entry protection.circuit x.start b (x.admission b) :=
    Breaker.enter_entry protection.circuit x.start b
  generalize x.admission b = admission at entry ⊢
  cases entry with
  | passed => rfl
  | cooling opened | reopened opened => simp [closed] at opened
  | full half | probe half => simp [closed] at half

theorem recorded_of_closed (closed : b.state = .closed) (sound : x.faulty = false) :
    (x.recorded b).1 = { b with failures := 0 } := by
  have outcome := x.recorded_recorded b
  rw [sound] at outcome
  generalize x.recorded b = recorded at outcome ⊢
  cases outcome with
  | cleared => rfl
  | lateSuccess opened => simp [closed] at opened
  | counted half | recovered half => simp [closed] at half

theorem recorded_of_closed_of_faulty (closed : b.state = .closed) (faulty : x.faulty = true) :
    (x.recorded b).1 =
      if b.failures + 1 < 10 then
        { b with failures := b.failures + 1, lastFailure := some x.finish }
      else { b with state := .opened, failures := 0, lastFailure := some x.finish } := by
  have outcome := x.recorded_recorded b
  have limit : protection.circuit.failureThreshold.toNat = 10 := rfl
  rw [faulty] at outcome
  generalize x.recorded b = recorded at outcome ⊢
  cases outcome with
  | suffered unprobed few =>
      rw [limit] at few
      rw [if_pos few]
  | tripped closed enough =>
      rw [limit] at enough
      rw [if_neg (Nat.not_lt.mpr enough)]
  | lateFailure opened => simp [closed] at opened
  | relapsed half => simp [closed] at half

/-- A closed circuit is told of the query, and nothing else changes it. -/
theorem breaker_of_closed (closed : b.state = .closed) :
    (step b x).breaker = (x.recorded b).1 := by
  have taken := step_taken b x
  generalize step b x = turn at taken ⊢
  cases taken with
  | denied admission => simp [admission_of_closed closed] at admission
  | settled permit breaker opening completed admission entry =>
      rw [admission_of_closed closed] at admission
      cases admission
      rfl

/-- What the caller gets from a closed circuit. -/
theorem outcome_of_closed (closed : b.state = .closed) :
    (step b x).outcome = (limited x.answer).1.bind (interpret x.operation) := by
  have taken := step_taken b x
  generalize step b x = turn at taken ⊢
  cases taken with
  | denied admission => simp [admission_of_closed closed] at admission
  | settled => rfl

theorem step_counted (b : Breaker) (x : Exchange) : Counted ⟨x, b, step b x⟩ := by
  have taken := step_taken b x
  have closing := fun closed : b.state = .closed => breaker_of_closed (x := x) closed
  generalize step b x = turn at taken closing ⊢
  cases taken with
  | denied admission => exact ⟨fun _ => rfl, by simp [admission]⟩
  | settled permit breaker opening completed admission entry =>
      refine ⟨by simp [admission], ?_⟩
      intro granted same
      obtain rfl : permit = granted := by simpa [admission] using same
      have first := entry.moves_of_granted
      have last := (x.recorded_recorded (breaker.release permit)).moves
      constructor
      · rw [← Exchange.faulty_eq_true_iff]
        simp only [call_mem_iff first last, Breaker.result]
        cases x.faulty <;> simp
      · rw [← Exchange.faulty_eq_false_iff]
        simp only [call_mem_iff first last, Breaker.result]
        cases x.faulty <;> simp
      · rw [admission]
      · intro closed sound
        exact (closing closed).trans
          (recorded_of_closed closed (Exchange.faulty_eq_false_iff.mpr sound))
      · intro closed faulty
        exact (closing closed).trans
          (recorded_of_closed_of_faulty closed (Exchange.faulty_eq_true_iff.mpr faulty))
      · intro late
        rw [show x.answer = none from late]
        rfl
      · intro fault answered
        rw [show x.answer = some (.error fault) from answered]
        rfl
      · intro reply error answered
        rw [show x.answer = some (.ok reply) from answered]
        exact interpret_eq_error_iff

/-! ## Operations one after the other -/

/-- Faults in a row at the end of a list of operations. -/
def faultsAtEnd (exchanges : List Exchange) : Nat :=
  (exchanges.reverse.takeWhile (·.faulty)).length

@[simp] theorem faultsAtEnd_concat (exchanges : List Exchange) (x : Exchange) :
    faultsAtEnd (exchanges ++ [x]) = if x.faulty then faultsAtEnd exchanges + 1 else 0 := by
  unfold faultsAtEnd
  rw [List.reverse_concat, List.takeWhile_cons]
  split <;> rfl

/-- A breaker counts no more failures than there were faults in a row. -/
structure Backed (b : Breaker) (faults : Nat) : Prop where
  closed : b.state = .closed → b.failures ≤ faults
  moved : b.state ≠ .closed → b.failures = 0

/-- The end of an operation that was let through keeps to that, and opens a closed circuit
only at the fault that makes them ten. -/
theorem recorded_backed {held : Breaker} {faults : Nat} (backed : Backed held faults)
    (through : held.state ≠ .opened) :
    Backed (x.recorded held).1 (if x.faulty then faults + 1 else 0) ∧
      (held.state = .closed → (x.recorded held).1.state = .opened →
        x.faulty = true ∧ 10 ≤ faults + 1) := by
  have outcome := x.recorded_recorded held
  generalize x.recorded held = recorded at outcome ⊢
  cases faulty : x.faulty with
  | false =>
      rw [faulty] at outcome
      cases outcome with
      | cleared closed => exact ⟨⟨fun _ => Nat.le_refl 0, fun _ => rfl⟩, by simp [closed]⟩
      | lateSuccess opened => exact absurd opened through
      | counted half =>
          have zero := backed.moved (by simp [half])
          exact ⟨⟨by simp [half], fun _ => zero⟩, by simp [half]⟩
      | recovered half => exact ⟨⟨fun _ => Nat.le_refl 0, fun _ => rfl⟩, by simp [half]⟩
  | true =>
      rw [faulty] at outcome
      cases outcome with
      | suffered unprobed =>
          have closed : held.state = .closed := by
            cases state : held.state <;> simp_all
          have below := backed.closed closed
          exact ⟨⟨fun _ => Nat.succ_le_succ below, fun moved => absurd closed moved⟩,
            fun _ opened => absurd opened through⟩
      | tripped closed enough =>
          have below := backed.closed closed
          have limit : protection.circuit.failureThreshold.toNat = 10 := rfl
          refine ⟨⟨fun _ => Nat.zero_le _, fun _ => rfl⟩, fun _ _ => ⟨rfl, ?_⟩⟩
          omega
      | lateFailure opened => exact absurd opened through
      | relapsed half => exact ⟨⟨fun _ => Nat.zero_le _, fun _ => rfl⟩, by simp [half]⟩

theorem step_backed {faults : Nat} (backed : Backed b faults) (x : Exchange) :
    Backed (step b x).breaker (if x.faulty then faults + 1 else 0) ∧
      (b.state = .closed → (step b x).breaker.state = .opened →
        x.faulty = true ∧ 10 ≤ faults + 1) := by
  have taken := step_taken b x
  generalize step b x = turn at taken ⊢
  cases taken with
  | denied admission =>
      have unclosed : b.state ≠ .closed := by
        intro closed
        simp [admission_of_closed closed] at admission
      exact ⟨⟨fun closed => absurd closed unclosed, backed.moved⟩,
        fun closed => absurd closed unclosed⟩
  | settled permit breaker opening completed admission entry =>
      have held : Backed (breaker.release permit) faults ∧
          (breaker.release permit).state ≠ .opened ∧
          (b.state = .closed → (breaker.release permit).state = .closed) := by
        cases entry with
        | passed closed =>
            exact ⟨⟨by simpa using backed.closed, by simpa using backed.moved⟩, by simp [closed],
              by simp⟩
        | reopened opened =>
            have zero := backed.moved (by simp [opened])
            exact ⟨⟨by simp, by simp [zero]⟩, by simp, by simp [opened]⟩
        | probe half =>
            have zero := backed.moved (by simp [half])
            exact ⟨⟨by simp [half], by simp [zero]⟩, by simp [half], by simp [half]⟩
      obtain ⟨backed, through, kept⟩ := held
      have outcome := recorded_backed (x := x) backed through
      exact ⟨outcome.1, fun closed => outcome.2 (kept closed)⟩

theorem after_backed (exchanges : List Exchange) :
    Backed (after .initial exchanges) (faultsAtEnd exchanges) := by
  induction exchanges using List.reverseRecOn with
  | nil => exact ⟨fun _ => Nat.le_refl 0, fun _ => rfl⟩
  | append_singleton exchanges x ih =>
      rw [after_concat, faultsAtEnd_concat]
      exact (step_backed ih x).1

/-- Without faults a circuit does not open. -/
theorem step_opened (sound : x.faulty = false) (opened : (step b x).breaker.state = .opened) :
    b.state = .opened := by
  have taken := step_taken b x
  generalize step b x = turn at taken opened ⊢
  cases taken with
  | denied => exact opened
  | settled permit breaker opening completed admission entry =>
      have outcome := x.recorded_recorded (breaker.release permit)
      rw [sound] at outcome
      generalize x.recorded (breaker.release permit) = recorded at outcome opened
      cases entry with
      | reopened found => exact found
      | passed | probe => cases outcome <;> simp_all

theorem after_opened {exchanges : List Exchange} (sound : ∀ x ∈ exchanges, x.faulty = false)
    (opened : (after b exchanges).state = .opened) : b.state = .opened := by
  induction exchanges using List.reverseRecOn with
  | nil => exact opened
  | append_singleton exchanges x ih =>
      rw [after_concat] at opened
      refine ih (fun y member => sound y (List.mem_append_left _ member)) ?_
      exact step_opened (sound x (by simp)) opened

/-- Without faults a closed circuit lets everything through. -/
theorem session_of_closed {exchanges : List Exchange} (closed : b.state = .closed)
    (sound : ∀ x ∈ exchanges, x.faulty = false) (e : Entry) (member : e ∈ session b exchanges) :
    e.before.state = .closed ∧ (e.exchange.admission e.before).permit = some ⟨false⟩ ∧
      e.turn.breaker = { b with failures := 0 } := by
  induction exchanges generalizing b with
  | nil => cases member
  | cons x rest ih =>
      have left := (breaker_of_closed closed).trans (recorded_of_closed closed (sound x (by simp)))
      unfold session at member
      cases member with
      | head => exact ⟨closed, by rw [admission_of_closed closed], left⟩
      | tail _ later =>
          rw [left] at later
          exact ih (b := { b with failures := 0 }) closed
            (fun y inside => sound y (List.mem_cons_of_mem x inside)) later

theorem session_counted {exchanges : List Exchange} (e : Entry) (member : e ∈ session b exchanges) :
    Counted e := by
  induction exchanges generalizing b with
  | nil => cases member
  | cons x rest ih =>
      unfold session at member
      cases member with
      | head => exact step_counted b x
      | tail _ later => exact ih later

/-- **Only faults of the database count against it.**  Every operation of a session is
counted by its query alone: one that is let through as a failure if its query ended in a fault
or ran past its limit and as a success otherwise, although some of these are errors to the
caller (`Mistake`).  So a list of operations without a fault leaves a closed circuit closed
with its count cleared, and opens none; and a circuit opens only at the fault that makes them
ten in a row. -/
theorem only_faults_count (b : Breaker) (exchanges : List Exchange) :
    (∀ e ∈ session b exchanges, Counted e) ∧
    ((∀ x ∈ exchanges, ∃ reply, x.answer = some (.ok reply)) →
      ((after b exchanges).state = .opened → b.state = .opened) ∧
      (b.state = .closed → ∀ e ∈ session b exchanges, e.before.state = .closed ∧
        (e.exchange.admission e.before).permit = some ⟨false⟩ ∧
        e.turn.breaker = { b with failures := 0 })) ∧
    (∀ x, (after .initial exchanges).state = .closed →
      (after .initial (exchanges ++ [x])).state = .opened →
      10 ≤ faultsAtEnd (exchanges ++ [x])) := by
  refine ⟨fun e member => session_counted e member, fun answered => ?_, fun x closed opened => ?_⟩
  · have sound : ∀ x ∈ exchanges, x.faulty = false :=
      fun x member => Exchange.faulty_eq_false_iff.mpr (answered x member)
    exact ⟨after_opened sound, fun closed => session_of_closed closed sound⟩
  · rw [after_concat] at opened
    obtain ⟨faulty, ten⟩ := (step_backed (after_backed exchanges) x).2 closed opened
    simpa [faulty] using ten

end Courier.Store.Database
