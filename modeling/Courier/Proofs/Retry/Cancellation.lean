/-
# Courier.Proofs.Retry.Cancellation -- where a cancellation finds a run

A cancellation moves nothing on the timeline of a run, it only ends it: what matters is
the first attempt that has not been started when the cancellation happens
(`CancelledBefore`).

`Ends` lists the two ways a run ends.  Either no cancellation comes before any of its
attempts and it ends as the last of them, at the moment that one is over; or the
cancellation comes before an attempt that would have been made, while the attempt
before it is under way or in the pause after that, and the run ends as cancelled.  The
loop does nothing else (`loopAt_ends`), whichever of a cancellation and the end of a pause
is noticed first when they fall together: noticing the pause first only leads to the next
look at the cancellation (`cut_of_happened`).
-/
import Courier.Proofs.Retry.Attempts
import Courier.Proofs.Retry.Timeline

namespace Courier.Retry

set_option autoImplicit false

variable {ε α : Type}

/-! ## Cancellations on the timeline -/

/-- The cancellation happens before attempt `k` is started: from outside, or as an
earlier attempt is invoked. -/
def CancelledBefore (cancellation : Cancellation) (starts : Nat → Nat) (k : Nat) : Prop :=
  (∃ t, cancellation.moment = some t ∧ t ≤ starts k) ∨ ∃ j < k, cancellation.byAttempt j = true

namespace Cancellation

variable {moment : Option Nat} {now start wake : Nat} {pauseWins : Bool}

/-- The cancellation known of when attempt `k` is about to be started. -/
def known (cancellation : Cancellation) (starts : Nat → Nat) : Nat → Option Nat
  | 0 => cancellation.moment
  | k + 1 => joined (cancellation.known starts k) (cancellation.byAttempt k) (starts k)

theorem happened_iff : happened moment now = true ↔ ∃ t, moment = some t ∧ t ≤ now := by
  cases moment <;> simp [happened]

theorem happened_joined {cancels : Bool} (past : start ≤ now) :
    happened (joined moment cancels start) now = (happened moment now || cancels) := by
  cases cancels <;> cases moment <;> simp [happened, joined, past]

theorem happened_known_iff (cancellation : Cancellation) {starts : Nat → Nat} {k now : Nat}
    (past : ∀ j < k, starts j ≤ now) :
    happened (cancellation.known starts k) now = true ↔
      (∃ t, cancellation.moment = some t ∧ t ≤ now) ∨ ∃ j < k, cancellation.byAttempt j = true := by
  induction k with
  | zero => simp [known, happened_iff]
  | succ k ih =>
      rw [known, happened_joined (past k (Nat.lt_succ_self k)), Bool.or_eq_true,
        ih fun j before => past j (Nat.lt_succ_of_lt before), Nat.exists_lt_succ_right, or_assoc]

/-- Before a cancellation no pause is cut short. -/
theorem cut_of_not_happened (free : happened moment wake = false) :
    cut moment start wake pauseWins = none := by
  cases moment with
  | none => rfl
  | some t =>
      have later : wake < t := by simpa [happened] using free
      simp [cut, later]

/-- A cancellation by the end of a pause ends it at once; where it is not noticed
there, no time passes until it is noticed before the next attempt. -/
theorem cut_of_happened {t : Nat} (pauseWins : Bool) (forward : start ≤ wake) (early : t ≤ wake) :
    cut (some t) start wake pauseWins = some (max start t) ∨
      cut (some t) start wake pauseWins = none ∧ wake = max start t := by
  have notLater : ¬ wake < t := Nat.not_lt.mpr early
  by_cases together : (decide (wake = start) || decide (t = wake)) && pauseWins
  · refine .inr ⟨by simp only [cut, if_neg notLater, if_pos together], ?_⟩
    obtain ⟨same, -⟩ := Bool.and_eq_true_iff.mp together
    rw [Bool.or_eq_true, decide_eq_true_iff, decide_eq_true_iff] at same
    omega
  · exact .inl (by simp only [cut, if_neg notLater, if_neg together])

end Cancellation

theorem happened_iff_cancelledBefore (policy : Policy) (jitter : Jitter)
    (operation : Nat → Attempt ε α) (cancellation : Cancellation) (k : Nat) :
    Cancellation.happened (cancellation.known (started policy jitter operation) k)
        (started policy jitter operation k) = true ↔
      CancelledBefore cancellation (started policy jitter operation) k :=
  cancellation.happened_known_iff fun _ before =>
    started_mono policy jitter operation (Nat.le_of_lt before)

/-! ## How a run ends -/

namespace Trace

/-- The trace of a run that ends as its last attempt does. -/
def ofLast (outcome : Except ε α) (attempts now : Nat) : Trace ε α :=
  match outcome with
  | .ok value => .succeeded value attempts now
  | .error error => .failed error attempts now

/-- The trace with these delays in place of its own. -/
def drawing (delays : List Duration) (t : Trace ε α) : Trace ε α := { t with delays := delays }

theorem ofLast_outcome (outcome : Except ε α) (attempts now : Nat) :
    (ofLast outcome attempts now).outcome = outcome.mapError .operation := by
  cases outcome <;> rfl

theorem ofLast_calls (outcome : Except ε α) (attempts now : Nat) :
    (ofLast outcome attempts now).calls = attempts := by
  cases outcome <;> rfl

theorem ofLast_elapsed (outcome : Except ε α) (attempts now : Nat) :
    (ofLast outcome attempts now).elapsed = now := by
  cases outcome <;> rfl

end Trace

section Loop

variable {policy : Policy} {jitter : Jitter} {shouldRetry : ε → Bool}
variable {operation : Nat → Attempt ε α} {cancellation : Cancellation}
variable {left made : Nat} {current : Duration} {moment : Option Nat} {now : Nat}

theorem loop_of_happened (happened : Cancellation.happened moment now = true) :
    loop policy jitter shouldRetry operation cancellation left made current moment now =
      .cancelled made now := by
  unfold loop
  rw [if_pos happened]

/-- An attempt after which nothing goes on is the last one, and so is one that nothing
may follow. -/
theorem loop_of_stop (free : Cancellation.happened moment now = false)
    (stop : goesOn shouldRetry (operation made).outcome = false ∨ left = 0) :
    loop policy jitter shouldRetry operation cancellation left made current moment now =
      .ofLast (operation made).outcome (made + 1) (now + (operation made).takes) := by
  unfold loop
  rw [if_neg (by rw [free]; exact Bool.false_ne_true)]
  cases ended : (operation made).outcome with
  | ok value => simp only [ended, Trace.ofLast]
  | error error =>
      simp only [ended, Trace.ofLast]
      cases left with
      | zero => rfl
      | succ left =>
          have refused : shouldRetry error = false := by simpa [ended, goesOn] using stop
          simp only [refused, Bool.false_eq_true, if_false]

theorem loop_of_goesOn (free : Cancellation.happened moment now = false)
    (went : goesOn shouldRetry (operation made).outcome = true) :
    loop policy jitter shouldRetry operation cancellation (left + 1) made current moment now =
      (match Cancellation.cut (Cancellation.joined moment (cancellation.byAttempt made) now)
          (now + (operation made).takes)
          (now + (operation made).takes + (jitter made (policy.next current)).sleepMillis)
          (cancellation.pauseWins made) with
        | some t => Trace.cancelled (made + 1) t
        | none =>
            loop policy jitter shouldRetry operation cancellation left (made + 1)
              (policy.next current)
              (Cancellation.joined moment (cancellation.byAttempt made) now)
              (now + (operation made).takes +
                (jitter made (policy.next current)).sleepMillis)).withDelay
        (policy.next current) := by
  rw [loop, if_neg (by rw [free]; exact Bool.false_ne_true)]
  cases ended : (operation made).outcome with
  | ok value => simp [ended, goesOn] at went
  | error error =>
      have worth : shouldRetry error = true := by simpa [ended, goesOn] using went
      simp only [ended, worth, if_true]
      generalize Cancellation.cut _ _ _ _ = stop
      cases stop with
      | none => rfl
      | some t => rfl

end Loop

section Run

variable (policy : Policy) (jitter : Jitter) (shouldRetry : ε → Bool)
variable (operation : Nat → Attempt ε α) (cancellation : Cancellation)

/-- How a run with at most `most` attempts ends, seen from the point where `made` of
them have been made. -/
inductive Ends (most made : Nat) : Trace ε α → Prop where
  /-- It ends as its last attempt does, when that is over. -/
  | settled {n : Nat} (later : made < n)
      (lastOne : LastAttempt shouldRetry (fun k => (operation k).outcome) most n)
      (free : ∀ k < n, ¬ CancelledBefore cancellation (started policy jitter operation) k) :
      Ends most made ((Trace.ofLast (operation (n - 1)).outcome n
        (finished policy jitter operation (n - 1))).drawing
          (policy.delaysFrom (policy.standing made) (n - 1 - made)))
  /-- It is cancelled at `t`, before attempt `n` could be started, and is over when nothing
  is under way any more. -/
  | cancelled {n t : Nat} (later : made ≤ n) (short : n < most)
      (went : ∀ k < n, goesOn shouldRetry (operation k).outcome = true)
      (free : ∀ k < n, ¬ CancelledBefore cancellation (started policy jitter operation) k)
      (moment : cancellation.known (started policy jitter operation) n = some t)
      (early : t ≤ started policy jitter operation n) :
      Ends most made ((Trace.cancelled n (max (idleFrom policy jitter operation n) t)).drawing
        (policy.delaysFrom (policy.standing made) (n - made)))

variable {policy jitter shouldRetry operation cancellation}

/-- One more delay was drawn before the rest of the run. -/
theorem Ends.withDelay {most made : Nat} {t : Trace ε α}
    (ends : Ends policy jitter shouldRetry operation cancellation most (made + 1) t) :
    Ends policy jitter shouldRetry operation cancellation most made
      (t.withDelay (policy.delay made)) := by
  have drawn : ∀ count, policy.delay made :: policy.delaysFrom (policy.standing (made + 1)) count =
      policy.delaysFrom (policy.standing made) (count + 1) := fun count => by
    rw [Policy.delaysFrom, policy.next_standing]
    rfl
  cases ends with
  | @settled n later lastOne free =>
      have count : n - 1 - made = n - 1 - (made + 1) + 1 := by omega
      have ends := Ends.settled (Nat.lt_of_succ_lt later) lastOne free
      rwa [count, ← drawn] at ends
  | @cancelled n t later short went free moment early =>
      have count : n - made = n - (made + 1) + 1 := by omega
      have ends := Ends.cancelled (Nat.le_of_succ_le later) short went free moment early
      rwa [count, ← drawn] at ends

/-- The attempt about to be made is the last one. -/
theorem Ends.ofLast {most made : Nat}
    (lastOne : LastAttempt shouldRetry (fun k => (operation k).outcome) most (made + 1))
    (free : ∀ k < made + 1, ¬ CancelledBefore cancellation (started policy jitter operation) k) :
    Ends policy jitter shouldRetry operation cancellation most made
      (Trace.ofLast (operation made).outcome (made + 1)
        (finished policy jitter operation made)) := by
  have ends := Ends.settled (n := made + 1) (Nat.lt_succ_self made) lastOne free
  have none : made + 1 - 1 - made = 0 := by omega
  rw [none, Nat.add_sub_cancel] at ends
  cases ended : (operation made).outcome with
  | ok value => rwa [ended] at ends
  | error error => rwa [ended] at ends

/-- The cancellation comes before the attempt that would follow this one. -/
theorem Ends.cancelledNext {most made t : Nat} (short : made + 1 < most)
    (went : ∀ k < made + 1, goesOn shouldRetry (operation k).outcome = true)
    (free : ∀ k < made + 1, ¬ CancelledBefore cancellation (started policy jitter operation) k)
    (moment : cancellation.known (started policy jitter operation) (made + 1) = some t)
    (early : t ≤ started policy jitter operation (made + 1)) :
    Ends policy jitter shouldRetry operation cancellation most made
      ((Trace.cancelled (made + 1) (max (finished policy jitter operation made) t)).withDelay
        (policy.delay made)) := by
  have ends := Ends.cancelled (Nat.le_succ made) short went free moment early
  rw [Nat.succ_eq_add_one, Nat.add_sub_cancel_left, Policy.delaysFrom, policy.next_standing] at ends
  exact ends

variable (policy jitter shouldRetry operation cancellation)

/-- The loop on the timeline, as attempt `made` is about to be started. -/
def loopAt (left made : Nat) : Trace ε α :=
  loop policy jitter shouldRetry operation cancellation left made (policy.standing made)
    (cancellation.known (started policy jitter operation) made)
    (started policy jitter operation made)

variable {policy jitter shouldRetry operation cancellation} {left made : Nat}

theorem not_happened_of_free
    (free : ¬ CancelledBefore cancellation (started policy jitter operation) made) :
    Cancellation.happened (cancellation.known (started policy jitter operation) made)
      (started policy jitter operation made) = false := by
  rw [Bool.eq_false_iff]
  exact fun happened => free ((happened_iff_cancelledBefore ..).mp happened)

theorem exists_known
    (before : CancelledBefore cancellation (started policy jitter operation) made) :
    ∃ t, cancellation.known (started policy jitter operation) made = some t ∧
      t ≤ started policy jitter operation made :=
  Cancellation.happened_iff.mp ((happened_iff_cancelledBefore ..).mpr before)

theorem cancelledBefore_of_known {t : Nat}
    (moment : cancellation.known (started policy jitter operation) made = some t)
    (early : t ≤ started policy jitter operation made) :
    CancelledBefore cancellation (started policy jitter operation) made :=
  (happened_iff_cancelledBefore ..).mp (Cancellation.happened_iff.mpr ⟨t, moment, early⟩)

theorem loopAt_of_cancelledBefore
    (before : CancelledBefore cancellation (started policy jitter operation) made) :
    loopAt policy jitter shouldRetry operation cancellation left made =
      .cancelled made (started policy jitter operation made) :=
  loop_of_happened ((happened_iff_cancelledBefore ..).mpr before)

theorem ends_of_stop (went : ∀ k < made, goesOn shouldRetry (operation k).outcome = true)
    (free : ∀ k < made + 1, ¬ CancelledBefore cancellation (started policy jitter operation) k)
    (stop : goesOn shouldRetry (operation made).outcome = false ∨ left = 0) :
    Ends policy jitter shouldRetry operation cancellation (made + left + 1) made
      (loopAt policy jitter shouldRetry operation cancellation left made) := by
  have fresh := not_happened_of_free (free made (Nat.lt_succ_self made))
  rw [loopAt, loop_of_stop fresh stop]
  refine .ofLast ⟨Nat.le_add_left 1 made, by omega, fun k before => went k (by omega), ?_⟩ free
  exact stop.imp_right fun none => by omega

/-- After an attempt that goes on the run is cancelled in the pause, or it comes to the
next attempt. -/
theorem ends_of_goesOn (went : ∀ k < made + 1, goesOn shouldRetry (operation k).outcome = true)
    (free : ∀ k < made + 1, ¬ CancelledBefore cancellation (started policy jitter operation) k)
    (next : ¬ CancelledBefore cancellation (started policy jitter operation) (made + 1) →
      Ends policy jitter shouldRetry operation cancellation (made + 1 + left + 1) (made + 1)
        (loopAt policy jitter shouldRetry operation cancellation left (made + 1))) :
    Ends policy jitter shouldRetry operation cancellation (made + (left + 1) + 1) made
      (loopAt policy jitter shouldRetry operation cancellation (left + 1) made) := by
  have fresh := not_happened_of_free (free made (Nat.lt_succ_self made))
  rw [loopAt, loop_of_goesOn fresh (went made (Nat.lt_succ_self made)), policy.next_standing]
  -- What stands in the equation is the timeline at the next attempt.
  change Ends _ _ _ _ _ _ _ (Trace.withDelay (policy.delay made)
    (match Cancellation.cut (cancellation.known (started policy jitter operation) (made + 1))
        (finished policy jitter operation made) (started policy jitter operation (made + 1))
        (cancellation.pauseWins made) with
      | some t => Trace.cancelled (made + 1) t
      | none => loopAt policy jitter shouldRetry operation cancellation left (made + 1)))
  by_cases before : CancelledBefore cancellation (started policy jitter operation) (made + 1)
  · obtain ⟨t, moment, early⟩ := exists_known before
    have ends : Ends policy jitter shouldRetry operation cancellation (made + (left + 1) + 1) made
        ((Trace.cancelled (made + 1) (max (finished policy jitter operation made) t)).withDelay
          (policy.delay made)) :=
      .cancelledNext (by omega) went free moment early
    have forward := finished_le_started_succ policy jitter operation made
    rw [moment]
    rcases Cancellation.cut_of_happened (cancellation.pauseWins made) forward early with
      cut | ⟨cut, same⟩
    · rw [cut]
      exact ends
    · rw [cut, loopAt_of_cancelledBefore before, same]
      exact ends
  · rw [Cancellation.cut_of_not_happened (not_happened_of_free before)]
    have ends := next before
    rw [Nat.add_right_comm made 1 left] at ends
    exact ends.withDelay

/-- The loop ends in one of the two ways, from every attempt that is started. -/
theorem loopAt_ends (went : ∀ k < made, goesOn shouldRetry (operation k).outcome = true)
    (free : ∀ k < made + 1, ¬ CancelledBefore cancellation (started policy jitter operation) k) :
    Ends policy jitter shouldRetry operation cancellation (made + left + 1) made
      (loopAt policy jitter shouldRetry operation cancellation left made) := by
  induction left generalizing made with
  | zero => exact ends_of_stop went free (.inr rfl)
  | succ left ih =>
      cases goes : goesOn shouldRetry (operation made).outcome with
      | false => exact ends_of_stop went free (.inl goes)
      | true =>
          have went' := Nat.forall_lt_succ_right.mpr ⟨went, goes⟩
          exact ends_of_goesOn went' free fun uncancelled =>
            ih went' (Nat.forall_lt_succ_right.mpr ⟨free, uncancelled⟩)

variable (policy jitter shouldRetry operation cancellation)

theorem runCancellable_ends :
    Ends policy jitter shouldRetry operation cancellation policy.attempts 0
      (runCancellable policy jitter shouldRetry operation cancellation) := by
  have run : runCancellable policy jitter shouldRetry operation cancellation =
    loopAt policy jitter shouldRetry operation cancellation (policy.attempts - 1) 0 := rfl
  have went : ∀ k < 0, goesOn shouldRetry (operation k).outcome = true :=
    fun k before => absurd before (Nat.not_lt_zero k)
  have free : ∀ k < 0, ¬ CancelledBefore cancellation (started policy jitter operation) k :=
    fun k before => absurd before (Nat.not_lt_zero k)
  rw [run]
  by_cases first : CancelledBefore cancellation (started policy jitter operation) 0
  · obtain ⟨t, moment, early⟩ := exists_known first
    have some : 0 < policy.attempts := Nat.lt_of_lt_of_le Nat.zero_lt_one (Nat.le_max_left ..)
    have ends := Ends.cancelled (Nat.le_refl 0) some went free moment early
    have now : max (idleFrom policy jitter operation 0) t = 0 := Nat.max_eq_left early
    rw [now] at ends
    rw [loopAt_of_cancelledBefore first]
    exact ends
  · have ends : Ends policy jitter shouldRetry operation cancellation
        (0 + (policy.attempts - 1) + 1) 0 _ :=
      loopAt_ends went (Nat.forall_lt_succ_right.mpr ⟨free, first⟩)
    rw [Nat.zero_add, policy.attempts_eq] at ends
    exact ends

variable {policy jitter shouldRetry operation cancellation}

/-! ## What a cancellation leaves to chance -/

/-- A run that is cancelled does not also come to its last attempt. -/
theorem LastAttempt.not_cancelled {most n m : Nat}
    (lastOne : LastAttempt shouldRetry (fun k => (operation k).outcome) most n)
    (free : ∀ k < n, ¬ CancelledBefore cancellation (started policy jitter operation) k)
    (short : m < most) (went : ∀ k < m, goesOn shouldRetry (operation k).outcome = true)
    (before : CancelledBefore cancellation (started policy jitter operation) m) : False := by
  rcases Nat.lt_or_ge m n with less | more
  · exact free m less before
  · have positive := lastOne.positive
    rcases lastOne.last with stopped | exhausted
    · have goes := went (n - 1) (by omega)
      rw [stopped] at goes
      exact Bool.false_ne_true goes
    · omega

/-- There is one way for a run to end. -/
theorem Ends.unique {most made : Nat} {t t' : Trace ε α}
    (one : Ends policy jitter shouldRetry operation cancellation most made t)
    (other : Ends policy jitter shouldRetry operation cancellation most made t') : t = t' := by
  cases one with
  | @settled n later lastOne free =>
      cases other with
      | @settled m later' lastOne' free' =>
          obtain rfl := lastOne.unique lastOne'
          rfl
      | @cancelled m t later' short went free' moment early =>
          exact (lastOne.not_cancelled free short went (cancelledBefore_of_known moment early)).elim
  | @cancelled n t later short went free moment early =>
      have before := cancelledBefore_of_known moment early
      cases other with
      | @settled m later' lastOne' free' =>
          exact (lastOne'.not_cancelled free' short went before).elim
      | @cancelled m t' later' short' went' free' moment' early' =>
          have before' := cancelledBefore_of_known moment' early'
          have same : n = m := Nat.le_antisymm
            (Nat.le_of_not_lt fun less => free m less before')
            (Nat.le_of_not_lt fun less => free' n less before)
          subst same
          obtain rfl : t = t' := Option.some.inj (moment.symm.trans moment')
          rfl

namespace Ends

variable {most made : Nat} {t : Trace ε α}

theorem free (ends : Ends policy jitter shouldRetry operation cancellation most made t) :
    ∀ k < t.calls, ¬ CancelledBefore cancellation (started policy jitter operation) k := by
  cases ends with
  | settled later lastOne free =>
      simp only [Trace.drawing, Trace.ofLast_calls]
      exact free
  | cancelled later short went free moment early => exact free

end Ends

end Run

end Courier.Retry
