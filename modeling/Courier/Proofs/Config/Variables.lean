/-
# Courier.Proofs.Config.Variables -- reading variables one after the other

Eleven variables can be wrong (`Variable`).  Each is looked at only if it is set, and is then
taken or not for its own text alone (`Accepts`), whatever the others are.  `Settles` says what
reading some of them in order comes to: a value, if none of them is wrong, or else an error that
names the first one that is.  Readings put one after the other settle the variables of both
(`Settles.bind`), so the order in which a configuration is read is the order in which faults are
told.

One lemma says what reading a number comes to (`settles_number`); what else is asked of it, be it
a limit in other units or that it is not zero, is a parameter (`Keeps`).
-/
import Courier.Config
import Courier.Proofs.Text.Scan

namespace Courier

set_option autoImplicit false

namespace Config

open Text.Integer (Numeral)

/-! ## Variables -/

/-- A variable whose text can be wrong. -/
inductive Variable where
  | maxConnections
  | port
  | security
  | windowMinutes
  | sweepSeconds
  | requests
  | failures
  | successes
  | cooldown
  | attempts
  | timeout
  deriving DecidableEq

namespace Variable

/-- The order in which the variables are looked at. -/
def order : List Variable :=
  [.maxConnections, .port, .security, .windowMinutes, .sweepSeconds, .requests, .failures,
    .successes, .cooldown, .attempts, .timeout]

def name : Variable → String
  | .maxConnections => "DATABASE_MAX_CONNECTIONS"
  | .port => "SMTP_PORT"
  | .security => "SMTP_SECURITY"
  | .windowMinutes => "RATE_LIMIT_WINDOW_MINUTES"
  | .sweepSeconds => "RATE_LIMIT_SWEEP_SECS"
  | .requests => "RATE_LIMIT_REQUESTS"
  | .failures => "SMTP_CB_FAILURE_THRESHOLD"
  | .successes => "SMTP_CB_SUCCESS_THRESHOLD"
  | .cooldown => "SMTP_CB_TIMEOUT_SECS"
  | .attempts => "SMTP_RETRY_MAX_ATTEMPTS"
  | .timeout => "SMTP_ATTEMPT_TIMEOUT_SECS"

/-- One more than the largest number that has room. -/
def size : Variable → Nat
  | .maxConnections | .failures | .successes | .attempts => UInt32.size
  | .port => UInt16.size
  | _ => UInt64.size

/-- The text of the number in a variable: two of them take no blanks around it. -/
def text : Variable → String → List Char
  | .maxConnections, raw => raw.toList
  | .port, raw => raw.toList
  | _, raw => Text.trim raw.toList

/-- Whether a number may stand in a variable beyond having room. -/
def Fits : Variable → Nat → Prop
  | .windowMinutes, n => n * 60 < UInt64.size
  | .sweepSeconds, n => n ≠ 0
  | _, _ => True

/-- The variables with a number of which nothing is asked but that there is room for it. -/
def plain : List Variable := [.requests, .failures, .successes, .cooldown, .attempts, .timeout]

/-- The variables with a number that takes no blanks around it. -/
def bare : List Variable := [.maxConnections, .port]

/-- The names of the modes in which an SMTP server is spoken to. -/
def modes : List String := ["tls", "ssl", "starttls", "plain", "none"]

/-- Whether a variable may be set to a text. -/
def Accepts : Variable → String → Prop
  | .security, raw => String.ofList ((Text.trim raw.toList).map Char.toLower) ∈ modes
  | v, raw => ∃ n < v.size, Numeral n (v.text raw) ∧ v.Fits n

/-- A variable that is set to a text it does not take. -/
def Offends (lookup : Lookup) (v : Variable) : Prop :=
  ∃ raw, lookup v.name = some raw ∧ ¬ v.Accepts raw

/-- The first of the variables that are wrong. -/
def FirstOffending (lookup : Lookup) (v : Variable) : Prop :=
  Offends lookup v ∧ ∃ before after, order = before ++ v :: after ∧
    ∀ w ∈ before, ¬ Offends lookup w

/-- The number a variable gives, or the standard number if it is unset. -/
structure Given (lookup : Lookup) (v : Variable) (standard n : Nat) : Prop where
  unset : lookup v.name = none → n = standard
  set : ∀ raw, lookup v.name = some raw → Numeral n (v.text raw)
  room : n < v.size
  fits : v.Fits n

/-- A setting has the value of its variable, in a unit of its own, or the standard value if the
variable is unset. -/
def Carried (lookup : Lookup) (v : Variable) (unit standard value : Nat) : Prop :=
  (lookup v.name = none → value = standard) ∧
    ∀ raw, lookup v.name = some raw → ∃ n, Numeral n (v.text raw) ∧ value = n * unit

theorem accepts_iff {v : Variable} (numeric : v ≠ .security) (raw : String) :
    v.Accepts raw ↔ ∃ n < v.size, Numeral n (v.text raw) ∧ v.Fits n := by
  cases v with
  | security => exact absurd rfl numeric
  | _ => rfl

theorem Given.carried {lookup : Lookup} {v : Variable} {n own unit standard value : Nat}
    (given : Given lookup v own n) (same : value = n * unit) (preset : standard = own * unit) :
    Carried lookup v unit standard value := by
  subst same preset
  exact ⟨fun unset => congrArg (· * unit) (given.unset unset),
    fun raw set => ⟨n, given.set raw set, rfl⟩⟩

end Variable

open Variable (Offends Given)

/-! ## Readings in order -/

section Reading

variable {α β : Type} {lookup : Lookup}

/-- What reading the variables `vs`, one after the other, comes to: a good value if none of
them is wrong, an error that names the first one otherwise. -/
inductive Settles (lookup : Lookup) (good : α → Prop) :
    List Variable → Except ConfigError α → Prop where
  | fine {vs : List Variable} {a : α} (accepted : ∀ v ∈ vs, ¬ Offends lookup v) (value : good a) :
      Settles lookup good vs (.ok a)
  | wrong {before after : List Variable} {v : Variable} {error : ConfigError}
      (earlier : ∀ w ∈ before, ¬ Offends lookup w) (offends : Offends lookup v)
      (named : error.key = v.name) : Settles lookup good (before ++ v :: after) (.error error)

theorem Settles.bind {good : α → Prop} {better : β → Prop} {vs ws : List Variable}
    {first : Except ConfigError α} {next : α → Except ConfigError β}
    (settles : Settles lookup good vs first)
    (goesOn : ∀ a, good a → Settles lookup better ws (next a)) :
    Settles lookup better (vs ++ ws) (first >>= next) := by
  cases settles with
  | fine accepted value =>
      rename_i a
      have rest := goesOn a value
      change Settles lookup better _ (next a)
      generalize next a = result at rest ⊢
      cases rest with
      | fine others last =>
          exact .fine (fun v member => (List.mem_append.mp member).elim (accepted v) (others v)) last
      | wrong earlier offends named =>
          rw [← List.append_assoc]
          exact .wrong
            (fun w member => (List.mem_append.mp member).elim (accepted w) (earlier w))
            offends named
  | wrong earlier offends named =>
      rw [List.append_assoc, List.cons_append]
      exact .wrong earlier offends named

theorem Settles.ok_iff {good : α → Prop} {vs : List Variable} {result : Except ConfigError α}
    (settles : Settles lookup good vs result) :
    (∃ a, result = .ok a) ↔ ∀ v ∈ vs, ¬ Offends lookup v := by
  cases settles with
  | fine accepted value => exact iff_of_true ⟨_, rfl⟩ accepted
  | wrong earlier offends named =>
      refine iff_of_false (fun ⟨_, same⟩ => nomatch same) fun none => ?_
      exact none _ (List.mem_append_right _ List.mem_cons_self) offends

theorem Settles.good_of_ok {good : α → Prop} {vs : List Variable} {a : α}
    (settles : Settles lookup good vs (.ok a)) : good a := by
  cases settles with
  | fine accepted value => exact value

theorem Settles.first_of_error {good : α → Prop} {vs : List Variable} {error : ConfigError}
    (settles : Settles lookup good vs (.error error)) :
    ∃ before v after, vs = before ++ v :: after ∧ (∀ w ∈ before, ¬ Offends lookup w) ∧
      Offends lookup v ∧ error.key = v.name := by
  cases settles with
  | wrong earlier offends named => exact ⟨_, _, _, rfl, earlier, offends, named⟩

theorem Settles.last {good : α → Prop} {a : α} (value : good a) :
    Settles lookup good [] (.ok a) :=
  .fine (List.forall_mem_nil _) value

theorem not_offends_of_unset {v : Variable} (unset : lookup v.name = none) :
    ¬ Offends lookup v := by
  rintro ⟨raw, set, -⟩
  rw [unset] at set
  cases set

theorem offends_iff {v : Variable} {raw : String} (set : lookup v.name = some raw) :
    Offends lookup v ↔ ¬ v.Accepts raw := by
  constructor
  · rintro ⟨other, same, refused⟩
    rw [set] at same
    cases same
    exact refused
  · exact fun refused => ⟨raw, set, refused⟩

theorem Settles.unset {good : α → Prop} {v : Variable} (unset : lookup v.name = none) {a : α}
    (value : good a) : Settles lookup good [v] (.ok a) := by
  refine .fine (fun w member => ?_) value
  rw [List.mem_singleton.mp member]
  exact not_offends_of_unset unset

theorem Settles.accepted {good : α → Prop} {v : Variable} {raw : String}
    (set : lookup v.name = some raw) (accepts : v.Accepts raw) {a : α} (value : good a) :
    Settles lookup good [v] (.ok a) := by
  refine .fine (fun w member => ?_) value
  rw [List.mem_singleton.mp member, offends_iff set]
  exact not_not_intro accepts

theorem Settles.refused {good : α → Prop} {v : Variable} {raw : String}
    (set : lookup v.name = some raw) (refused : ¬ v.Accepts raw) {error : ConfigError}
    (named : error.key = v.name) : Settles lookup good [v] (.error error) := by
  change Settles lookup good ([] ++ v :: []) _
  exact .wrong (List.forall_mem_nil _) ((offends_iff set).mpr refused) named

/-! ## One variable -/

/-- What is looked at once a number has been read: whether it may stand in its variable. -/
structure Keeps (v : Variable) (keep : Nat → Except ConfigError Nat) : Prop where
  kept : ∀ n, v.Fits n → keep n = .ok n
  refused : ∀ n, ¬ v.Fits n → ∃ error, keep n = .error error ∧ error.key = v.name

theorem number_eq_ok_iff {key : String} {bound n : Nat} {text : List Char} :
    number key bound text = .ok n ↔ Numeral n text ∧ n ≤ bound := by
  rw [← Text.Integer.read_eq_ok_iff, number]
  cases Text.Integer.read bound text with
  | ok m =>
      change Except.ok m = Except.ok n ↔ _
      rw [Except.ok.injEq, Except.ok.injEq]
  | error fault =>
      change Except.error (ConfigError.number key fault) = Except.ok n ↔ _
      exact iff_of_false (fun same => nomatch same) (fun same => nomatch same)

theorem key_of_number {key : String} {bound : Nat} {text : List Char} {error : ConfigError}
    (failed : number key bound text = .error error) : error.key = key := by
  rw [number] at failed
  cases read : Text.Integer.read bound text with
  | ok m =>
      rw [read] at failed
      cases failed
  | error fault =>
      rw [read] at failed
      cases failed
      rfl

/-- A variable that is set is taken for the number its text stands for. -/
theorem settles_number {v : Variable} (numeric : v ≠ .security) {raw : String}
    (set : lookup v.name = some raw) {keep : Nat → Except ConfigError Nat} (keeps : Keeps v keep)
    (standard : Nat) :
    Settles lookup (Given lookup v standard) [v]
      (number v.name (v.size - 1) (v.text raw) >>= keep) := by
  have positive : 0 < v.size := by cases v <;> decide
  cases outcome : number v.name (v.size - 1) (v.text raw) with
  | error error =>
      refine .refused set ?_ (key_of_number outcome)
      rw [Variable.accepts_iff numeric]
      rintro ⟨n, room, numeral, -⟩
      rw [number_eq_ok_iff.mpr ⟨numeral, Nat.le_sub_one_of_lt room⟩] at outcome
      cases outcome
  | ok n =>
      obtain ⟨numeral, room⟩ := number_eq_ok_iff.mp outcome
      have short : n < v.size := by omega
      change Settles lookup _ [v] (keep n)
      by_cases fits : v.Fits n
      · rw [keeps.kept n fits]
        refine .accepted set ((Variable.accepts_iff numeric raw).mpr ⟨n, short, numeral, fits⟩)
          ⟨fun unset => ?_, fun other same => ?_, short, fits⟩
        · rw [set] at unset
          cases unset
        · rw [set] at same
          cases same
          exact numeral
      · obtain ⟨error, failed, named⟩ := keeps.refused n fits
        rw [failed]
        refine .refused set ?_ named
        rw [Variable.accepts_iff numeric]
        rintro ⟨m, -, other, may⟩
        exact fits (numeral.unique other ▸ may)

/-- A variable that is unset gives its standard number. -/
theorem given_of_unset {v : Variable} (unset : lookup v.name = none) {standard : Nat}
    (room : standard < v.size) (fits : v.Fits standard) : Given lookup v standard standard := by
  refine ⟨fun _ => rfl, fun raw set => ?_, room, fits⟩
  rw [unset] at set
  cases set

theorem settles_numberOr {v : Variable} (numeric : v ≠ .security)
    (trims : ∀ raw, v.text raw = Text.trim raw.toList) {keep : Nat → Except ConfigError Nat}
    (keeps : Keeps v keep) {standard : Nat} (room : standard < v.size) (fits : v.Fits standard) :
    Settles lookup (Given lookup v standard) [v]
      (numberOr lookup v.name (v.size - 1) standard >>= keep) := by
  unfold numberOr
  cases set : lookup v.name with
  | none =>
      change Settles lookup _ [v] (keep standard)
      rw [keeps.kept standard fits]
      exact .unset set (given_of_unset set room fits)
  | some raw =>
      dsimp only
      rw [← trims raw]
      exact settles_number numeric set keeps standard

/-- Where nothing else is asked of a number, it stays as it is. -/
theorem keeps_ok {v : Variable} (any : ∀ n, v.Fits n) : Keeps v .ok where
  kept := fun _ _ => rfl
  refused := fun n unfit => absurd (any n) unfit

theorem bind_ok (x : Except ConfigError α) : (x >>= .ok) = x := by
  cases x <;> rfl

theorem settles_plain {v : Variable} (plain : v ∈ Variable.plain) {standard : Nat}
    (room : standard < v.size) :
    Settles lookup (Given lookup v standard) [v]
      (numberOr lookup v.name (v.size - 1) standard) := by
  have numeric : v ≠ .security := by
    rintro rfl
    exact absurd plain (by decide)
  have trims : ∀ raw, v.text raw = Text.trim raw.toList := by
    cases v with
    | maxConnections | port => exact absurd plain (by decide)
    | _ => exact fun _ => rfl
  have any : ∀ n, v.Fits n := by
    cases v with
    | windowMinutes | sweepSeconds => exact absurd plain (by decide)
    | _ => exact fun _ => trivial
  have settles : Settles lookup (Given lookup v standard) [v]
      (numberOr lookup v.name (v.size - 1) standard >>= .ok) :=
    settles_numberOr numeric trims (keeps_ok any) room (any _)
  rwa [bind_ok] at settles

theorem settles_bare {v : Variable} (bare : v ∈ Variable.bare) {standard : Nat} {preset : String}
    (read : number v.name (v.size - 1) preset.toList = .ok standard) :
    Settles lookup (Given lookup v standard) [v]
      (number v.name (v.size - 1) ((lookup v.name).getD preset).toList) := by
  have numeric : v ≠ .security := by
    rintro rfl
    exact absurd bare (by decide)
  have any : ∀ n, v.Fits n := by
    cases v with
    | windowMinutes | sweepSeconds => exact absurd bare (by decide)
    | _ => exact fun _ => trivial
  cases set : lookup v.name with
  | none =>
      have room := (number_eq_ok_iff.mp read).2
      have positive : 0 < v.size := by cases v <;> decide
      rw [Option.getD_none, read]
      exact .unset set (given_of_unset set (by omega) (any standard))
  | some raw =>
      have untrimmed : v.text raw = raw.toList := by
        cases v with
        | maxConnections | port => rfl
        | _ => exact absurd bare (by decide)
      have settles := settles_number numeric set (keeps_ok any) standard
      rwa [bind_ok, untrimmed] at settles

theorem keeps_windowMinutes :
    Keeps .windowMinutes fun minutes =>
      if UInt64.size ≤ minutes * 60 then .error (.tooLarge "RATE_LIMIT_WINDOW_MINUTES")
      else .ok minutes where
  kept := fun _ fits => if_neg (Nat.not_le_of_lt fits)
  refused := fun _ unfit => ⟨_, if_pos (Nat.le_of_not_lt unfit), rfl⟩

theorem keeps_sweepSeconds :
    Keeps .sweepSeconds fun seconds =>
      if seconds = 0 then .error (.zero "RATE_LIMIT_SWEEP_SECS") else .ok seconds where
  kept := fun _ fits => if_neg fits
  refused := fun _ unfit => ⟨_, if_pos (not_not.mp unfit), rfl⟩

theorem read_mode (raw : String) :
    (∃ security, SmtpSecurity.read raw = .ok security) ↔ Variable.security.Accepts raw := by
  change _ ↔ String.ofList ((Text.trim raw.toList).map Char.toLower) ∈ Variable.modes
  unfold SmtpSecurity.read Variable.modes
  generalize String.ofList ((Text.trim raw.toList).map Char.toLower) = mode
  dsimp only
  split
  · rename_i tls
    exact iff_of_true ⟨_, rfl⟩ (by rcases tls with rfl | rfl <;> decide)
  · split
    · rename_i startTls
      exact iff_of_true ⟨_, rfl⟩ (by subst startTls; decide)
    · split
      · rename_i plain
        exact iff_of_true ⟨_, rfl⟩ (by rcases plain with rfl | rfl <;> decide)
      · refine iff_of_false (fun ⟨_, same⟩ => nomatch same) ?_
        simp only [List.mem_cons, List.not_mem_nil]
        tauto

theorem settles_mode (lookup : Lookup) (port : UInt16) :
    Settles lookup (fun _ => True) [.security] (Smtp.mode lookup port) := by
  unfold Smtp.mode
  cases set : lookup "SMTP_SECURITY" with
  | none => exact .unset set trivial
  | some raw =>
      dsimp only
      cases read : SmtpSecurity.read raw with
      | ok security => exact .accepted set ((read_mode raw).mp ⟨security, read⟩) trivial
      | error message =>
          refine .refused set (fun accepts => ?_) rfl
          obtain ⟨security, same⟩ := (read_mode raw).mpr accepts
          rw [read] at same
          cases same

end Reading

end Config

end Courier
