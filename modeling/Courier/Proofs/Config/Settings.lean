/-
# Courier.Proofs.Config.Settings -- which environments make a configuration, and which one

A configuration is made of an environment exactly if none of its variables is wrong, and else
the error names the first one that is, in its message too.  It then carries what is set: each
setting has the value of its variable, in its own unit, and what is unset has the value it has
by default for an SMTP server, as have the parts that no variable sets (`Carries`).
-/
import Courier.Proofs.Config.Variables

namespace Courier

set_option autoImplicit false

/-- An error tells the variable it is about. -/
theorem ConfigError.key_infix_message (error : ConfigError) :
    error.key.toList <:+: error.message.toList := by
  cases error with
  | number key | security key =>
      rw [message, String.toList_append]
      exact (List.suffix_append _ _).isInfix
  | tooLarge key | zero key =>
      rw [message, String.toList_append]
      exact (List.prefix_append _ _).isInfix

namespace Config

open Variable (Offends FirstOffending Carried)

variable {lookup : Lookup}

/-- Seconds and minutes, in nanoseconds. -/
def second : Nat := 1000000000
def minute : Nat := 60 * second

/-- The settings `r` for the sending of email and the protection `c` made of them carry an
environment, with what is in `preset` where nothing is set. -/
structure Carries (lookup : Lookup) (preset : Pipeline.Config) (r : Resilience)
    (c : Pipeline.Config) : Prop where
  requests : Carried lookup .requests 1 preset.rate.maxRequests.toNat c.rate.maxRequests.toNat
  window : Carried lookup .windowMinutes minute preset.rate.window.nanos c.rate.window.nanos
  failures : Carried lookup .failures 1 preset.circuit.failureThreshold.toNat
    c.circuit.failureThreshold.toNat
  successes : Carried lookup .successes 1 preset.circuit.successThreshold.toNat
    c.circuit.successThreshold.toNat
  cooldown : Carried lookup .cooldown second preset.circuit.cooldown.nanos c.circuit.cooldown.nanos
  probes : c.circuit.probes = preset.circuit.probes
  retries : c.retry.isSome = true
  attempts : Carried lookup .attempts 1 preset.policy.maxAttempts.toNat c.policy.maxAttempts.toNat
  /-- Nothing else is set about the delays. -/
  policy : c.policy = { preset.policy with maxAttempts := c.policy.maxAttempts }
  timeout : Carried lookup .timeout second preset.timeout.nanos c.timeout.nanos
  /-- Sweeps are no part of the protection itself. -/
  sweeps : Carried lookup .sweepSeconds second (60 * second) r.sweepInterval.nanos

theorem nanos_ofSeconds {n : Nat} (short : n < UInt64.size) :
    (Duration.ofSeconds n).nanos = n * second :=
  Duration.nanos_ofNanos (Nat.mul_lt_mul_of_pos_right short (by decide))

theorem nanos_ofMinutes {n : Nat} (short : n * 60 < UInt64.size) :
    (Duration.ofSeconds (n * 60)).nanos = n * minute := by
  rw [nanos_ofSeconds short, Nat.mul_assoc, minute]

theorem toNat_ofNat64 {n : Nat} (short : n < UInt64.size) : (UInt64.ofNat n).toNat = n * 1 :=
  (UInt64.toNat_ofNat_of_lt short).trans (Nat.mul_one n).symm

theorem toNat_ofNat32 {n : Nat} (short : n < UInt32.size) : (UInt32.ofNat n).toNat = n * 1 :=
  (UInt32.toNat_ofNat_of_lt short).trans (Nat.mul_one n).symm

theorem policy_pipeline (r : Resilience) :
    r.pipeline.policy =
      { Pipeline.Config.smtp.policy with maxAttempts := r.pipeline.policy.maxAttempts } := by
  simp only [Resilience.pipeline, Pipeline.Config.policy, Pipeline.Config.smtp, Option.map_some,
    Option.getD_some]

theorem resilience_settles (lookup : Lookup) :
    Settles lookup (fun r => Carries lookup Pipeline.Config.smtp r r.pipeline)
      [.windowMinutes, .sweepSeconds, .requests, .failures, .successes, .cooldown, .attempts,
        .timeout] (Resilience.read lookup) := by
  unfold Resilience.read Resilience.windowMinutes Resilience.sweepSeconds
  change Settles lookup _ ([.windowMinutes] ++ ([.sweepSeconds] ++ ([.requests] ++
    ([.failures] ++ ([.successes] ++ ([.cooldown] ++ ([.attempts] ++ ([.timeout] ++ [])))))))) _
  refine (settles_numberOr (by decide) (fun _ => rfl) keeps_windowMinutes (by decide)
    (show _ * 60 < UInt64.size by decide)).bind fun minutes window => ?_
  refine (settles_numberOr (by decide) (fun _ => rfl) keeps_sweepSeconds (by decide)
    (show 60 ≠ 0 by decide)).bind fun seconds sweeps => ?_
  refine (settles_plain (by decide) (by decide)).bind fun _ requests => ?_
  refine (settles_plain (by decide) (by decide)).bind fun _ failures => ?_
  refine (settles_plain (by decide) (by decide)).bind fun _ successes => ?_
  refine (settles_plain (by decide) (by decide)).bind fun _ cooldown => ?_
  refine (settles_plain (by decide) (by decide)).bind fun _ attempts => ?_
  refine (settles_plain (by decide) (by decide)).bind fun _ timeout => ?_
  refine .last ?_
  exact {
    requests := requests.carried (toNat_ofNat64 requests.room) rfl
    window := window.carried (nanos_ofMinutes window.fits) rfl
    failures := failures.carried (toNat_ofNat32 failures.room) rfl
    successes := successes.carried (toNat_ofNat32 successes.room) rfl
    cooldown := cooldown.carried (nanos_ofSeconds cooldown.room) rfl
    probes := rfl
    retries := rfl
    attempts := attempts.carried (toNat_ofNat32 attempts.room) rfl
    policy := policy_pipeline _
    timeout := timeout.carried (nanos_ofSeconds timeout.room) rfl
    sweeps := sweeps.carried (nanos_ofSeconds sweeps.room) rfl }

/-! ## All settings -/

theorem database_settles (lookup : Lookup) :
    Settles lookup (fun _ => True) [.maxConnections] (Database.read lookup) := by
  unfold Database.read
  change Settles lookup _ ([.maxConnections] ++ []) _
  exact (settles_bare (by decide) rfl).bind
    fun _ _ => .last trivial

theorem smtp_settles (lookup : Lookup) :
    Settles lookup (fun _ => True) [.port, .security] (Smtp.read lookup) := by
  unfold Smtp.read
  change Settles lookup _ ([.port] ++ ([.security] ++ [])) _
  refine (settles_bare (by decide) rfl).bind fun port _ => ?_
  exact (settles_mode lookup _).bind fun _ _ => .last trivial

theorem read_settles (lookup : Lookup) :
    Settles lookup (fun c => Carries lookup Pipeline.Config.smtp c.resilience c.resilience.pipeline)
      Variable.order (read lookup) := by
  unfold read
  refine (database_settles lookup).bind fun _ _ => (smtp_settles lookup).bind fun _ _ => ?_
  exact (resilience_settles lookup).bind fun _ carries => .last carries

/-- **A configuration is read exactly if every variable that is set is valid.**  In every
environment: reading succeeds just when none of the eleven variables is set to a text it does not
take; where it fails, the error names the first variable, in the order in which they are looked
at, that is, and says its name in its message; and what is read carries the environment, down to
the protection around the SMTP server. -/
theorem read_iff_valid (lookup : Lookup) :
    ((∃ c, read lookup = .ok c) ↔ ∀ v, ¬ Offends lookup v) ∧
    (∀ error, read lookup = .error error →
      (∃ v, FirstOffending lookup v ∧ error.key = v.name) ∧
        error.key.toList <:+: error.message.toList) ∧
    (∀ c, read lookup = .ok c →
      Carries lookup Pipeline.Config.smtp c.resilience c.resilience.pipeline) := by
  have settles := read_settles lookup
  have every : ∀ v, v ∈ Variable.order := fun v => by cases v <;> decide
  refine ⟨?_, fun error failed => ⟨?_, error.key_infix_message⟩, fun c success => ?_⟩
  · rw [settles.ok_iff]
    exact ⟨fun valid v => valid v (every v), fun valid v _ => valid v⟩
  · rw [failed] at settles
    obtain ⟨before, v, after, split, earlier, offends, named⟩ := settles.first_of_error
    exact ⟨v, ⟨offends, before, after, split, earlier⟩, named⟩
  · rw [success] at settles
    exact settles.good_of_ok

end Config

end Courier
