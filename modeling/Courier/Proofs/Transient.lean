/-
# Courier.Proofs.Transient -- what the words of transient errors are found in

An error counts as transient by its text when one of six words occurs in it (`occursIn_iff`).  None
of these ends in a character that durations are rendered with, so a rendered duration at the end of
a text has no part in it (`isTransient_append_render`).

The two texts that tell of a timeout end in the limit, and what comes before it says `timed out` and
not `timeout`.  So neither is transient, whatever the limit (`isTransient_of_timeoutTexts`).
-/
import Courier.Proofs.Duration.Text
import Courier.Transient

namespace Courier.Transient

set_option autoImplicit false

variable {part first last text : List Char} {c : Char}

/-! ## Parts of texts -/

theorem occursIn_iff : occursIn part text = true ↔ part <:+: text := by
  induction text with
  | nil => rw [occursIn, List.isEmpty_iff, List.infix_nil]
  | cons c text ih =>
      rw [occursIn, Bool.or_eq_true, ih, List.isPrefixOf_iff_prefix, List.infix_cons_iff]

/-- A part does not reach into an end of the text that is without the part's last character. -/
theorem occursIn_append (ends : part.getLast? = some c) (absent : c ∉ last) :
    occursIn part (first ++ last) = occursIn part first := by
  rw [Bool.eq_iff_iff, occursIn_iff, occursIn_iff, List.infix_append_iff]
  constructor
  · rintro (here | behind | ⟨front, back, rfl, before, after⟩)
    · exact here
    · exact absurd (behind.subset (List.mem_of_getLast? ends)) absent
    · by_cases none : back = []
      · rw [none, List.append_nil]
        exact before.isInfix
      · rw [List.getLast?_append_of_ne_nil front none] at ends
        exact absurd (after.subset (List.mem_of_getLast? ends)) absent
  · exact .inl

/-! ## Texts that end in a duration -/

/-- No word ends in a character that durations are rendered with. -/
theorem words_end : ∀ word ∈ words,
    word.toList.getLast?.any (fun c => !Duration.isMeasure c) = true := by
  decide

theorem lowercase_append_render {before : List Char} (ascii : ∀ c ∈ before, c.toNat < 128)
    (limit : Duration) :
    Text.lowercase (before ++ limit.render.toList) =
      Text.lowercase before ++ limit.render.toList := by
  have alone : Text.lowercase (before ++ []) = before.map Char.toLower ++ [] :=
    Text.lowerFrom_append ascii
  rw [List.append_nil, List.append_nil] at alone
  rw [alone, Text.lowercase, Text.lowerFrom_append ascii, Duration.lowerFrom_render]

/-- A duration at the end of a text makes nothing transient, and nothing permanent. -/
theorem isTransient_append_render {before : String} (ascii : ∀ c ∈ before.toList, c.toNat < 128)
    (limit : Duration) : isTransient (before ++ limit.render) = isTransient before := by
  have same : ∀ word ∈ words,
      occursIn word.toList (Text.lowercase (before ++ limit.render).toList) =
        occursIn word.toList (Text.lowercase before.toList) := by
    intro word member
    obtain ⟨c, ends, other⟩ := (Option.any_eq_true _ _).mp (words_end word member)
    have absent : c ∉ limit.render.toList := by
      intro inside
      rw [Duration.measured_render limit c inside] at other
      cases other
    rw [String.toList_append, lowercase_append_render ascii, occursIn_append ends absent]
  rw [Bool.eq_iff_iff, isTransient, isTransient, List.any_eq_true, List.any_eq_true]
  exact exists_congr fun word => and_congr_right fun member => by rw [same word member]

/-! ## Timeouts -/

/-- The texts that tell of a timeout: that of the timeout, and that of a delivery that ran into
one. -/
def timeoutTexts (limit : Duration) : List String :=
  [TimedOut.message ⟨limit⟩, Mail.DeliveryError.describe (.timedOut limit)]

/-- No text of a timeout is transient. -/
theorem isTransient_of_timeoutTexts {limit : Duration} {message : String}
    (told : message ∈ timeoutTexts limit) : isTransient message = false := by
  have ascii : ∀ before ∈ ["Operation timed out after ", "SMTP attempt timed out after "],
      (∀ c ∈ before.toList, c.toNat < 128) ∧ isTransient before = false := by decide +kernel
  obtain rfl | delivery := List.mem_cons.mp told
  · obtain ⟨low, permanent⟩ := ascii "Operation timed out after " (by decide)
    exact (isTransient_append_render low limit).trans permanent
  · obtain rfl := List.mem_singleton.mp delivery
    obtain ⟨low, permanent⟩ := ascii "SMTP attempt timed out after " (by decide)
    exact (isTransient_append_render low limit).trans permanent

/-- The word is there in one piece, or it is not found. -/
example : isTransient "Connection TIMEOUT" = true ∧ isTransient "timed out" = false := by
  decide +kernel

end Courier.Transient
