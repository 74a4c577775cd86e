/-
# Courier.Proofs.Sanitize.Lossless -- a sanitised text loses nothing but what is cut off

Subjects and bodies are trimmed, cut and then escaped, in this order.  As the cut comes first no
entity is ever cut: what comes out is `Safe`, and read back it is the trimmed text, up to the
limit (`text_reads_back`).  What comes out is empty just for a text of blanks, if anything may be
kept at all (`text_eq_empty_iff`).
-/
import Courier.Proofs.Text.Entity
import Courier.Proofs.Text.Scan
import Courier.Sanitize

namespace Courier.Sanitize

set_option autoImplicit false

open Text (isBlank trim)
open Text.Entity (entities escape unescape)

/-- A text in which HTML finds nothing but entities. -/
structure Safe (text : List Char) : Prop where
  bare : ∀ c ∈ ['<', '>', '"', '\''], c ∉ text
  /-- An ampersand begins one of the entities, of which no other can be meant. -/
  whole : ∀ before after, text = before ++ '&' :: after →
    ∃! entity, entity ∈ entities ∧ entity.1 <+: '&' :: after

theorem safe_escape (text : List Char) : Safe (escape text) where
  bare := by
    intro c member
    have written : ∀ c ∈ ['<', '>', '"', '\''], c ∈ Text.Entity.reserved ∧ c ≠ '&' := by decide
    exact Text.Entity.not_mem_escape (written c member).1 (written c member).2
  whole := fun _ _ cut => Text.Entity.existsUnique_entity cut

theorem toList_text (content : String) (limit : Nat) :
    (text content limit).toList = escape ((trim content.toList).take limit) :=
  String.toList_ofList

theorem text_eq_empty_iff (content : String) (limit : Nat) :
    text content limit = "" ↔ limit = 0 ∨ ∀ c ∈ content.toList, isBlank c = true := by
  rw [← String.toList_eq_nil_iff, toList_text, Text.Entity.escape_eq_nil_iff, List.take_eq_nil_iff,
    Text.trim_eq_nil_iff]

/-- **A sanitised text is safe and reads back.**  It holds entities and nothing else that HTML
gives a meaning to; with its entities replaced, from left to right, it is the text without the
blanks around it, or as much of that as the limit allows.  So what two texts come to tells whether
these are the same. -/
theorem text_reads_back (content : String) (limit : Nat) :
    Safe (text content limit).toList ∧
      unescape (text content limit).toList = (trim content.toList).take limit ∧
      ∀ (other : String) (most : Nat), text content limit = text other most ↔
        (trim content.toList).take limit = (trim other.toList).take most := by
  refine ⟨?_, ?_, ?_⟩
  · rw [toList_text]
    exact safe_escape _
  · rw [toList_text, Text.Entity.unescape_escape]
  · intro other most
    rw [← String.toList_inj, toList_text, toList_text]
    exact Text.Entity.escape_injective.eq_iff

/-- A text that had an entity in it, cut behind the one that its ampersand becomes. -/
example : text " &lt; " 1 = "&amp;" ∧ unescape "&amp;lt;".toList = "&lt;".toList := by
  decide +kernel

end Courier.Sanitize
