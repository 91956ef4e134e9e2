/-
  Texts that fit on one line.

  * `Text.Unbroken`: nothing in a text ends a line;
  * `unbroken_join`, `unbroken_decimal`: what messages are put together from;
  * `lines_newline`: such a text and a line terminator are read as one line.
-/
import Caret.Proofs.Text.Numerals
import Caret.Text.Lines

namespace Caret

namespace Text

/-- No code point of a text ends a line. -/
def Unbroken (t : Text) : Prop :=
  ∀ c ∈ t, c.isLineBreak = false

instance (t : Text) : Decidable t.Unbroken :=
  inferInstanceAs (Decidable (∀ c ∈ t, c.isLineBreak = false))

theorem unbroken_join {pieces : List Text} : (join pieces).Unbroken ↔ ∀ t ∈ pieces, t.Unbroken :=
  List.forall_mem_flatten

theorem isLineBreak_of_isDigit {c : CodePoint} (h : c.isDigit = true) :
    c.isLineBreak = false := by
  rw [CodePoint.isDigit, Bool.and_eq_true, decide_eq_true_eq, decide_eq_true_eq] at h
  rw [Bool.eq_false_iff, CodePoint.isLineBreak, Ne, List.any_eq_true]
  rintro ⟨r, hr, hmem⟩
  rw [Bool.and_eq_true, decide_eq_true_eq, decide_eq_true_eq] at hmem
  have hnot : ∀ r ∈ CodePoint.lineBreaks, r.2 < 48 ∨ 57 < r.1 := by decide
  have := hnot r hr
  omega

theorem unbroken_decimal (n : Nat) : (decimal n).Unbroken :=
  fun _ hc => isLineBreak_of_isDigit (isDigit_of_mem_decimal hc)

/-- The carriage return would end a line, so that the case for it never applies. -/
theorem lines_newline {t : Text} (h : t.Unbroken) : lines (t ++ [CodePoint.newline]) = [t] := by
  induction t with
  | nil => decide
  | cons c t ih =>
    obtain ⟨hc, ht⟩ := List.forall_mem_cons.1 h
    have hreturn : c ≠ CodePoint.carriageReturn := by
      rintro rfl
      cases hc
    rw [List.cons_append, lines, if_neg fun hboth => hreturn hboth.1, hc, ih ht]
    rfl

end Text

end Caret
