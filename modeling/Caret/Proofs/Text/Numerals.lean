/-
  Numerals as parts of texts.

  * `CodePoint.isDigit`: the code points that numerals are made of;
  * `decimal_inj`: each number has a numeral of its own;
  * `decimal_append_inj`: a numeral ends where something else than a digit follows it.
-/
import Caret.Text
import Mathlib.Data.List.Basic

namespace Caret

/-- Whether a code point is one of the ten digits of decimal numerals. -/
def CodePoint.isDigit (c : CodePoint) : Bool :=
  48 ≤ c.val && c.val ≤ 57

theorem CodePoint.ofChar_injective : Function.Injective ofChar :=
  fun _ _ h => Char.toNat_inj.1 (congrArg val h)

namespace Text

variable {m n : Nat}

theorem isDigit_of_mem_decimal {c : CodePoint} (h : c ∈ decimal n) : c.isDigit = true := by
  obtain ⟨d, hd, rfl⟩ := List.mem_map.1 h
  have hdigit : d.isDigit = true := Nat.isDigit_of_mem_toDigits (by decide) (by decide) hd
  rw [Char.isDigit, Bool.and_eq_true, decide_eq_true_eq, decide_eq_true_eq] at hdigit
  rw [CodePoint.isDigit, Bool.and_eq_true, decide_eq_true_eq, decide_eq_true_eq]
  exact hdigit

theorem decimal_inj : decimal m = decimal n ↔ m = n := by
  constructor
  · intro h
    have hdigits : Nat.toDigits 10 m = Nat.toDigits 10 n :=
      List.map_injective_iff.2 CodePoint.ofChar_injective h
    have hread := congrArg (Nat.ofDigitChars 10 · 0) hdigits
    simpa only [Nat.ofDigitChars_ten_toDigits] using hread
  · rintro rfl
    rfl

/-- A numeral is what digits there are in front of something that is none. -/
theorem takeWhile_isDigit_decimal_append {c : CodePoint} (hc : c.isDigit = false) (t : Text) :
    (decimal n ++ c :: t).takeWhile CodePoint.isDigit = decimal n := by
  rw [List.takeWhile_append_of_pos fun d hd => isDigit_of_mem_decimal hd,
    List.takeWhile_cons_of_neg (by rw [hc]; nofun), List.append_nil]

theorem decimal_append_inj {c : CodePoint} (hc : c.isDigit = false) {s t : Text} :
    decimal m ++ c :: s = decimal n ++ c :: t ↔ m = n ∧ s = t := by
  constructor
  · intro h
    have hnumeral := congrArg (List.takeWhile CodePoint.isDigit) h
    rw [takeWhile_isDigit_decimal_append hc, takeWhile_isDigit_decimal_append hc] at hnumeral
    rw [hnumeral] at h
    exact ⟨decimal_inj.1 hnumeral, (List.cons.inj (List.append_cancel_left h)).2⟩
  · rintro ⟨rfl, rfl⟩
    rfl

end Text

end Caret
