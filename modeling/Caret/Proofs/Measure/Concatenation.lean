/-
  Measuring turns concatenation into addition.

  * `length_lastLine_append`: the length of the last line of two texts, one behind the other, is a
    sum that forgets the first text if the second has rows;
  * `EndsAt.append_iff`: where the end of a concatenation lies, measure by measure;
  * `EndsAt.add_eq_ok_iff`, `EndsAt.add_of_lt`: the sum of two ends is the end of the concatenation,
    and refused exactly if that is;
  * `measure_append`: the same of measured texts, watched or not.
-/
import Caret.Proofs.Measure.EndPosition

namespace Caret.Text

variable {x y : Text} {a b c : Composite}

/-- Any length that adds up, such as that in bytes or in UTF-16 code units. -/
theorem length_lastLine_append (length : Text → Nat)
    (hadd : ∀ x y, length (x ++ y) = length x + length y) (x y : Text) :
    length (x ++ y).lastLine =
      (if y.rows = 0 then length x.lastLine else 0) + length y.lastLine := by
  by_cases hrows : y.rows = 0
  · have hy : CodePoint.newline ∉ y := rows_eq_zero_iff.1 hrows
    rw [if_pos hrows, lastLine_append_of_notMem x hy, hadd, lastLine_of_notMem hy]
  · have hy : CodePoint.newline ∈ y := Classical.not_not.1 (mt rows_eq_zero_iff.2 hrows)
    rw [if_neg hrows, lastLine_append_of_mem x hy, Nat.zero_add]

/-- The end of a concatenation is found by adding the ends, measure by measure. -/
theorem EndsAt.append_iff (hx : x.EndsAt a) (hy : y.EndsAt b) :
    (x ++ y).EndsAt c ↔ a.index.add b.index = .ok c.index ∧ a.utf8.add b.utf8 = .ok c.utf8 ∧
      a.utf16.add b.utf16 = .ok c.utf16 := by
  rw [ByteIndex.add_eq_ok_iff, RowColumn.add_eq_ok_iff, RowColumn.add_eq_ok_iff, hx.index_eq,
    hy.index_eq, hx.row8_eq, hy.row8_eq, hx.column8_eq, hy.column8_eq, hx.row16_eq, hy.row16_eq,
    hx.column16_eq, hy.column16_eq, ← bytes_append, ← rows_append,
    ← length_lastLine_append bytes bytes_append, ← length_lastLine_append units units_append]
  constructor
  · intro h
    exact ⟨h.index_eq, ⟨h.row8_eq, h.column8_eq⟩, h.row16_eq, h.column16_eq⟩
  · rintro ⟨hi, ⟨hr8, hc8⟩, hr16, hc16⟩
    exact ⟨encodable_append.2 ⟨hx.encodable, hy.encodable⟩, hi, hr8, hc8, hr16, hc16⟩

/-- The sum of two ends is the end of the concatenation. -/
theorem EndsAt.add_eq_ok_iff (hx : x.EndsAt a) (hy : y.EndsAt b) :
    a.add b = .ok c ↔ (x ++ y).EndsAt c ∧ c.checked = (a.checked || b.checked) := by
  rw [Composite.add_eq_ok_iff, hx.append_iff hy]
  constructor
  · rintro ⟨hi, h8, h16, hk, -⟩
    exact ⟨⟨hi, h8, h16⟩, hk⟩
  · rintro ⟨⟨hi, h8, h16⟩, hk⟩
    exact ⟨hi, h8, h16, hk, fun _ => ((hx.append_iff hy).2 ⟨hi, h8, h16⟩).consistent⟩

theorem EndsAt.add_of_lt (hx : x.EndsAt a) (hy : y.EndsAt b)
    (h : Coordinate.limit < (x ++ y).bytes) :
    a.add b = .error (.sumTooLarge "index" a.index.index.decimal b.index.index.decimal) := by
  refine Composite.add_of_index_lt ?_
  rwa [hx.index_eq, hy.index_eq, ← bytes_append]

/-- **Measuring is a homomorphism from concatenation to addition.** Within the limit both texts,
    their sum and their concatenation have ends, and the last two are the same place; beyond it both
    are refused as an overflow. Nothing is refused for being watched. -/
theorem measure_append (x y : Text) (hx : x.Encodable) (hy : y.Encodable) (p q r : Bool) :
    ((x ++ y).bytes ≤ Coordinate.limit →
      ∃ a b c d, x.measure p = .ok a ∧ y.measure q = .ok b ∧ a.add b = .ok c ∧
        (x ++ y).measure r = .ok d ∧ c.SamePlace d ∧ PositionKind.test .eq c d = .ok true) ∧
    (∀ a b, x.measure p = .ok a → y.measure q = .ok b → Coordinate.limit < (x ++ y).bytes →
      ∃ f g, a.add b = .error f ∧ (x ++ y).measure r = .error g ∧
        f.kind? = some .overflow ∧ g.kind? = some .overflow) := by
  have hxy : (x ++ y).Encodable := encodable_append.2 ⟨hx, hy⟩
  constructor
  · intro hle
    have hlen := bytes_append x y
    obtain ⟨a, ha, rfl⟩ := exists_endsAt hx (by omega) p
    obtain ⟨b, hb, rfl⟩ := exists_endsAt hy (by omega) q
    obtain ⟨c, hc, hck⟩ := exists_endsAt hxy hle (a.checked || b.checked)
    obtain ⟨d, hd, rfl⟩ := exists_endsAt hxy hle r
    have hcd : c.SamePlace d := hc.samePlace hd
    exact ⟨a, b, c, d, measure_eq_ok_iff.2 ⟨ha, rfl⟩, measure_eq_ok_iff.2 ⟨hb, rfl⟩,
      (ha.add_eq_ok_iff hb).2 ⟨hc, hck⟩, measure_eq_ok_iff.2 ⟨hd, rfl⟩, hcd, hcd.test_eq⟩
  · intro a b ha hb hlt
    exact ⟨_, _, (measure_eq_ok_iff.1 ha).1.add_of_lt (measure_eq_ok_iff.1 hb).1 hlt,
      measure_of_lt hxy hlt, rfl, rfl⟩

/-- A line end that is split between two texts, and a text that fills the limit. -/
theorem measure_append_split_and_full :
    (Encodable ("é\r" : Text) ∧ Encodable ("\n𝄞a" : Text) ∧
      ∃ a b c d, measure "é\r" true = .ok a ∧ measure "\n𝄞a" false = .ok b ∧ a.add b = .ok c ∧
        measure (("é\r" : Text) ++ ("\n𝄞a" : Text)) true = .ok d ∧ c.SamePlace d ∧
        PositionKind.test .eq c d = .ok true) ∧
    ∃ (full : Text) (a b : Composite) (f g : Fault), full.Encodable ∧ full.measure true = .ok a ∧
      measure "\n" true = .ok b ∧ a.add b = .error f ∧
      measure (full ++ ("\n" : Text)) true = .error g ∧
      f.kind? = some .overflow ∧ g.kind? = some .overflow := by
  refine ⟨⟨by decide, by decide,
    (measure_append "é\r" "\n𝄞a" (by decide) (by decide) true false true).1 (by decide)⟩, ?_⟩
  have hfull : Encodable (List.replicate Coordinate.limit (CodePoint.ofChar 'a')) :=
    encodable_replicate (by decide)
  have hbytes : bytes (List.replicate Coordinate.limit (CodePoint.ofChar 'a')) =
      Coordinate.limit := by
    rw [bytes_replicate, show (CodePoint.ofChar 'a').utf8.length = 1 from rfl, Nat.mul_one]
  obtain ⟨a, ha⟩ : ∃ a, measure (List.replicate Coordinate.limit (CodePoint.ofChar 'a')) true =
      .ok a := exists_measure_iff.2 ⟨hfull, hbytes.le⟩
  obtain ⟨b, hb⟩ : ∃ b, measure "\n" true = .ok b := exists_measure_iff.2 (by decide)
  have hlt : Coordinate.limit <
      bytes (List.replicate Coordinate.limit (CodePoint.ofChar 'a') ++ ("\n" : Text)) := by
    rw [bytes_append, hbytes]
    exact Nat.lt_succ_self _
  obtain ⟨f, g, h⟩ := (measure_append _ "\n" hfull (by decide) true true true).2 a b ha hb hlt
  exact ⟨_, a, b, f, g, hfull, ha, hb, h⟩

end Caret.Text
