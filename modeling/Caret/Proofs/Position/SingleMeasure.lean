/-
  Positions in one measure: byte indices, and rows and columns in one unit.

  Their sums and differences undo each other over the whole range of numbers. Composites are not
  among them, as their measures need not agree on which of two positions is the later one.

  * `SingleMeasure`: what such kinds have in common;
  * `Kind.singleMeasure`: all kinds but composites are such;
  * `SingleMeasure.test_eq`: their comparisons are never refused;
  * `sub_undoes_add`: differences undo sums, and sums undo differences.
-/
import Caret.Proofs.Position.Difference

namespace Caret

open PositionKind

/-- A kind of position on which comparing, and taking away, is never refused. -/
class SingleMeasure (P : Type) [PositionKind P] : Prop where
  comparable_eq_ok (a b : P) : comparable a b = .ok ()
  order_eq_eq_iff {a b : P} : order a b = .eq ↔ a = b
  order_swap (a b : P) : (order a b).swap = order b a
  exists_sub (a b : P) : ∃ d, saturatingSub a b = .ok d
  sub_eq_zero {a b : P} : order a b ≠ .gt → saturatingSub a b = .ok zero
  add_of_sub {a b d : P} : order b a ≠ .gt → saturatingSub a b = .ok d → add b d = .ok a
  sub_of_add {a b s : P} : add a b = .ok s → saturatingSub s a = .ok b

instance : SingleMeasure ByteIndex where
  comparable_eq_ok _ _ := rfl
  order_eq_eq_iff := ByteIndex.order_eq_eq_iff
  order_swap := ByteIndex.order_swap
  exists_sub a b := ⟨a.monus b, rfl⟩
  sub_eq_zero h := congrArg Except.ok (ByteIndex.monus_eq_zero h)
  add_of_sub h hd := by cases hd; exact ByteIndex.add_monus h
  sub_of_add h := congrArg Except.ok (ByteIndex.monus_of_add h)

instance (u : ColumnUnit) : SingleMeasure (RowColumn u) where
  comparable_eq_ok _ _ := rfl
  order_eq_eq_iff := RowColumn.order_eq_eq_iff
  order_swap := RowColumn.order_swap
  exists_sub a b := ⟨a.monus b, rfl⟩
  sub_eq_zero h := congrArg Except.ok (RowColumn.monus_eq_zero h)
  add_of_sub h hd := by cases hd; exact RowColumn.add_monus h
  sub_of_add h := congrArg Except.ok (RowColumn.monus_of_add h)

theorem Kind.singleMeasure : (k : Kind) → k ≠ .composite → SingleMeasure k.Place
  | .byteIndex, _ => inferInstanceAs (SingleMeasure ByteIndex)
  | .rowColumn u, _ => inferInstanceAs (SingleMeasure (RowColumn u))
  | .composite, h => absurd rfl h

namespace SingleMeasure

variable {P : Type} [PositionKind P] [SingleMeasure P] {a b c s : P}

theorem test_eq (cmp : Comparison) (a b : P) : test cmp a b = .ok (cmp.holds (order a b)) := by
  rw [PositionKind.test_eq, comparable_eq_ok]
  rfl

theorem test_eq_iff : test .eq a b = .ok true ↔ a = b := by
  rw [test_eq, ← order_eq_eq_iff (P := P)]
  simp [Comparison.holds]

theorem test_le_iff : test .le a b = .ok true ↔ order a b ≠ .gt := by
  rw [test_eq]
  simp [Comparison.holds]

theorem test_ge_iff : test .ge a b = .ok true ↔ order b a ≠ .gt := by
  rw [test_eq, ← order_swap a b]
  cases order a b <;> simp [Comparison.holds]

theorem add_left_cancel (hb : add a b = .ok s) (hc : add a c = .ok s) : b = c :=
  Except.ok.inj ((sub_of_add hb).symm.trans (sub_of_add hc))

end SingleMeasure

open SingleMeasure

/-- **Differences and sums undo each other.** A difference is always answered: the start, from a
    position that is not behind, and otherwise what leads there. What was added can be taken off
    again, so that sums with the same first summand differ where the second ones do. -/
theorem sub_undoes_add (k : Kind) (hk : k ≠ .composite) (a b : k.Place) :
    (test .eq a b = .ok true ↔ a = b) ∧
    (∃ d, saturatingSub a b = .ok d) ∧
    (test .le a b = .ok true → saturatingSub a b = .ok zero) ∧
    (test .ge a b = .ok true → ∃ d, saturatingSub a b = .ok d ∧ add b d = .ok a) ∧
    (∀ s, add a b = .ok s → saturatingSub s a = .ok b) ∧
    ∀ c s t, add a b = .ok s → add a c = .ok t → test .eq s t = .ok true →
      test .eq b c = .ok true := by
  have := k.singleMeasure hk
  refine ⟨test_eq_iff, exists_sub a b, ?_, ?_, fun s hs => sub_of_add hs, ?_⟩
  · intro hle
    exact sub_eq_zero (test_le_iff.1 hle)
  · intro hge
    obtain ⟨d, hd⟩ := exists_sub a b
    exact ⟨d, hd, add_of_sub (test_ge_iff.1 hge) hd⟩
  · intro c s t hs ht heq
    obtain rfl := test_eq_iff.1 heq
    exact test_eq_iff.2 (add_left_cancel hs ht)

/-- On the last row, from a column in the middle to the last one. -/
theorem sub_undoes_add_on_last_row :
    Kind.rowColumn .utf16 ≠ .composite ∧ ∃ a b d : RowColumn .utf16,
      a.row.val = Coordinate.limit ∧ a.column.val = Coordinate.limit ∧
        test .ge a b = .ok true ∧ saturatingSub a b = .ok d ∧ add b d = .ok a ∧ d.row = .zero := by
  let a : RowColumn .utf16 := ⟨4294967295, 4294967295⟩
  let b : RowColumn .utf16 := ⟨4294967295, 7⟩
  have hge : test .ge a b = .ok true := test_ge_iff.2 (by decide)
  obtain ⟨-, -, -, hsub, -⟩ := sub_undoes_add (.rowColumn .utf16) (by decide) a b
  obtain ⟨d, hd, hadd⟩ := hsub hge
  refine ⟨by decide, a, b, d, rfl, rfl, hge, hd, hadd, ?_⟩
  cases hd
  rfl

end Caret
