/-
  Operations of positions and ranges report where they find a disagreement.

  Each of them is one computation, whoever it reports to. In a session it comes to what it comes to
  where nobody listens, and has reported what it was refused for, if that was a disagreement, and
  nothing else. It is shown step by step: an operation that reports what it goes on from, or that
  asks again after it was refused, would not be of this form.

  * `Composite.lift_checkConsistency`, `Composite.lift_checkComparable`: the two checks;
  * `PositionKind.lift_test`, …: comparisons and arithmetic of any kind;
  * `Range.lift_overlaps`, …, `PositionRange.lift_overlaps`, …: operations of ranges;
  * `Text.lift_measure`: measuring.
-/
import Caret.Position.Any
import Caret.Proofs.Reporting.Silent

namespace Caret

open Session

/-! ## Composites -/

namespace Composite

variable (a b c : Composite)

theorem lift_checkConsistency : lift c.checkConsistency = c.checkConsistency SessionM := by
  unfold checkConsistency
  cases c.violation? with
  | none => rfl
  | some v => exact lift_violated v

theorem lift_checkComparable : lift (a.checkComparable b) = a.checkComparable b SessionM := by
  unfold checkComparable
  rw [lift_ite, lift_pure, lift_violated]

theorem lift_comparable : lift (a.comparable b) = a.comparable b SessionM := by
  unfold comparable
  rw [lift_ite, lift_pure, lift_checkComparable]

theorem lift_of (index : ByteIndex) (utf8 : RowColumn .utf8) (utf16 : RowColumn .utf16)
    (checked : Bool) :
    lift (of index utf8 utf16 checked) = of index utf8 utf16 checked SessionM := by
  unfold of
  rw [lift_ite, lift_pure, lift_map, lift_checkConsistency]

theorem lift_ofInts (index row column8 column16 : Int) (checked : Bool) :
    lift (ofInts index row column8 column16 checked) =
      ofInts index row column8 column16 checked SessionM := by
  simp only [ofInts, lift_bind, lift_ofExcept (ByteIndex.silent_ofInt _),
    lift_ofExcept (RowColumn.silent_ofInts _ _), lift_of]

theorem lift_withChecked (checked : Bool) :
    lift (c.withChecked checked) = c.withChecked checked SessionM :=
  lift_of c.index c.utf8 c.utf16 checked

theorem lift_add : lift (a.add b) = a.add b SessionM := by
  simp only [add, lift_bind, lift_ofExcept (ByteIndex.silent_add _ _),
    lift_ofExcept (RowColumn.silent_add _ _), lift_of]

theorem lift_saturatingSub : lift (a.saturatingSub b) = a.saturatingSub b SessionM := by
  simp only [saturatingSub, lift_bind, lift_comparable, lift_of]

end Composite

theorem Text.lift_measure (t : Text) (checked : Bool) :
    lift (t.measure checked) = t.measure checked SessionM := by
  simp only [measure, lift_bind, lift_ofExcept t.silent_endPosition, Composite.lift_withChecked]

/-! ## Positions -/

namespace PositionKind

variable {k : Kind} (a b : k.Place)

theorem lift_comparable : lift (comparable a b) = comparable a b SessionM := by
  cases k with
  | composite => exact Composite.lift_comparable a b
  | _ => rfl

theorem lift_add : lift (add a b) = add a b SessionM := by
  cases k with
  | byteIndex => exact lift_ofExcept (ByteIndex.silent_add a b)
  | rowColumn u => exact lift_ofExcept (RowColumn.silent_add a b)
  | composite => exact Composite.lift_add a b

theorem lift_saturatingSub : lift (saturatingSub a b) = saturatingSub a b SessionM := by
  cases k with
  | composite => exact Composite.lift_saturatingSub a b
  | _ => rfl

theorem lift_eq : lift (eq a b) = eq a b SessionM := by
  simp only [eq, lift_bind, lift_comparable, lift_pure]

theorem lift_lt : lift (lt a b) = lt a b SessionM := by
  simp only [lt, lift_bind, lift_comparable, lift_pure]

theorem lift_test (c : Comparison) : lift (test c a b) = test c a b SessionM := by
  cases c <;> simp only [test, lift_bind, lift_ite, lift_eq, lift_lt, lift_pure]

end PositionKind

namespace Position

variable (p q : Position)

theorem lift_add : lift (p.add q) = p.add q SessionM := by
  unfold add
  split
  · rw [lift_map, PositionKind.lift_add]
  · exact lift_mismatch _

theorem lift_saturatingSub : lift (p.saturatingSub q) = p.saturatingSub q SessionM := by
  unfold saturatingSub
  split
  · rw [lift_map, PositionKind.lift_saturatingSub]
  · exact lift_mismatch _

theorem lift_sum : lift (p.sum q) = p.sum q SessionM := by
  unfold sum
  split
  · rw [lift_map, PositionKind.lift_add]
  · exact lift_mismatch _

theorem lift_testApart (c : Comparison) (left right : Text) :
    lift (testApart c left right) = testApart c left right SessionM := by
  cases c with
  | eq | ne => rfl
  | _ => exact lift_mismatch _

theorem lift_test (c : Comparison) : lift (p.test c q) = p.test c q SessionM := by
  unfold test
  split
  · exact PositionKind.lift_test _ _ c
  · exact lift_testApart c _ _

end Position

/-! ## Ranges -/

namespace Range

variable {k : Kind} (r s : Range k.Place) (p q : k.Place)

theorem lift_of : lift (of p q) = of p q SessionM := by
  have hinverted (start stop : Text) :
      lift (refuse (.inverted start stop)) =
        (refuse (.inverted start stop) : SessionM (Range k.Place)) := rfl
  simp only [of, lift_bind, lift_ite, PositionKind.lift_test, lift_pure, hinverted]

theorem lift_empty : lift (empty p) = empty p SessionM :=
  lift_of p p

theorem lift_upTo : lift (upTo p) = upTo p SessionM :=
  lift_of _ p

theorem lift_startPoint : lift r.startPoint = r.startPoint SessionM :=
  lift_of r.start r.start

theorem lift_endPoint : lift r.endPoint = r.endPoint SessionM :=
  lift_of r.stop r.stop

theorem lift_len : lift r.len = r.len SessionM :=
  PositionKind.lift_saturatingSub r.stop r.start

theorem lift_isEmpty : lift r.isEmpty = r.isEmpty SessionM :=
  PositionKind.lift_test r.start r.stop .eq

theorem lift_contains : lift (r.contains p) = r.contains p SessionM := by
  simp only [contains, lift_bind, lift_ite, PositionKind.lift_test, lift_pure]

theorem lift_containsInclusive : lift (r.containsInclusive p) = r.containsInclusive p SessionM := by
  simp only [containsInclusive, lift_bind, lift_ite, PositionKind.lift_test, lift_pure]

theorem lift_covers : lift (r.covers s) = r.covers s SessionM := by
  simp only [covers, lift_bind, lift_ite, PositionKind.lift_test, lift_pure]

theorem lift_overlaps : lift (r.overlaps s) = r.overlaps s SessionM := by
  simp only [overlaps, lift_bind, lift_ite, lift_isEmpty, PositionKind.lift_test, lift_pure]

theorem lift_later : lift (later p q) = later p q SessionM := by
  simp only [later, lift_bind, lift_ite, PositionKind.lift_test, lift_pure]

theorem lift_earlier : lift (earlier p q) = earlier p q SessionM := by
  simp only [earlier, lift_bind, lift_ite, PositionKind.lift_test, lift_pure]

theorem lift_intersect : lift (r.intersect s) = r.intersect s SessionM := by
  simp only [intersect, lift_bind, lift_ite, lift_later, lift_earlier, lift_of,
    PositionKind.lift_test, lift_pure]

theorem lift_cover : lift (r.cover s) = r.cover s SessionM := by
  simp only [cover, lift_bind, lift_later, lift_earlier, lift_of]

theorem lift_coverPosition : lift (r.coverPosition p) = r.coverPosition p SessionM := by
  simp only [coverPosition, lift_bind, lift_empty, lift_cover]

theorem lift_test (c : Comparison) : lift (r.test c s) = r.test c s SessionM := by
  simp only [test, lift_bind, lift_ite, PositionKind.lift_eq, PositionKind.lift_test, lift_pure]

end Range

namespace PositionRange

variable (r s : PositionRange) (p q : Position)

theorem lift_of : lift (of p q) = of p q SessionM := by
  unfold of
  split
  · rw [lift_map, Range.lift_of]
  · exact lift_mismatch _

theorem lift_empty : lift (empty p) = empty p SessionM := by
  rw [empty, lift_map, Range.lift_empty, empty]

theorem lift_zero (k : Kind) : lift (zero k) = zero k SessionM :=
  lift_empty (.zero k)

theorem lift_upTo : lift (upTo p) = upTo p SessionM := by
  rw [upTo, lift_map, Range.lift_upTo, upTo]

theorem lift_startPoint : lift r.startPoint = r.startPoint SessionM := by
  rw [startPoint, lift_map, Range.lift_startPoint, startPoint]

theorem lift_endPoint : lift r.endPoint = r.endPoint SessionM := by
  rw [endPoint, lift_map, Range.lift_endPoint, endPoint]

theorem lift_len : lift r.len = r.len SessionM := by
  rw [len, lift_map, Range.lift_len, len]

theorem lift_isEmpty : lift r.isEmpty = r.isEmpty SessionM :=
  r.range.lift_isEmpty

theorem lift_contains : lift (r.contains p) = r.contains p SessionM := by
  unfold contains
  split
  · exact Range.lift_contains _ _
  · exact lift_mismatch _

theorem lift_containsInclusive : lift (r.containsInclusive p) = r.containsInclusive p SessionM := by
  unfold containsInclusive
  split
  · exact Range.lift_containsInclusive _ _
  · exact lift_mismatch _

theorem lift_covers : lift (r.covers s) = r.covers s SessionM := by
  unfold covers
  split
  · exact Range.lift_covers _ _
  · exact lift_mismatch _

theorem lift_overlaps : lift (r.overlaps s) = r.overlaps s SessionM := by
  unfold overlaps
  split
  · exact Range.lift_overlaps _ _
  · simp only [lift_bind, lift_ite, lift_isEmpty, lift_pure, lift_mismatch]

theorem lift_intersect : lift (r.intersect s) = r.intersect s SessionM := by
  unfold intersect
  split
  · rw [lift_map, Range.lift_intersect]
  · exact lift_mismatch _

theorem lift_cover : lift (r.cover s) = r.cover s SessionM := by
  unfold cover
  split
  · rw [lift_map, Range.lift_cover]
  · exact lift_mismatch _

theorem lift_coverPosition : lift (r.coverPosition p) = r.coverPosition p SessionM := by
  unfold coverPosition
  split
  · rw [lift_map, Range.lift_coverPosition]
  · exact lift_mismatch _

theorem lift_test (c : Comparison) : lift (r.test c s) = r.test c s SessionM := by
  unfold test
  split
  · exact Range.lift_test _ _ c
  · exact Position.lift_testApart c _ _

end PositionRange

end Caret
