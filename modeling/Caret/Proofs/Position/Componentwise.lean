/-
  Sums and differences of composites whose measures need not agree.

  Composites are ordered by the first measure that tells them apart, but taken away measure by
  measure, and each measure stops at the start on its own. So the laws of differences hold of
  composites that are not watched exactly as far as the other measures are ordered as the index is.

  * `SingleMeasure.exists_add_sub_eq_iff`: in one measure, a difference can always be added again,
    and leads back exactly to what is not in front of what was taken off;
  * `Composite.monus`: the difference of composites that are not watched;
  * `monus_samePlace_zero_iff`: which measures have to be in order for nothing to be left;
  * `exists_add_monus`: a difference can be added again, and which measures that leads back;
  * `monus_of_add`: a summand can be taken off without any condition;
  * `sub_laws_of_unwatched`: so much of the laws of differences holds of composites.
-/
import Caret.Proofs.Position.Residual

namespace Caret

open PositionKind (add order saturatingSub test)

/-! ## One measure -/

/-- Where `a` is in front of `b`, their difference is the start, and leads no further than `b`. -/
theorem SingleMeasure.exists_add_sub_eq_iff {P : Type} [PositionKind P] [SingleMeasure P]
    {a b e : P} (he : saturatingSub a b = .ok e) :
    ∃ s, add b e = .ok s ∧ (s = a ↔ order b a ≠ .gt) := by
  by_cases h : order b a = .gt
  · have hle : order a b ≠ .gt := by
      rw [← order_swap b a, h]
      nofun
    cases he.symm.trans (sub_eq_zero hle)
    refine ⟨b, add_zero b, iff_of_false ?_ fun hne => hne h⟩
    rintro rfl
    cases h.symm.trans (order_self b)
  · exact ⟨a, add_of_sub h he, iff_of_true rfl h⟩

theorem RowColumn.exists_add_monus {u : ColumnUnit} (a b : RowColumn u) :
    ∃ s, b.add (a.monus b) = .ok s ∧ (s = a ↔ b.order a ≠ .gt) :=
  SingleMeasure.exists_add_sub_eq_iff (P := RowColumn u) rfl

/-! ## Composites -/

namespace Composite

variable {a b s : Composite}

/-- How far `a` is behind `b` in each of the measures. They are not watched. -/
def monus (a b : Composite) : Composite :=
  ⟨a.index.monus b.index, a.utf8.monus b.utf8, a.utf16.monus b.utf16, false⟩

theorem index_order_ne_gt (h : a.order b ≠ .gt) : a.index.order b.index ≠ .gt := by
  intro hgt
  rw [order, hgt] at h
  exact h rfl

/-- The index has nothing left if the composites are in order, but the other measures can be ordered
    otherwise. -/
theorem monus_samePlace_zero_iff (hle : a.order b ≠ .gt) :
    (a.monus b).SamePlace zero ↔ a.utf8.order b.utf8 ≠ .gt ∧ a.utf16.order b.utf16 ≠ .gt := by
  rw [← RowColumn.monus_eq_zero_iff, ← RowColumn.monus_eq_zero_iff]
  constructor
  · rintro ⟨-, hzero8, hzero16⟩
    exact ⟨hzero8, hzero16⟩
  · rintro ⟨hzero8, hzero16⟩
    exact ⟨ByteIndex.monus_eq_zero (index_order_ne_gt hle), hzero8, hzero16⟩

/-- No measure comes further than one of the two composites is, so that the sum is within the
    limit. -/
theorem exists_add_monus (hb : b.checked = false) (hle : b.order a ≠ .gt) :
    ∃ s, b.add (a.monus b) = .ok s ∧ s.checked = false ∧
      (s.SamePlace a ↔ b.utf8.order a.utf8 ≠ .gt ∧ b.utf16.order a.utf16 ≠ .gt) := by
  obtain ⟨s8, hs8, hback8⟩ := a.utf8.exists_add_monus b.utf8
  obtain ⟨s16, hs16, hback16⟩ := a.utf16.exists_add_monus b.utf16
  have hsIndex : b.index.add (a.index.monus b.index) = .ok a.index :=
    ByteIndex.add_monus (index_order_ne_gt hle)
  refine ⟨⟨a.index, s8, s16, false⟩, ?_, rfl, ?_⟩
  · exact (add_eq_ok_iff_of_unwatched hb rfl).2 ⟨hsIndex, hs8, hs16, rfl⟩
  · rw [← hback8, ← hback16]
    constructor
    · rintro ⟨-, h8, h16⟩
      exact ⟨h8, h16⟩
    · rintro ⟨h8, h16⟩
      exact ⟨rfl, h8, h16⟩

theorem monus_of_add (ha : a.checked = false) (hb : b.checked = false) (hs : a.add b = .ok s) :
    s.checked = false ∧ s.monus a = b := by
  obtain ⟨hindex, h8, h16, hk⟩ := (add_eq_ok_iff_of_unwatched ha hb).1 hs
  refine ⟨hk, ?_⟩
  rw [monus, ByteIndex.monus_of_add hindex, RowColumn.monus_of_add h8, RowColumn.monus_of_add h16,
    ← hb]

theorem test_of_unwatched (ha : a.checked = false) (hb : b.checked = false) (cmp : Comparison) :
    test cmp a b = .ok (cmp.holds (a.order b)) := by
  rw [PositionKind.test_eq, Kind.Unwatched.comparable (k := .composite) ha hb]
  rfl

theorem test_eq_of_samePlace_iff (ha : a.checked = false) (hb : b.checked = false) {x y : Bool}
    (h : a.SamePlace b ↔ x = true ∧ y = true) : test .eq a b = .ok (x && y) := by
  rw [test_of_unwatched ha hb, Except.ok.injEq, Bool.eq_iff_iff, Bool.and_eq_true, ← h,
    ← order_eq_eq_iff, Comparison.holds, beq_iff_eq]

/-- **How far the laws of differences go.** Composites that are not watched always have a
    difference, whatever their parts are. From a composite that is not behind, nothing is left
    exactly if it is not behind in the rows and columns of both units. From a composite that is not
    in front, the difference can be added again, and leads back exactly if it is not in front in the
    rows and columns of both units. What was added can always be taken off again. -/
theorem sub_laws_of_unwatched (a b : Composite) (ha : a.checked = false)
    (hb : b.checked = false) :
    (∃ d, a.saturatingSub b = .ok d ∧
      (test .le a b = .ok true →
        ∃ le8 le16, test .le a.utf8 b.utf8 = .ok le8 ∧ test .le a.utf16 b.utf16 = .ok le16 ∧
          test .eq d zero = .ok (le8 && le16)) ∧
      (test .ge a b = .ok true →
        ∃ s ge8 ge16, b.add d = .ok s ∧ test .ge a.utf8 b.utf8 = .ok ge8 ∧
          test .ge a.utf16 b.utf16 = .ok ge16 ∧ test .eq s a = .ok (ge8 && ge16))) ∧
    ∀ s, a.add b = .ok s →
      ∃ d, s.saturatingSub a = .ok d ∧ d = b ∧ test .eq d b = .ok true := by
  refine ⟨⟨a.monus b, saturatingSub_of_unwatched ha hb, ?_, ?_⟩, ?_⟩
  · intro hle
    rw [test_of_unwatched ha hb] at hle
    have hle' : a.order b ≠ .gt := by simpa [Comparison.holds] using hle
    refine ⟨_, _, SingleMeasure.test_eq _ _ _, SingleMeasure.test_eq _ _ _, ?_⟩
    refine test_eq_of_samePlace_iff rfl rfl ?_
    rw [monus_samePlace_zero_iff hle']
    simp [Comparison.holds, PositionKind.order]
  · intro hge
    rw [test_of_unwatched ha hb] at hge
    have hle : b.order a ≠ .gt := by
      rw [← order_swap, Ne, Ordering.swap_eq_gt]
      simpa [Comparison.holds] using hge
    obtain ⟨s, hs, hk, hback⟩ := exists_add_monus hb hle
    refine ⟨s, _, _, hs, SingleMeasure.test_eq _ _ _, SingleMeasure.test_eq _ _ _, ?_⟩
    refine test_eq_of_samePlace_iff hk ha ?_
    rw [hback, ← RowColumn.order_swap a.utf8, ← RowColumn.order_swap a.utf16, Ne, Ne,
      Ordering.swap_eq_gt, Ordering.swap_eq_gt]
    simp [Comparison.holds, PositionKind.order]
  · intro s hs
    obtain ⟨hk, hd⟩ := monus_of_add ha hb hs
    have hsub : s.saturatingSub a = .ok (s.monus a) := saturatingSub_of_unwatched hk ha
    exact ⟨s.monus a, hsub, hd, hd ▸ (SamePlace.refl b).test_eq⟩

/-- The index puts `a` behind `b`, and the UTF-16 measure in front of it. Taken from `b`, it leaves
    columns; and what `b` leaves of it does not lead back to it. -/
theorem sub_laws_of_unwatched_where_one_measure_goes_back :
    ∃ a b d e s t : Composite, a.checked = false ∧ b.checked = false ∧
      (test .le b a = .ok true ∧ b.saturatingSub a = .ok d ∧ test .eq d zero = .ok false ∧
        d = ⟨⟨0⟩, ⟨0, 0⟩, ⟨0, 4⟩, false⟩) ∧
      (test .ge a b = .ok true ∧ a.saturatingSub b = .ok e ∧ b.add e = .ok s ∧
        test .eq s a = .ok false ∧ s = ⟨⟨10⟩, ⟨2, 3⟩, ⟨1, 7⟩, false⟩) ∧
      a.add b = .ok t ∧ t.saturatingSub a = .ok b := by
  let a : Composite := ⟨⟨10⟩, ⟨2, 3⟩, ⟨1, 3⟩, false⟩
  let b : Composite := ⟨⟨4⟩, ⟨1, 5⟩, ⟨1, 7⟩, false⟩
  obtain ⟨⟨d, hd, hleft, -⟩, -⟩ := sub_laws_of_unwatched b a rfl rfl
  obtain ⟨⟨e, he, -, hback⟩, htaken⟩ := sub_laws_of_unwatched a b rfl rfl
  have hle : test .le b a = .ok true := rfl
  have hge : test .ge a b = .ok true := rfl
  obtain ⟨le8, le16, h8, h16, hzero⟩ := hleft hle
  obtain ⟨s, ge8, ge16, hs, h8', h16', hsame⟩ := hback hge
  obtain ⟨_, hsub, rfl, -⟩ := htaken ⟨⟨14⟩, ⟨3, 5⟩, ⟨2, 7⟩, false⟩ rfl
  cases hd
  cases he
  cases hs
  cases h8
  cases h16
  cases h8'
  cases h16'
  exact ⟨a, b, _, _, _, _, rfl, rfl, ⟨hle, rfl, hzero, rfl⟩, ⟨hge, rfl, rfl, hsame, rfl⟩, rfl, hsub⟩

end Composite

end Caret
