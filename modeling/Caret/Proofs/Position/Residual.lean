/-
  Differences as residuals of sums.

  What `a` has more than `b` is the least that has to be added to `b` to come as far as `a`. So it
  grows with `a` and shrinks with `b`, and two summands can be taken off one after the other or
  together.

  * `monus_order_ne_gt_iff`: a bound on a difference is a bound on what was taken from;
  * `monus_eq_zero_iff`: nothing is left exactly of positions that are not behind;
  * `monus_mono`: differences grow with the first position, and shrink with the second one;
  * `monus_monus`: to take off two summands in turn is to take off their sum;
  * `Residuated`: kinds in one measure with these laws;
  * `saturatingSub_residual`: what they say of the kinds in one measure;
  * `saturatingSub_in_turn`: taking off in turn, also from composites that are not watched.
-/
import Caret.Proofs.Position.Numbers
import Caret.Proofs.Position.SingleMeasure

namespace Caret

/-! ## Byte indices -/

namespace ByteIndex

variable {a a' b b' c d s : ByteIndex}

theorem monus_order_ne_gt_iff (hs : b.add d = .ok s) :
    (a.monus b).order d ≠ .gt ↔ a.order s ≠ .gt := by
  rw [add_eq_ok_iff] at hs
  rw [order_ne_gt_iff, order_ne_gt_iff, monus, Coordinate.val_monus]
  omega

theorem zero_order_ne_gt (a : ByteIndex) : zero.order a ≠ .gt :=
  order_ne_gt_iff.2 (Nat.zero_le _)

theorem order_add_ne_gt (hs : b.add d = .ok s) : b.order s ≠ .gt := by
  rw [order_add_left (add_zero b) hs]
  exact zero_order_ne_gt d

theorem monus_eq_zero_iff : a.monus b = zero ↔ a.order b ≠ .gt := by
  refine ⟨fun h => ?_, monus_eq_zero⟩
  rw [← monus_order_ne_gt_iff (add_zero b), h]
  exact zero_order_ne_gt zero

theorem monus_mono (ha : a.order a' ≠ .gt) (hb : b'.order b ≠ .gt) :
    (a.monus b).order (a'.monus b') ≠ .gt := by
  rw [order_ne_gt_iff] at ha hb ⊢
  rw [monus, monus, Coordinate.val_monus, Coordinate.val_monus]
  omega

theorem monus_monus (hs : b.add c = .ok s) : (a.monus b).monus c = a.monus s := by
  rw [add_eq_ok_iff] at hs
  refine ext_val ?_
  simp only [monus, Coordinate.val_monus]
  omega

end ByteIndex

/-! ## Rows and columns -/

namespace RowColumn

variable {u : ColumnUnit} {a a' b b' c d s : RowColumn u}

/-- If `d` has rows, both sides compare columns of a later row than that of `b`; if not, they
    compare columns of the row of `b`, on one side without what `b` has of them. -/
theorem monus_order_ne_gt_iff (hs : b.add d = .ok s) :
    (a.monus b).order d ≠ .gt ↔ a.order s ≠ .gt := by
  obtain ⟨hrow, hcolumn⟩ := add_eq_ok_iff.1 hs
  rw [order_ne_gt_iff, order_ne_gt_iff, row_monus, column_monus]
  split_ifs at * <;> omega

theorem zero_order_ne_gt (a : RowColumn u) : zero.order a ≠ .gt := by
  rw [order_ne_gt_iff, zero, Coordinate.val_zero]
  omega

theorem order_add_ne_gt (hs : b.add d = .ok s) : b.order s ≠ .gt := by
  rw [order_add_left (add_zero b) hs]
  exact zero_order_ne_gt d

theorem monus_eq_zero_iff : a.monus b = zero ↔ a.order b ≠ .gt := by
  refine ⟨fun h => ?_, monus_eq_zero⟩
  rw [← monus_order_ne_gt_iff (add_zero b), h]
  exact zero_order_ne_gt zero

theorem monus_mono (ha : a.order a' ≠ .gt) (hb : b'.order b ≠ .gt) :
    (a.monus b).order (a'.monus b') ≠ .gt := by
  rw [order_ne_gt_iff] at ha hb ⊢
  simp only [row_monus, column_monus]
  split_ifs <;> omega

/-- A row that is left by the first step is left by both together, as rows are only added. -/
theorem monus_monus (hs : b.add c = .ok s) : (a.monus b).monus c = a.monus s := by
  obtain ⟨hrow, hcolumn⟩ := add_eq_ok_iff.1 hs
  refine ext_val ?_ ?_
  · simp only [row_monus]
    omega
  · simp only [column_monus, row_monus]
    split_ifs at * <;> omega

end RowColumn

/-! ## Composites -/

namespace Composite

variable {a b c s : Composite}

theorem saturatingSub_of_unwatched (ha : a.checked = false) (hb : b.checked = false) :
    a.saturatingSub b =
      .ok ⟨a.index.monus b.index, a.utf8.monus b.utf8, a.utf16.monus b.utf16, false⟩ := by
  have hk : (a.checked || b.checked) = false := by rw [ha, hb, Bool.or_self]
  rw [saturatingSub_eq_ok_iff, comparable_eq_ok_iff, hk]
  exact ⟨nofun, rfl, nofun⟩

end Composite

/-! ## Kinds in one measure -/

open PositionKind

/-- A kind in one measure on which differences are residuals of sums. -/
class Residuated (P : Type) [PositionKind P] : Prop extends SingleMeasure P where
  order_add_ne_gt {b d s : P} : add b d = .ok s → order b s ≠ .gt
  sub_le_iff {a b d e s : P} : saturatingSub a b = .ok e → add b d = .ok s →
    (order e d ≠ .gt ↔ order a s ≠ .gt)
  sub_mono {a a' b b' e e' : P} : order a a' ≠ .gt → order b' b ≠ .gt →
    saturatingSub a b = .ok e → saturatingSub a' b' = .ok e' → order e e' ≠ .gt

instance : Residuated ByteIndex where
  order_add_ne_gt hs := ByteIndex.order_add_ne_gt hs
  sub_le_iff he hs := by cases he; exact ByteIndex.monus_order_ne_gt_iff hs
  sub_mono ha hb he he' := by cases he; cases he'; exact ByteIndex.monus_mono ha hb

instance (u : ColumnUnit) : Residuated (RowColumn u) where
  order_add_ne_gt hs := RowColumn.order_add_ne_gt hs
  sub_le_iff he hs := by cases he; exact RowColumn.monus_order_ne_gt_iff hs
  sub_mono ha hb he he' := by cases he; cases he'; exact RowColumn.monus_mono ha hb

theorem Kind.residuated : (k : Kind) → k ≠ .composite → Residuated k.Place
  | .byteIndex, _ => inferInstanceAs (Residuated ByteIndex)
  | .rowColumn u, _ => inferInstanceAs (Residuated (RowColumn u))
  | .composite, h => absurd rfl h

namespace SingleMeasure

variable {P : Type} [PositionKind P] [SingleMeasure P] {a b e : P}

theorem order_self (a : P) : order a a = .eq :=
  order_eq_eq_iff.2 rfl

theorem add_zero (a : P) : add a zero = .ok a := by
  have h : order a a ≠ .gt := by rw [order_self]; nofun
  exact add_of_sub h (sub_eq_zero h)

/-- A difference is enough to come as far. -/
theorem exists_add_sub (he : saturatingSub a b = .ok e) :
    ∃ s, add b e = .ok s ∧ order a s ≠ .gt := by
  by_cases h : order b a = .gt
  · -- nothing has to be added to a position behind `a`
    have hlt : order a b ≠ .gt := by
      rw [← order_swap b a, h]
      nofun
    cases he.symm.trans (sub_eq_zero hlt)
    exact ⟨b, add_zero b, hlt⟩
  · refine ⟨a, add_of_sub h he, ?_⟩
    rw [order_self]
    nofun

end SingleMeasure

theorem Residuated.sub_eq_ok_iff {P : Type} [PositionKind P] [Residuated P] {a b d : P} :
    test .le b a = .ok true ∧ saturatingSub a b = .ok d ↔ add b d = .ok a := by
  rw [SingleMeasure.test_le_iff]
  constructor
  · rintro ⟨hle, hd⟩
    exact SingleMeasure.add_of_sub hle hd
  · intro hadd
    exact ⟨order_add_ne_gt hadd, SingleMeasure.sub_of_add hadd⟩

/-! ## Main statements -/

open SingleMeasure (exists_sub exists_add_sub test_le_iff)

/-- **A difference is the least that leads as far.** In one measure, how far `a` is behind `b` is at
    most `d` exactly if `a` is not behind `b` and `d` together, where these can be added; and it can
    always be added to `b` itself. So it is the least of what leads from `b` as far as `a`. It grows
    with `a` and shrinks with `b`. -/
theorem saturatingSub_residual (k : Kind) (hk : k ≠ .composite) (a b : k.Place) :
    ∃ e, saturatingSub a b = .ok e ∧
      (∀ d s, add b d = .ok s →
        ∃ answer, test .le e d = .ok answer ∧ test .le a s = .ok answer) ∧
      (∃ s, add b e = .ok s ∧ test .le a s = .ok true) ∧
      ∀ a' b', test .le a a' = .ok true → test .le b' b = .ok true →
        ∃ e', saturatingSub a' b' = .ok e' ∧ test .le e e' = .ok true := by
  have := k.residuated hk
  obtain ⟨e, he⟩ := exists_sub a b
  refine ⟨e, he, ?_, ?_, ?_⟩
  · intro d s hs
    have hanswer : Comparison.le.holds (order e d) = Comparison.le.holds (order a s) := by
      rw [Bool.eq_iff_iff]
      simpa [Comparison.holds] using Residuated.sub_le_iff he hs
    refine ⟨_, SingleMeasure.test_eq .le e d, ?_⟩
    rw [SingleMeasure.test_eq, hanswer]
  · obtain ⟨s, hs, hle⟩ := exists_add_sub he
    exact ⟨s, hs, test_le_iff.2 hle⟩
  · intro a' b' ha hb
    obtain ⟨e', he'⟩ := exists_sub a' b'
    have hle := Residuated.sub_mono (test_le_iff.1 ha) (test_le_iff.1 hb) he he'
    exact ⟨e', he', test_le_iff.2 hle⟩

/-- Two rows on, into a line that is longer than what is added to one side, and not than what is
    added to the other. -/
theorem saturatingSub_residual_two_rows_on :
    Kind.rowColumn .utf8 ≠ .composite ∧ ∃ a b d s d' s' a' b' e e' : RowColumn .utf8,
      saturatingSub a b = .ok e ∧
      (add b d = .ok s ∧ test .le e d = .ok false ∧ test .le a s = .ok false) ∧
      (add b d' = .ok s' ∧ test .le e d' = .ok true ∧ test .le a s' = .ok true) ∧
      (test .le a a' = .ok true ∧ test .le b' b = .ok true ∧ saturatingSub a' b' = .ok e' ∧
        test .le e e' = .ok true) := by
  let a : RowColumn .utf8 := ⟨3, 5⟩
  let b : RowColumn .utf8 := ⟨1, 7⟩
  have hk : Kind.rowColumn .utf8 ≠ .composite := nofun
  obtain ⟨e, he, hiff, -, hmono⟩ := saturatingSub_residual (.rowColumn .utf8) hk a b
  obtain rfl := Except.ok.inj he
  obtain ⟨x, hx, hx'⟩ := hiff ⟨2, 4⟩ ⟨3, 4⟩ rfl
  obtain ⟨y, hy, hy'⟩ := hiff ⟨2, 6⟩ ⟨3, 6⟩ rfl
  obtain ⟨e', he', hle⟩ := hmono ⟨3, 9⟩ ⟨1, 2⟩ rfl rfl
  obtain rfl := Except.ok.inj hx
  obtain rfl := Except.ok.inj hy
  exact ⟨hk, a, b, ⟨2, 4⟩, ⟨3, 4⟩, ⟨2, 6⟩, ⟨3, 6⟩, ⟨3, 9⟩, ⟨1, 2⟩, _, e', he,
    ⟨rfl, hx, hx'⟩, ⟨rfl, hy, hy'⟩, rfl, rfl, he', hle⟩

/-- **Summands can be taken off in turn or together.** This needs no order of the positions: what is
    stopped at the start in one of two steps is stopped there if both are made at once. Nor does it
    need measures that agree, as they are not asked. It does not follow from the residuals, as what
    bounds a difference can be too large to be added. -/
theorem saturatingSub_in_turn (k : Kind) (a b c s : k.Place) (ha : k.Unwatched a)
    (hb : k.Unwatched b) (hc : k.Unwatched c) (hs : add b c = .ok s) :
    ∃ d e f, saturatingSub a b = .ok d ∧ saturatingSub d c = .ok e ∧ saturatingSub a s = .ok f ∧
      e = f ∧ test .eq e f = .ok true := by
  match k with
  | .byteIndex =>
    have hturn : (ByteIndex.monus a b).monus c = ByteIndex.monus a s := ByteIndex.monus_monus hs
    exact ⟨_, _, _, rfl, rfl, rfl, hturn, SingleMeasure.test_eq_iff.2 hturn⟩
  | .rowColumn u =>
    have hturn : (RowColumn.monus a b).monus c = RowColumn.monus a s := RowColumn.monus_monus hs
    exact ⟨_, _, _, rfl, rfl, rfl, hturn, SingleMeasure.test_eq_iff.2 hturn⟩
  | .composite =>
    obtain ⟨hi, h8, h16, hk⟩ := (Composite.add_eq_ok_iff_of_unwatched hb hc).1 hs
    refine ⟨_, _, _, Composite.saturatingSub_of_unwatched ha hb,
      Composite.saturatingSub_of_unwatched rfl hc, Composite.saturatingSub_of_unwatched ha hk, ?_⟩
    rw [ByteIndex.monus_monus hi, RowColumn.monus_monus h8, RowColumn.monus_monus h16]
    exact ⟨rfl, (Composite.SamePlace.refl _).test_eq⟩

/-- A composite of no text. The index is stopped at the start by the second step, the UTF-8 measure
    ends on the row where it began, and the UTF-16 measure never left it. -/
theorem saturatingSub_in_turn_stopped_by_one_measure :
    ∃ a b c s d e : Composite, ¬a.Consistent ∧ a.checked = false ∧ b.checked = false ∧
      c.checked = false ∧ b.add c = .ok s ∧ a.saturatingSub b = .ok d ∧ d.saturatingSub c = .ok e ∧
      a.saturatingSub s = .ok e ∧ d.index ≠ .zero ∧ e.index = .zero ∧ e.utf8 = ⟨0, 2⟩ ∧
      e.utf16 = ⟨0, 4⟩ := by
  let a : Composite := ⟨⟨10⟩, ⟨2, 3⟩, ⟨0, 9⟩, false⟩
  let b : Composite := ⟨⟨4⟩, ⟨1, 5⟩, ⟨0, 3⟩, false⟩
  let c : Composite := ⟨⟨7⟩, ⟨1, 1⟩, ⟨0, 2⟩, false⟩
  have hs : b.add c = .ok ⟨⟨11⟩, ⟨2, 1⟩, ⟨0, 5⟩, false⟩ := rfl
  obtain ⟨d, e, f, hd, he, hf, hef, -⟩ := saturatingSub_in_turn .composite a b c _ rfl rfl rfl hs
  obtain rfl := hef
  obtain rfl := Except.ok.inj hd
  obtain rfl := Except.ok.inj he
  exact ⟨a, b, c, _, _, _, by decide, rfl, rfl, rfl, hs, hd, he, hf, by decide, by decide,
    by decide, by decide⟩

end Caret
