/-
  Positions of one kind as lists of numbers in lexicographic order.

  * `Kind.numbers`: the numbers of a position, the most significant one first;
  * `Kind.numbers_lt_iff`: positions are ordered as their numbers are;
  * `Kind.HasNumbers`: a position that is not watched, with its numbers;
  * `Kind.ranked_hasNumbers`: comparisons of such positions are not refused, and follow the numbers;
  * `Kind.faithful_hasNumbers`: such a position is known by its numbers;
  * `Kind.Free`: a valid range between such positions;
  * `Kind.free_of_spans`: ranges between numbers in order are all of these.
-/
import Caret.Proofs.Position.Associativity
import Caret.Proofs.Range.Interval
import Mathlib.Data.List.Lex

namespace Caret

/-! ## Numbers -/

/-- The numbers of a position, the most significant one first. -/
def Kind.numbers : (k : Kind) → k.Place → List ℕ
  | .byteIndex, p => [p.index.val]
  | .rowColumn _, p => [p.row.val, p.column.val]
  | .composite, p =>
    [p.index.index.val, p.utf8.row.val, p.utf8.column.val, p.utf16.row.val, p.utf16.column.val]

theorem ByteIndex.numbers_lt_iff {a b : ByteIndex} :
    Kind.byteIndex.numbers a < Kind.byteIndex.numbers b ↔ a.order b = .lt := by
  rw [order_eq_lt_iff]
  simp [Kind.numbers, List.cons_lt_cons_iff]

theorem RowColumn.numbers_lt_iff {u : ColumnUnit} {a b : RowColumn u} :
    (Kind.rowColumn u).numbers a < (Kind.rowColumn u).numbers b ↔ a.order b = .lt := by
  rw [order_eq_lt_iff]
  simp [Kind.numbers, List.cons_lt_cons_iff]

theorem Composite.numbers_lt_iff {a b : Composite} :
    Kind.composite.numbers a < Kind.composite.numbers b ↔ a.order b = .lt := by
  rw [order, Ordering.then_eq_lt, Ordering.then_eq_lt, Ordering.then_eq_eq,
    ByteIndex.order_eq_lt_iff, ByteIndex.order_eq_eq_iff, RowColumn.order_eq_lt_iff,
    RowColumn.order_eq_lt_iff, RowColumn.order_eq_eq_iff]
  simp only [Kind.numbers, List.cons_lt_cons_iff, ByteIndex.ext_iff, RowColumn.ext_iff,
    Coordinate.ext_iff, List.lt_irrefl, and_false, or_false]
  omega

namespace Kind

variable {k : Kind} {p q : k.Place} {x y : List ℕ}

open PositionKind (order)

theorem numbers_lt_iff : {k : Kind} → {p q : k.Place} →
    (k.numbers p < k.numbers q ↔ order p q = .lt)
  | .byteIndex, _, _ => ByteIndex.numbers_lt_iff
  | .rowColumn _, _, _ => RowColumn.numbers_lt_iff
  | .composite, _, _ => Composite.numbers_lt_iff

theorem order_swap : (k : Kind) → (p q : k.Place) → (order p q).swap = order q p
  | .byteIndex => ByteIndex.order_swap
  | .rowColumn _ => RowColumn.order_swap
  | .composite => Composite.order_swap

theorem numbers_gt_iff : k.numbers q < k.numbers p ↔ order p q = .gt := by
  rw [numbers_lt_iff, ← order_swap, Ordering.swap_eq_lt]

theorem order_compares (k : Kind) (p q : k.Place) :
    (order p q).Compares (k.numbers p) (k.numbers q) := by
  cases h : order p q with
  | lt => exact numbers_lt_iff.2 h
  | gt => exact numbers_gt_iff.2 h
  | eq =>
    have hlt : ¬k.numbers p < k.numbers q := fun hlt => by
      cases h.symm.trans (numbers_lt_iff.1 hlt)
    have hgt : ¬k.numbers q < k.numbers p := fun hgt => by
      cases h.symm.trans (numbers_gt_iff.1 hgt)
    exact le_antisymm (not_lt.1 hgt) (not_lt.1 hlt)

theorem order_ne_gt_trans {a b c : k.Place} (hab : order a b ≠ .gt) (hbc : order b c ≠ .gt) :
    order a c ≠ .gt := by
  rw [(k.order_compares _ _).ne_gt] at hab hbc ⊢
  exact hab.trans hbc

/-! ## Positions that are not watched -/

/-- The position is not watched, and its numbers are `x`. -/
structure HasNumbers (k : Kind) (p : k.Place) (x : List ℕ) : Prop where
  /-- It is not watched. -/
  unwatched : k.Unwatched p
  /-- Its numbers. -/
  numbers_eq : k.numbers p = x

theorem Unwatched.hasNumbers (h : k.Unwatched p) : k.HasNumbers p (k.numbers p) :=
  ⟨h, rfl⟩

theorem exists_hasNumbers_iff {X : k.Place → Prop} :
    (∃ p x, k.HasNumbers p x ∧ X p) ↔ ∃ p, k.Unwatched p ∧ X p := by
  constructor
  · rintro ⟨p, x, hp, hX⟩
    exact ⟨p, hp.unwatched, hX⟩
  · rintro ⟨p, hp, hX⟩
    exact ⟨p, _, hp.hasNumbers, hX⟩

theorem forall_hasNumbers_iff {X : k.Place → Prop} :
    (∀ p x, k.HasNumbers p x → X p) ↔ ∀ p, k.Unwatched p → X p := by
  constructor
  · intro h p hp
    exact h p _ hp.hasNumbers
  · intro h p x hp
    exact h p hp.unwatched

theorem Unwatched.comparable : {k : Kind} → {p q : k.Place} → k.Unwatched p → k.Unwatched q →
    PositionKind.comparable p q = .ok ()
  | .byteIndex, _, _, _, _ => rfl
  | .rowColumn _, _, _, _, _ => rfl
  | .composite, p, q, (hp : p.checked = false), (hq : q.checked = false) =>
    Composite.comparable_eq_ok_iff.2 fun h => by
      rw [hp, hq] at h
      cases h

/-- **Positions that are not watched are compared as their numbers**, and never refused. -/
theorem ranked_hasNumbers (k : Kind) : Ranked k.HasNumbers where
  comparable_eq_ok hp hq := hp.unwatched.comparable hq.unwatched
  order_eq {p q x y} hp hq := by
    have h := k.order_compares p q
    rw [hp.numbers_eq, hq.numbers_eq] at h
    exact ((compare_iff x y).2 h).symm

theorem HasNumbers.order_eq (hp : k.HasNumbers p x) (hq : k.HasNumbers q x) :
    order p q = .eq := by
  have h := k.order_compares p q
  rw [hp.numbers_eq, hq.numbers_eq] at h
  exact h.eq_eq.2 rfl

theorem HasNumbers.eq : {k : Kind} → {p q : k.Place} → k.HasNumbers p x → k.HasNumbers q x → p = q
  | .byteIndex, _, _, hp, hq => ByteIndex.order_eq_eq_iff.1 (hp.order_eq hq)
  | .rowColumn _, _, _, hp, hq => RowColumn.order_eq_eq_iff.1 (hp.order_eq hq)
  | .composite, _, _, hp, hq =>
    (Composite.order_eq_eq_iff.1 (hp.order_eq hq)).eq (hp.unwatched.trans hq.unwatched.symm)

theorem faithful_hasNumbers (k : Kind) : Faithful k.HasNumbers where
  toRanked := k.ranked_hasNumbers
  eq_of_rank hp hq := hp.eq hq

/-! ## Ranges that are not watched -/

/-- A valid range between positions that are not watched. -/
structure Free (k : Kind) (r : Range k.Place) : Prop where
  /-- Its ends are in order. -/
  valid : r.Valid
  /-- Its start is not watched. -/
  start : k.Unwatched r.start
  /-- Its end is not watched. -/
  stop : k.Unwatched r.stop

variable {r : Range k.Place}

theorem Free.spans (h : k.Free r) :
    r.Spans k.HasNumbers (k.numbers r.start) (k.numbers r.stop) := by
  refine ⟨h.start.hasNumbers, h.stop.hasNumbers, not_lt.1 fun hlt => h.valid.order_ne_gt ?_⟩
  exact numbers_gt_iff.1 hlt

theorem Free.exists_at (h : k.Free r) : ∃ I, r.At k.HasNumbers I :=
  ⟨_, h.spans.at⟩

theorem free_of_spans (h : r.Spans k.HasNumbers x y) : k.Free r := by
  refine ⟨⟨fun hgt => ?_, h.stop.unwatched.comparable h.start.unwatched⟩, h.start.unwatched,
    h.stop.unwatched⟩
  have hlt := numbers_gt_iff.2 hgt
  rw [h.start.numbers_eq, h.stop.numbers_eq] at hlt
  exact hlt.not_ge h.le

end Kind

end Caret
