/-
  Sums and differences of positions undo each other, measure by measure.

  * `order_add_left`: what is put in front of two positions does not change their order;
  * `monus_of_add`: taking off what was put in front;
  * `add_monus`: putting in front again what was taken off, from a position that is not behind;
  * `monus_eq_zero`: nothing is left of a position that is not behind;
  * `Composite.saturatingSub_eq_ok_iff`: when a difference of composites is answered;
  * `Composite.Consistent.orderedAlike_of_add`: all measures see that a text of any length leads on.
-/
import Caret.Proofs.Position.Order
import Mathlib.Tactic.SplitIfs

namespace Caret

/-! ## Byte indices -/

namespace ByteIndex

variable {a b p x y : ByteIndex}

theorem order_ne_gt_iff : a.order b ≠ .gt ↔ a.index.val ≤ b.index.val := by
  rw [← order_swap, Ne, Ordering.swap_eq_gt, order_eq_lt_iff, Nat.not_lt]

theorem add_zero (a : ByteIndex) : a.add zero = .ok a :=
  add_eq_ok_iff.2 rfl

theorem order_add_left (hx : p.add a = .ok x) (hy : p.add b = .ok y) :
    x.order y = a.order b := by
  rw [add_eq_ok_iff] at hx hy
  rw [order, hx, hy, order, Nat.compare_eq_ite_lt, Nat.compare_eq_ite_lt]
  simp only [Nat.add_lt_add_iff_left]

theorem monus_of_add (h : p.add a = .ok x) : x.monus p = a := by
  rw [add_eq_ok_iff] at h
  refine ext_val ?_
  rw [monus, Coordinate.val_monus]; omega

theorem add_monus (h : b.order a ≠ .gt) : b.add (a.monus b) = .ok a := by
  rw [order_ne_gt_iff] at h
  rw [add_eq_ok_iff, monus, Coordinate.val_monus]; omega

theorem monus_eq_zero (h : a.order b ≠ .gt) : a.monus b = zero := by
  rw [order_ne_gt_iff] at h
  refine ext_val ?_
  rw [monus, Coordinate.val_monus, zero, Coordinate.val_zero]; omega

end ByteIndex

/-! ## Rows and columns -/

namespace RowColumn

variable {u : ColumnUnit} {a b p x y : RowColumn u}

theorem order_ne_gt_iff :
    a.order b ≠ .gt ↔ a.row.val < b.row.val ∨
      a.row.val = b.row.val ∧ a.column.val ≤ b.column.val := by
  rw [← order_swap, Ne, Ordering.swap_eq_gt, order_eq_lt_iff]
  omega

theorem add_zero (a : RowColumn u) : a.add zero = .ok a :=
  add_eq_ok_iff.2 ⟨rfl, rfl⟩

/-- On the row where `p` ends, its column moves both columns alike; on later rows it moves none. -/
theorem order_add_left (hx : p.add a = .ok x) (hy : p.add b = .ok y) :
    x.order y = a.order b := by
  obtain ⟨hxr, hxc⟩ := add_eq_ok_iff.1 hx
  obtain ⟨hyr, hyc⟩ := add_eq_ok_iff.1 hy
  have hrow : compare x.row.val y.row.val = compare a.row.val b.row.val := by
    rw [hxr, hyr, Nat.compare_eq_ite_lt, Nat.compare_eq_ite_lt]
    simp only [Nat.add_lt_add_iff_left]
  rw [order, order, hrow]
  cases h : compare a.row.val b.row.val with
  | lt => rfl
  | gt => rfl
  | eq =>
    rw [Nat.compare_eq_eq] at h
    rw [hxc, hyc, h, Nat.compare_eq_ite_lt, Nat.compare_eq_ite_lt]
    simp only [Nat.add_lt_add_iff_left]

theorem monus_of_add (h : p.add a = .ok x) : x.monus p = a := by
  obtain ⟨hr, hc⟩ := add_eq_ok_iff.1 h
  refine ext_val ?_ ?_
  · rw [row_monus]; omega
  · rw [column_monus]
    split at hc <;> split_ifs <;> omega

theorem add_monus (h : b.order a ≠ .gt) : b.add (a.monus b) = .ok a := by
  rw [order_ne_gt_iff] at h
  rw [add_eq_ok_iff, row_monus, column_monus]
  split_ifs <;> omega

theorem monus_eq_zero (h : a.order b ≠ .gt) : a.monus b = zero := by
  rw [order_ne_gt_iff] at h
  refine ext_val ?_ ?_
  · rw [row_monus, zero, Coordinate.val_zero]; omega
  · rw [column_monus, zero, Coordinate.val_zero]
    split_ifs <;> omega

end RowColumn

/-! ## Composites -/

namespace Composite

variable {a b d s : Composite}

theorem saturatingSub_eq_ok_iff :
    a.saturatingSub b = .ok d ↔ comparable a b = .ok () ∧
      d = ⟨a.index.monus b.index, a.utf8.monus b.utf8, a.utf16.monus b.utf16,
        a.checked || b.checked⟩ ∧ ((a.checked || b.checked) = true → d.Consistent) := by
  simp only [saturatingSub, Except.bind_eq_ok_iff, of_eq_ok_iff]
  constructor
  · rintro ⟨_, hc, rfl, hd⟩; exact ⟨hc, rfl, hd⟩
  · rintro ⟨hc, rfl, hd⟩; exact ⟨(), hc, rfl, hd⟩

/-- A difference of composites is refused for nothing but disagreement. -/
theorem saturatingSub_eq_error {f : Fault} (h : a.saturatingSub b = .error f) :
    ∃ v, f = .violation v := by
  rw [saturatingSub] at h
  cases hc : comparable a b with
  | error g =>
    rw [hc] at h
    exact ⟨_, (Except.error.inj h).symm.trans (comparable_eq_error hc)⟩
  | ok _ =>
    rw [hc] at h
    obtain ⟨-, v, -, hf⟩ := of_eq_error_iff.1 h
    exact ⟨v, hf⟩

/-- A difference is the only thing that adds up to a place. -/
theorem SamePlace.of_add_monus (hd : b.add d = .ok s) (hs : s.SamePlace a) :
    d.index = a.index.monus b.index ∧ d.utf8 = a.utf8.monus b.utf8 ∧
      d.utf16 = a.utf16.monus b.utf16 := by
  obtain ⟨hi, h8, h16, -⟩ := add_eq_ok_iff.1 hd
  rw [← hs.index_eq, ← hs.utf8_eq, ← hs.utf16_eq, ByteIndex.monus_of_add hi,
    RowColumn.monus_of_add h8, RowColumn.monus_of_add h16]
  exact ⟨rfl, rfl, rfl⟩

/-- All measures see it alike whether there is anything in front of a place. -/
theorem Consistent.orderedAlike_zero (h : d.Consistent) : zero.OrderedAlike d := by
  obtain ⟨hrow, h16, h8, hle, hfirst⟩ := h
  rw [Coordinate.ext_iff] at hrow
  rw [Coordinate.eq_zero_iff, Coordinate.ext_iff] at hfirst
  by_cases hi : d.index.index.val = 0
  · have h8 : zero.utf8 = d.utf8 :=
      RowColumn.ext_val (show 0 = d.utf8.row.val by omega) (show 0 = d.utf8.column.val by omega)
    have h16 : zero.utf16 = d.utf16 :=
      RowColumn.ext_val (show 0 = d.utf16.row.val by omega) (show 0 = d.utf16.column.val by omega)
    exact SamePlace.orderedAlike ⟨ByteIndex.ext_val hi.symm, h8, h16⟩
  · have hindex : zero.index.order d.index = .lt :=
      ByteIndex.order_eq_lt_iff.2 (Nat.pos_of_ne_zero hi)
    rw [OrderedAlike, hindex, RowColumn.order_eq_lt_iff, RowColumn.order_eq_lt_iff]
    simp only [zero, RowColumn.zero, Coordinate.val_zero]
    omega

/-- What is consistent leads on in every measure, or in none. -/
theorem Consistent.orderedAlike_of_add (h : d.Consistent) (hd : b.add d = .ok s) :
    b.OrderedAlike s ∧ b.order s ≠ .gt := by
  obtain ⟨hi, h8, h16, -⟩ := add_eq_ok_iff.1 hd
  have halike : b.OrderedAlike s := by
    rw [OrderedAlike, ByteIndex.order_add_left (ByteIndex.add_zero _) hi,
      RowColumn.order_add_left (RowColumn.add_zero _) h8,
      RowColumn.order_add_left (RowColumn.add_zero _) h16]
    exact h.orderedAlike_zero
  refine ⟨halike, ?_⟩
  rw [halike.order_eq, ByteIndex.order_ne_gt_iff, ByteIndex.add_eq_ok_iff.1 hi]
  exact Nat.le_add_right _ _

end Composite

end Caret
