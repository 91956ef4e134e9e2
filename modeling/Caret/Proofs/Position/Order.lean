/-
  The order of positions in terms of their numbers, and the comparisons that follow it.

  * `ByteIndex.order_eq_lt_iff`, `RowColumn.order_eq_lt_iff`: what it is to come before;
  * `Composite.SamePlace`, `Composite.order_eq_eq_iff`: composites are equal if all five numbers
    are;
  * `Composite.OrderedAlike.symm`, `Composite.SamePlace.orderedAlike`: agreement of the measures on
    an order is symmetric, and the same place agrees with itself;
  * `PositionKind.test_eq_ok_true_iff`: a comparison that answers yes.
-/
import Caret.Proofs.Position.Arithmetic

namespace Caret

/-! ## Byte indices -/

namespace ByteIndex

variable {a b : ByteIndex}

theorem order_eq_lt_iff : a.order b = .lt ↔ a.index.val < b.index.val :=
  Nat.compare_eq_lt

theorem order_eq_eq_iff : a.order b = .eq ↔ a = b := by
  rw [order, Nat.compare_eq_eq, ByteIndex.ext_iff, Coordinate.ext_iff]

theorem order_swap (a b : ByteIndex) : (a.order b).swap = b.order a :=
  Nat.compare_swap _ _

end ByteIndex

/-! ## Rows and columns -/

namespace RowColumn

variable {u : ColumnUnit} {a b : RowColumn u}

theorem order_eq_lt_iff :
    a.order b = .lt ↔ a.row.val < b.row.val ∨
      a.row.val = b.row.val ∧ a.column.val < b.column.val := by
  rw [order, Ordering.then_eq_lt, Nat.compare_eq_lt, Nat.compare_eq_eq, Nat.compare_eq_lt]

theorem order_eq_eq_iff : a.order b = .eq ↔ a = b := by
  rw [order, Ordering.then_eq_eq, Nat.compare_eq_eq, Nat.compare_eq_eq, RowColumn.ext_iff,
    Coordinate.ext_iff, Coordinate.ext_iff]

theorem order_swap (a b : RowColumn u) : (a.order b).swap = b.order a := by
  rw [order, Ordering.swap_then, Nat.compare_swap, Nat.compare_swap, order]

end RowColumn

/-! ## Composites -/

namespace Composite

variable {a b c : Composite}

/-- All five numbers of two composites are the same; whether they are watched does not matter. -/
structure SamePlace (a b : Composite) : Prop where
  /-- The same byte index. -/
  index_eq : a.index = b.index
  /-- The same row and column in bytes. -/
  utf8_eq : a.utf8 = b.utf8
  /-- The same row and column in UTF-16 code units. -/
  utf16_eq : a.utf16 = b.utf16

theorem SamePlace.refl (a : Composite) : a.SamePlace a :=
  ⟨rfl, rfl, rfl⟩

theorem SamePlace.symm (h : a.SamePlace b) : b.SamePlace a :=
  ⟨h.index_eq.symm, h.utf8_eq.symm, h.utf16_eq.symm⟩

theorem SamePlace.trans (h : a.SamePlace b) (k : b.SamePlace c) : a.SamePlace c :=
  ⟨h.index_eq.trans k.index_eq, h.utf8_eq.trans k.utf8_eq, h.utf16_eq.trans k.utf16_eq⟩

theorem samePlace_watched (a : Composite) (checked : Bool) :
    a.SamePlace { a with checked := checked } :=
  ⟨rfl, rfl, rfl⟩

theorem SamePlace.eq (h : a.SamePlace b) (hk : a.checked = b.checked) : a = b :=
  Composite.ext h.index_eq h.utf8_eq h.utf16_eq hk

theorem SamePlace.consistent (h : a.SamePlace b) (ha : a.Consistent) : b.Consistent := by
  obtain ⟨hi, h8, h16⟩ := h
  exact ⟨by rw [← h8, ← h16]; exact ha.row_eq, by rw [← h8, ← h16]; exact ha.column16_le,
    by rw [← h8, ← h16]; exact ha.column8_le, by rw [← hi, ← h8]; exact ha.le_index,
    by rw [← hi, ← h8]; exact ha.index_eq⟩

theorem order_eq_eq_iff : a.order b = .eq ↔ a.SamePlace b := by
  rw [order, Ordering.then_eq_eq, Ordering.then_eq_eq, ByteIndex.order_eq_eq_iff,
    RowColumn.order_eq_eq_iff, RowColumn.order_eq_eq_iff]
  constructor
  · rintro ⟨⟨hi, h8⟩, h16⟩; exact ⟨hi, h8, h16⟩
  · rintro ⟨hi, h8, h16⟩; exact ⟨⟨hi, h8⟩, h16⟩

theorem order_swap (a b : Composite) : (a.order b).swap = b.order a := by
  rw [order, Ordering.swap_then, Ordering.swap_then, ByteIndex.order_swap, RowColumn.order_swap,
    RowColumn.order_swap, order]

theorem OrderedAlike.symm (h : a.OrderedAlike b) : b.OrderedAlike a := by
  obtain ⟨h8, h16⟩ := h
  refine ⟨?_, ?_⟩
  · rw [← RowColumn.order_swap, ← ByteIndex.order_swap, h8]
  · rw [← RowColumn.order_swap, ← ByteIndex.order_swap, h16]

/-- Where the measures agree on an order, it is the order of the composites. -/
theorem OrderedAlike.order_eq (h : a.OrderedAlike b) : a.order b = a.index.order b.index := by
  obtain ⟨h8, h16⟩ := h
  rw [order, h8, h16]
  cases a.index.order b.index <;> rfl

theorem SamePlace.orderedAlike (h : a.SamePlace b) : a.OrderedAlike b :=
  ⟨(RowColumn.order_eq_eq_iff.2 h.utf8_eq).trans (ByteIndex.order_eq_eq_iff.2 h.index_eq).symm,
    (RowColumn.order_eq_eq_iff.2 h.utf16_eq).trans (ByteIndex.order_eq_eq_iff.2 h.index_eq).symm⟩

theorem comparable_of_orderedAlike (h : a.OrderedAlike b) : comparable a b = .ok () := by
  rw [comparable, checkComparable, if_pos h, ite_self, Except.pure_eq_ok]

theorem comparable_eq_ok_iff :
    comparable a b = .ok () ↔ ((a.checked || b.checked) = true → a.OrderedAlike b) := by
  unfold comparable checkComparable
  split
  · rename_i hk
    split
    · rename_i h; simp [h]
    · rename_i h; simp [h, hk]
  · rename_i hk; simp [hk]

/-- Composites are refused for nothing but the order of their measures. -/
theorem comparable_eq_error {f : Fault} (h : comparable a b = .error f) :
    f = .violation (.ordersDiffer a b) := by
  unfold comparable checkComparable at h
  split at h
  · split at h
    · cases h
    · cases h; rfl
  · cases h

end Composite

/-! ## Comparisons -/

namespace PositionKind

variable {P : Type} [PositionKind P]

theorem test_eq_ok_true_iff {c : Comparison} {a b : P} :
    test c a b = .ok true ↔ comparable a b = .ok () ∧ c.holds (order a b) = true := by
  rw [test_eq, Except.map_eq_ok_iff]
  constructor
  · rintro ⟨_, h, hc⟩; exact ⟨h, hc⟩
  · rintro ⟨h, hc⟩; exact ⟨(), h, hc⟩

end PositionKind

theorem Composite.SamePlace.test_eq {a b : Composite} (h : a.SamePlace b) :
    PositionKind.test .eq a b = .ok true :=
  PositionKind.test_eq_ok_true_iff.2 ⟨Composite.comparable_of_orderedAlike h.orderedAlike, by
    rw [show PositionKind.order a b = a.order b from rfl, order_eq_eq_iff.2 h]; rfl⟩

theorem Composite.samePlace_of_test_eq {a b : Composite}
    (h : PositionKind.test .eq a b = .ok true) : a.SamePlace b :=
  order_eq_eq_iff.1 (beq_iff_eq.1 (PositionKind.test_eq_ok_true_iff.1 h).2)

end Caret
