/-
  Sums of three positions, up to the limit.

  A sum is refused as soon as one of its numbers is too large. A column that is too large may be one
  that the next summand would have discarded, so the two ways to bracket three summands are not
  refused together.

  * `ByteIndex.add_assoc_iff`: on byte indices they are;
  * `RowColumn.add_assoc`, `RowColumn.add_add_of_add`: on rows and columns the first two can
    always be taken later, but earlier only if their columns fit or are not discarded;
  * `Composite.add_assoc`: composites that are not watched follow their measures;
  * `add_laws_up_to_limit`: what this says of the kinds of position.
-/
import Caret.Proofs.Position.Difference

namespace Caret

/-! ## Byte indices -/

namespace ByteIndex

variable {a b c s : ByteIndex}

theorem zero_add (a : ByteIndex) : zero.add a = .ok a :=
  add_eq_ok_iff.2 (Nat.zero_add _).symm

theorem exists_add_iff :
    (∃ s, a.add b = .ok s) ↔ a.index.val + b.index.val ≤ Coordinate.limit := by
  constructor
  · rintro ⟨s, hs⟩
    rw [← add_eq_ok_iff.1 hs]
    exact s.index.le_limit
  · intro h
    exact ⟨⟨⟨_, h⟩⟩, add_eq_ok_iff.2 rfl⟩

theorem add_assoc_iff :
    (∃ ab, a.add b = .ok ab ∧ ab.add c = .ok s) ↔ ∃ bc, b.add c = .ok bc ∧ a.add bc = .ok s := by
  have hs := s.index.le_limit
  constructor
  · rintro ⟨ab, hab, hs⟩
    rw [add_eq_ok_iff] at hab hs
    obtain ⟨bc, hbc⟩ : ∃ bc, b.add c = .ok bc := exists_add_iff.2 (by omega)
    refine ⟨bc, hbc, ?_⟩
    rw [add_eq_ok_iff] at hbc ⊢
    omega
  · rintro ⟨bc, hbc, hs⟩
    rw [add_eq_ok_iff] at hbc hs
    obtain ⟨ab, hab⟩ : ∃ ab, a.add b = .ok ab := exists_add_iff.2 (by omega)
    refine ⟨ab, hab, ?_⟩
    rw [add_eq_ok_iff] at hab ⊢
    omega

end ByteIndex

/-! ## Rows and columns -/

namespace RowColumn

variable {u : ColumnUnit} {a b c ab bc s : RowColumn u}

theorem zero_add (a : RowColumn u) : zero.add a = .ok a := by
  rw [add_eq_ok_iff, zero, Coordinate.val_zero, ite_self, Nat.zero_add, Nat.zero_add]
  exact ⟨rfl, rfl⟩

theorem exists_add_of_le (hrow : a.row.val + b.row.val ≤ Coordinate.limit)
    (hcolumn : (if b.row.val = 0 then a.column.val else 0) + b.column.val ≤ Coordinate.limit) :
    ∃ s, a.add b = .ok s :=
  ⟨⟨⟨_, hrow⟩, ⟨_, hcolumn⟩⟩, add_eq_ok_iff.2 ⟨rfl, rfl⟩⟩

theorem add_of_column_lt (hrow : b.row = .zero)
    (h : Coordinate.limit < a.column.val + b.column.val) :
    a.add b = .error (.sumTooLarge "column" a.column.decimal b.column.decimal) := by
  rw [add, if_pos hrow, Coordinate.add_of_lt h]
  rfl

/-- The columns of `b + c` are among those of `(a + b) + c`, so they fit, too. -/
theorem add_assoc (hab : a.add b = .ok ab) (hs : ab.add c = .ok s) :
    ∃ bc, b.add c = .ok bc ∧ a.add bc = .ok s := by
  have hrow := s.row.le_limit
  have hcolumn := s.column.le_limit
  rw [add_eq_ok_iff] at hab hs
  obtain ⟨bc, hbc⟩ : ∃ bc, b.add c = .ok bc := by
    refine exists_add_of_le (by omega) ?_
    split_ifs at * <;> omega
  refine ⟨bc, hbc, ?_⟩
  rw [add_eq_ok_iff] at hbc ⊢
  split_ifs at * <;> omega

/-- The columns of `a + b` need not be among those of `a + (b + c)`: rows of `c` discard them. -/
theorem add_add_of_add (hbc : b.add c = .ok bc) (hs : a.add bc = .ok s)
    (h : ¬(b.row = .zero ∧ 0 < c.row.val ∧ Coordinate.limit < a.column.val + b.column.val)) :
    ∃ ab, a.add b = .ok ab ∧ ab.add c = .ok s := by
  have hrow := s.row.le_limit
  have hcolumn := s.column.le_limit
  have hb := b.column.le_limit
  rw [Coordinate.eq_zero_iff] at h
  rw [add_eq_ok_iff] at hbc hs
  obtain ⟨ab, hab⟩ : ∃ ab, a.add b = .ok ab := by
    refine exists_add_of_le (by omega) ?_
    split_ifs at * <;> omega
  refine ⟨ab, hab, ?_⟩
  rw [add_eq_ok_iff] at hab ⊢
  split_ifs at * <;> omega

end RowColumn

/-! ## Composites -/

namespace Composite

variable {a b c ab s : Composite}

theorem add_eq_ok_iff_of_unwatched (ha : a.checked = false) (hb : b.checked = false) :
    a.add b = .ok s ↔ a.index.add b.index = .ok s.index ∧ a.utf8.add b.utf8 = .ok s.utf8 ∧
      a.utf16.add b.utf16 = .ok s.utf16 ∧ s.checked = false := by
  rw [add_eq_ok_iff, ha, hb, Bool.or_self]
  constructor
  · rintro ⟨hi, h8, h16, hk, -⟩
    exact ⟨hi, h8, h16, hk⟩
  · rintro ⟨hi, h8, h16, hk⟩
    refine ⟨hi, h8, h16, hk, fun h => ?_⟩
    rw [hk] at h
    cases h

theorem add_zero (ha : a.checked = false) : a.add zero = .ok a := by
  rw [add_eq_ok_iff_of_unwatched ha rfl]
  exact ⟨ByteIndex.add_zero _, RowColumn.add_zero _, RowColumn.add_zero _, ha⟩

theorem zero_add (ha : a.checked = false) : zero.add a = .ok a := by
  rw [add_eq_ok_iff_of_unwatched rfl ha]
  exact ⟨ByteIndex.zero_add _, RowColumn.zero_add _, RowColumn.zero_add _, ha⟩

theorem add_assoc (ha : a.checked = false) (hb : b.checked = false) (hc : c.checked = false)
    (hab : a.add b = .ok ab) (hs : ab.add c = .ok s) :
    ∃ bc, b.add c = .ok bc ∧ a.add bc = .ok s := by
  obtain ⟨hi, h8, h16, hk⟩ := (add_eq_ok_iff_of_unwatched ha hb).1 hab
  obtain ⟨hi', h8', h16', hk'⟩ := (add_eq_ok_iff_of_unwatched hk hc).1 hs
  obtain ⟨i, hbi, hai⟩ := ByteIndex.add_assoc_iff.1 ⟨_, hi, hi'⟩
  obtain ⟨p, hbp, hap⟩ := RowColumn.add_assoc h8 h8'
  obtain ⟨q, hbq, haq⟩ := RowColumn.add_assoc h16 h16'
  refine ⟨⟨i, p, q, false⟩, ?_, ?_⟩
  · exact (add_eq_ok_iff_of_unwatched hb hc).2 ⟨hbi, hbp, hbq, rfl⟩
  · exact (add_eq_ok_iff_of_unwatched ha rfl).2 ⟨hai, hap, haq, hk'⟩

end Composite

/-! ## All kinds -/

open PositionKind

/-- The position is not watched. Only composites can be. -/
def Kind.Unwatched : (k : Kind) → k.Place → Prop
  | .byteIndex, _ => True
  | .rowColumn _, _ => True
  | .composite, a => Composite.checked a = false

/-- **Sums up to the limit.** The origin is neutral, also for positions at the limit. If three
    summands can be added from the left, they can be added from the right, with the same sum. On
    byte indices the converse holds, too. On rows and columns it fails exactly where the third
    summand discards a column that is too large to be added first. -/
theorem add_laws_up_to_limit :
    (∀ (k : Kind) (a : k.Place), k.Unwatched a → add a zero = .ok a ∧ add zero a = .ok a) ∧
    (∀ (k : Kind) (a b c ab s : k.Place), k.Unwatched a → k.Unwatched b → k.Unwatched c →
      add a b = .ok ab → add ab c = .ok s → ∃ bc, add b c = .ok bc ∧ add a bc = .ok s) ∧
    (∀ a b c bc s : ByteIndex, add b c = .ok bc → add a bc = .ok s →
      ∃ ab, add a b = .ok ab ∧ add ab c = .ok s) ∧
    ∀ (u : ColumnUnit) (a b c bc s : RowColumn u), add b c = .ok bc → add a bc = .ok s →
      ((∃ ab s', add a b = .ok ab ∧ add ab c = .ok s') ↔
        ¬(b.row = .zero ∧ 0 < c.row.val ∧
          Coordinate.limit < a.column.val + b.column.val)) ∧
      (b.row = .zero ∧ 0 < c.row.val ∧ Coordinate.limit < a.column.val + b.column.val →
        ∃ f, add a b = .error f ∧ f.kind? = some .overflow) := by
  refine ⟨?_, ?_, ?_, ?_⟩
  · intro k a ha
    match k with
    | .byteIndex => exact ⟨ByteIndex.add_zero a, ByteIndex.zero_add a⟩
    | .rowColumn u => exact ⟨RowColumn.add_zero a, RowColumn.zero_add a⟩
    | .composite => exact ⟨Composite.add_zero ha, Composite.zero_add ha⟩
  · intro k a b c ab s ha hb hc hab hs
    match k with
    | .byteIndex => exact ByteIndex.add_assoc_iff.1 ⟨ab, hab, hs⟩
    | .rowColumn u => exact RowColumn.add_assoc hab hs
    | .composite => exact Composite.add_assoc ha hb hc hab hs
  · intro a b c bc s hbc hs
    exact ByteIndex.add_assoc_iff.2 ⟨bc, hbc, hs⟩
  · intro u a b c bc s hbc hs
    have hoverflow (h : b.row = .zero ∧ 0 < c.row.val ∧
        Coordinate.limit < a.column.val + b.column.val) := RowColumn.add_of_column_lt h.1 h.2.2
    refine ⟨⟨?_, ?_⟩, fun h => ⟨_, hoverflow h, rfl⟩⟩
    · rintro ⟨ab, s', hab, -⟩ h
      cases hab.symm.trans (hoverflow h)
    · intro h
      obtain ⟨ab, hab, hs'⟩ := RowColumn.add_add_of_add hbc hs h
      exact ⟨ab, s, hab, hs'⟩

/-- Composites of no text, whose sum is at the limit in all measures; and two columns that fill a
    line beyond the limit, in front of a line end. -/
theorem add_laws_up_to_limit_at_limit :
    (∃ a b c ab bc s : Composite, ¬a.Consistent ∧ a.add b = .ok ab ∧ ab.add c = .ok s ∧
      b.add c = .ok bc ∧ a.add bc = .ok s ∧ s.index.index.val = Coordinate.limit ∧
      s.utf8.column.val = Coordinate.limit ∧ s.utf16.row.val = Coordinate.limit) ∧
    ∃ (a b c bc s : RowColumn .utf16) (f : Fault), b.add c = .ok bc ∧ a.add bc = .ok s ∧
      a.add b = .error f ∧ f.kind? = some .overflow := by
  obtain ⟨-, hassoc, -, hexcept⟩ := add_laws_up_to_limit
  constructor
  · let a : Composite := ⟨⟨4294967290⟩, ⟨0, 4294967295⟩, ⟨7, 1⟩, false⟩
    let b : Composite := ⟨⟨3⟩, ⟨1, 2⟩, ⟨4294967280, 5⟩, false⟩
    let c : Composite := ⟨⟨2⟩, ⟨0, 4294967293⟩, ⟨8, 9⟩, false⟩
    let ab : Composite := ⟨⟨4294967293⟩, ⟨1, 2⟩, ⟨4294967287, 5⟩, false⟩
    let s : Composite := ⟨⟨4294967295⟩, ⟨1, 4294967295⟩, ⟨4294967295, 9⟩, false⟩
    have hab : a.add b = .ok ab := (Composite.add_eq_ok_iff_of_unwatched rfl rfl).2
      ⟨ByteIndex.add_eq_ok_iff.2 rfl, RowColumn.add_eq_ok_iff.2 (by decide),
        RowColumn.add_eq_ok_iff.2 (by decide), rfl⟩
    have hs : ab.add c = .ok s := (Composite.add_eq_ok_iff_of_unwatched rfl rfl).2
      ⟨ByteIndex.add_eq_ok_iff.2 rfl, RowColumn.add_eq_ok_iff.2 (by decide),
        RowColumn.add_eq_ok_iff.2 (by decide), rfl⟩
    obtain ⟨bc, hbc, hs'⟩ := hassoc .composite a b c ab s rfl rfl rfl hab hs
    exact ⟨a, b, c, ab, bc, s, by decide, hab, hs, hbc, hs', rfl, rfl, rfl⟩
  · let a : RowColumn .utf16 := ⟨0, 4294967295⟩
    let b : RowColumn .utf16 := ⟨0, 1⟩
    let c : RowColumn .utf16 := ⟨1, 0⟩
    obtain ⟨f, hf, hkind⟩ := (hexcept .utf16 a b c _ _ rfl rfl).2 ⟨rfl, by decide, by decide⟩
    exact ⟨a, b, c, _, _, f, rfl, rfl, hf, hkind⟩

end Caret
