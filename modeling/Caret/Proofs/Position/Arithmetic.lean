/-
  What the arithmetic of positions comes to, and when it is refused.

  * `Coordinate.add_of_lt`, `Coordinate.ofLength_of_lt`: what is said beyond the limit;
  * `ByteIndex.add_eq_ok_iff`, `RowColumn.add_eq_ok_iff`, `Composite.add_eq_ok_iff`: sums by their
    numbers;
  * `RowColumn.row_monus`, `RowColumn.column_monus`: differences by their numbers;
  * `Composite.of_eq_ok_iff`, `Composite.of_eq_error_iff`: composites are refused exactly if they
    are watched and not consistent;
  * `Composite.add_of_index_lt`: the index is added first, so its refusal is the one that is seen.
-/
import Caret.Position.Kind
import Caret.Proofs.Refusal

namespace Caret

/-! ## Coordinates -/

namespace Coordinate

@[simp] theorem val_zero : zero.val = 0 := rfl

@[simp] theorem val_monus (a b : Coordinate) : (a.monus b).val = a.val - b.val := rfl

theorem eq_zero_iff {a : Coordinate} : a = zero ↔ a.val = 0 :=
  Coordinate.ext_iff

theorem add_of_lt {field : Text} {a b : Coordinate} (h : limit < a.val + b.val) :
    add field a b = .error (.sumTooLarge field a.decimal b.decimal) :=
  dif_neg (by omega)

theorem ofInt_eq_error_iff {field : Text} {n : Int} {f : Fault} :
    ofInt field n = .error f ↔
      n < 0 ∧ f = .showing n (.negative field n) ∨
      limit < n ∧ f = .showing n (.tooLarge field n) := by
  constructor
  · intro h
    unfold ofInt at h
    split at h
    · rename_i hneg
      exact .inl ⟨hneg, (Except.error.inj h).symm⟩
    split at h
    · cases h
    · rename_i hle
      exact .inr ⟨not_le.1 hle, (Except.error.inj h).symm⟩
  · rintro (⟨hneg, rfl⟩ | ⟨hlt, rfl⟩)
    · rw [ofInt, if_pos hneg]
    · rw [ofInt, if_neg (by omega), dif_neg (not_le.2 hlt)]

/-- An integer that is refused is reported as what it is, unless it has too many digits for a
    report. -/
theorem kind?_of_ofInt_eq_error {field : Text} {n : Int} {f : Fault}
    (hf : ofInt field n = .error f) (hn : n.natAbs < 10 ^ Text.digitLimit) :
    f.kind? = some (if n < 0 then .invalidPosition else .overflow) := by
  rcases ofInt_eq_error_iff.1 hf with ⟨hneg, rfl⟩ | ⟨hlt, rfl⟩
  · rw [Fault.showing_of_lt hn, if_pos hneg]
    rfl
  · rw [Fault.showing_of_lt hn, if_neg (by omega)]
    rfl

theorem ofLength_of_lt {field : Text} {n : Nat} (h : limit < n) :
    ofLength field n = .error (.tooLarge field n) :=
  dif_neg (by omega)

end Coordinate

/-! ## Byte indices -/

namespace ByteIndex

theorem ext_val {a b : ByteIndex} (h : a.index.val = b.index.val) : a = b :=
  ByteIndex.ext (Coordinate.ext h)

theorem add_eq_ok_iff {a b c : ByteIndex} :
    a.add b = .ok c ↔ c.index.val = a.index.val + b.index.val := by
  simp only [add, Except.map_eq_ok_iff, Coordinate.add_eq_ok_iff, ByteIndex.ext_iff]
  constructor
  · rintro ⟨i, hi, rfl⟩; exact hi
  · intro h; exact ⟨c.index, h, rfl⟩

theorem ofInt_eq_ok_iff {n : Int} {a : ByteIndex} : ofInt n = .ok a ↔ n = a.index.val := by
  simp only [ofInt, Except.map_eq_ok_iff, Coordinate.ofInt_eq_ok_iff, ByteIndex.ext_iff]
  constructor
  · rintro ⟨i, hi, rfl⟩; exact hi
  · intro h; exact ⟨a.index, h, rfl⟩

theorem ofLength_eq_ok_iff {n : Nat} {a : ByteIndex} : ofLength n = .ok a ↔ n = a.index.val := by
  simp only [ofLength, Except.map_eq_ok_iff, Coordinate.ofLength_eq_ok_iff, ByteIndex.ext_iff]
  constructor
  · rintro ⟨i, hi, rfl⟩; exact hi
  · intro h; exact ⟨a.index, h, rfl⟩

end ByteIndex

/-! ## Rows and columns -/

namespace RowColumn

variable {u : ColumnUnit} {a b c : RowColumn u}

theorem ext_val (hr : a.row.val = b.row.val) (hc : a.column.val = b.column.val) : a = b :=
  RowColumn.ext (Coordinate.ext hr) (Coordinate.ext hc)

/-- The column of a sum forgets that of the first summand if the second has rows. -/
theorem add_eq_ok_iff :
    a.add b = .ok c ↔ c.row.val = a.row.val + b.row.val ∧
      c.column.val = (if b.row.val = 0 then a.column.val else 0) + b.column.val := by
  unfold add
  by_cases h : b.row.val = 0
  · rw [if_pos (Coordinate.eq_zero_iff.2 h), if_pos h, h, Except.map_eq_ok_iff]
    constructor
    · rintro ⟨i, hi, rfl⟩
      exact ⟨rfl, Coordinate.add_eq_ok_iff.1 hi⟩
    · rintro ⟨hr, hc⟩
      exact ⟨c.column, Coordinate.add_eq_ok_iff.2 hc, ext_val hr.symm rfl⟩
  · rw [if_neg (mt Coordinate.eq_zero_iff.1 h), if_neg h, Nat.zero_add, Except.map_eq_ok_iff]
    constructor
    · rintro ⟨i, hi, rfl⟩
      exact ⟨Coordinate.add_eq_ok_iff.1 hi, rfl⟩
    · rintro ⟨hr, hc⟩
      exact ⟨c.row, Coordinate.add_eq_ok_iff.2 hr, ext_val rfl hc.symm⟩

theorem row_monus (a b : RowColumn u) : (a.monus b).row.val = a.row.val - b.row.val := by
  unfold monus
  split
  · rw [zero, Coordinate.val_zero]; omega
  split
  · rename_i h; rw [Coordinate.val_zero, h]; omega
  · rfl

theorem column_monus (a b : RowColumn u) :
    (a.monus b).column.val =
      if a.row.val < b.row.val then 0
      else if a.row.val = b.row.val then a.column.val - b.column.val else a.column.val := by
  simp only [monus, Coordinate.ext_iff]
  split
  · rfl
  split
  · rfl
  · rfl

theorem ofInts_eq_ok_iff {row column : Int} :
    ofInts row column = .ok a ↔ row = a.row.val ∧ column = a.column.val := by
  simp only [ofInts, Except.bind_eq_ok_iff, Coordinate.ofInt_eq_ok_iff, pure, Except.pure,
    Except.ok.injEq]
  constructor
  · rintro ⟨r, hr, s, hs, rfl⟩; exact ⟨hr, hs⟩
  · rintro ⟨hr, hs⟩; exact ⟨a.row, hr, a.column, hs, rfl⟩

end RowColumn

/-! ## Composites -/

namespace Composite

theorem checkConsistency_eq_ok_iff {c : Composite} :
    c.checkConsistency = .ok () ↔ c.Consistent := by
  rw [← violation?_eq_none_iff, checkConsistency]
  cases c.violation? <;> simp

theorem of_eq_ok_iff {index : ByteIndex} {utf8 : RowColumn .utf8} {utf16 : RowColumn .utf16}
    {checked : Bool} {c : Composite} :
    of index utf8 utf16 checked = .ok c ↔
      c = ⟨index, utf8, utf16, checked⟩ ∧ (checked = true → c.Consistent) := by
  cases checked with
  | false => simp [of, eq_comm]
  | true =>
    simp only [of, if_true, Except.functor_map_eq, Except.map_eq_ok_iff, forall_const]
    constructor
    · rintro ⟨_, h, rfl⟩
      exact ⟨rfl, checkConsistency_eq_ok_iff.1 h⟩
    · rintro ⟨rfl, h⟩
      exact ⟨(), checkConsistency_eq_ok_iff.2 h, rfl⟩

/-- A composite is refused exactly if it is watched and breaks a rule, which is what is reported. -/
theorem of_eq_error_iff {index : ByteIndex} {utf8 : RowColumn .utf8} {utf16 : RowColumn .utf16}
    {checked : Bool} {f : Fault} :
    of index utf8 utf16 checked = .error f ↔
      checked = true ∧ ∃ v, violation? ⟨index, utf8, utf16, checked⟩ = some v ∧
        f = .violation v := by
  cases checked with
  | false => simp [of]
  | true =>
    simp only [of, if_true, checkConsistency]
    cases violation? ⟨index, utf8, utf16, true⟩ with
    | none => simp [Except.map]
    | some v => simp [Except.map, eq_comm]

theorem exists_of_iff {index : ByteIndex} {utf8 : RowColumn .utf8} {utf16 : RowColumn .utf16} :
    (∃ c, of index utf8 utf16 true = .ok c) ↔ Consistent ⟨index, utf8, utf16, true⟩ := by
  simp only [of_eq_ok_iff, forall_const, exists_eq_left]

theorem exists_of_error_iff {index : ByteIndex} {utf8 : RowColumn .utf8}
    {utf16 : RowColumn .utf16} :
    (∃ v, of index utf8 utf16 true = .error (.violation v)) ↔
      ¬Consistent ⟨index, utf8, utf16, true⟩ := by
  simp only [of_eq_error_iff, true_and, Fault.violation.injEq, exists_eq_right',
    ← violation?_eq_none_iff, ← Option.isSome_iff_ne_none, Option.isSome_iff_exists]

theorem ofInts_eq_ok_iff {index row column8 column16 : Int} {checked : Bool} {c : Composite} :
    ofInts index row column8 column16 checked = .ok c ↔
      (index = c.index.index.val ∧ row = c.utf8.row.val ∧ column8 = c.utf8.column.val ∧
        row = c.utf16.row.val ∧ column16 = c.utf16.column.val) ∧
      c.checked = checked ∧ (checked = true → c.Consistent) := by
  simp only [ofInts, ofExcept_eq, Except.bind_eq_ok_iff, ByteIndex.ofInt_eq_ok_iff,
    RowColumn.ofInts_eq_ok_iff, of_eq_ok_iff]
  constructor
  · rintro ⟨i, hi, p, ⟨hr8, hc8⟩, q, ⟨hr16, hc16⟩, rfl, hc⟩
    exact ⟨⟨hi, hr8, hc8, hr16, hc16⟩, rfl, hc⟩
  · rintro ⟨⟨hi, hr8, hc8, hr16, hc16⟩, rfl, hc⟩
    exact ⟨c.index, hi, c.utf8, ⟨hr8, hc8⟩, c.utf16, ⟨hr16, hc16⟩, rfl, hc⟩

/-- The index is added first, so it is what a sum is refused for if more than one number is too
    large. -/
theorem add_of_index_lt {a b : Composite}
    (h : Coordinate.limit < a.index.index.val + b.index.index.val) :
    a.add b = .error (.sumTooLarge "index" a.index.index.decimal b.index.index.decimal) := by
  rw [add, ByteIndex.add, Coordinate.add_of_lt h]
  rfl

theorem add_eq_ok_iff {a b c : Composite} :
    a.add b = .ok c ↔ a.index.add b.index = .ok c.index ∧ a.utf8.add b.utf8 = .ok c.utf8 ∧
      a.utf16.add b.utf16 = .ok c.utf16 ∧ c.checked = (a.checked || b.checked) ∧
        (c.checked = true → c.Consistent) := by
  simp only [add, ofExcept_eq, Except.bind_eq_ok_iff, of_eq_ok_iff]
  constructor
  · rintro ⟨i, hi, u, hu, v, hv, rfl, hc⟩
    exact ⟨hi, hu, hv, rfl, hc⟩
  · rintro ⟨hi, hu, hv, hk, hc⟩
    exact ⟨c.index, hi, c.utf8, hu, c.utf16, hv, by rw [← hk], hk ▸ hc⟩

end Composite

end Caret
