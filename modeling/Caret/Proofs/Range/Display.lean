/-
  Displays tell positions and ranges apart.

  The numerals of a display are kept apart by marks that are no digits, so the numbers can be read
  off it. Of a composite only rows and columns of bytes are shown.

  * `Kind.display_inj`: positions with one display are one, unless they are composites;
  * `Range.test_eq_iff`: ranges of such positions are equal if they are one;
  * `Kind.display_range_inj`: ranges with one display are one, unless they are of composites;
  * `Range.display_of_composites`: those look like ranges in rows and bytes;
  * `Range.dash_notMem_display`, `Range.dash_mem_display`: only byte indices do without a dash;
  * `display_unambiguous`: what displays say of positions and ranges.
-/
import Caret.Position.Any
import Caret.Proofs.Position.SingleMeasure
import Caret.Proofs.Text.Numerals

namespace Caret

open PositionKind (display test)

variable {u : ColumnUnit}

/-! ## Positions -/

theorem ByteIndex.display_inj {a b : ByteIndex} : a.display = b.display ↔ a = b := by
  rw [display, display, Coordinate.decimal, Coordinate.decimal, Text.decimal_inj,
    ByteIndex.ext_iff, Coordinate.ext_iff]

/-- Counting from one does not make two positions one. -/
theorem RowColumn.succ_inj {a b : RowColumn u} :
    a.row.val + 1 = b.row.val + 1 ∧ a.column.val + 1 = b.column.val + 1 ↔ a = b := by
  rw [Nat.succ_inj, Nat.succ_inj, RowColumn.ext_iff, Coordinate.ext_iff, Coordinate.ext_iff]

theorem RowColumn.display_eq (a : RowColumn u) :
    a.display = Text.decimal (a.row.val + 1) ++ CodePoint.ofChar ':' ::
      Text.decimal (a.column.val + 1) := by
  simp [display, Text.join, Text.ofString]

theorem RowColumn.display_inj {a b : RowColumn u} : a.display = b.display ↔ a = b := by
  rw [display_eq, display_eq, Text.decimal_append_inj (by decide), Text.decimal_inj, succ_inj]

theorem Kind.display_inj : {k : Kind} → k ≠ .composite → {a b : k.Place} →
    (display a = display b ↔ a = b)
  | .byteIndex, _, _, _ => ByteIndex.display_inj
  | .rowColumn _, _, _, _ => RowColumn.display_inj
  | .composite, h, _, _ => absurd rfl h

/-! ## Ranges -/

namespace Range

theorem display_of_bytes (r : Range ByteIndex) :
    r.display = Text.decimal r.start.index.val ++ CodePoint.ofChar '.' ::
      CodePoint.ofChar '.' :: Text.decimal r.stop.index.val := by
  simp [display, PositionKind.rowColumn?, PositionKind.display, ByteIndex.display,
    Coordinate.decimal, Text.join, Text.ofString]

theorem display_of_rows (r : Range (RowColumn u)) :
    r.display =
      Text.decimal (r.start.row.val + 1) ++ CodePoint.ofChar '.' ::
        (Text.decimal (r.start.column.val + 1) ++ CodePoint.ofChar '-' ::
          (Text.decimal (r.stop.row.val + 1) ++ CodePoint.ofChar '.' ::
            Text.decimal (r.stop.column.val + 1))) := by
  simp [display, PositionKind.rowColumn?, Text.join, Text.ofString]

/-- Nothing else is shown of composites than rows and columns of bytes. -/
theorem display_of_composites (r : Range Composite) :
    r.display = Range.display ⟨r.start.utf8, r.stop.utf8⟩ := rfl

theorem display_of_bytes_inj {r s : Range ByteIndex} : r.display = s.display ↔ r = s := by
  rw [display_of_bytes, display_of_bytes, Text.decimal_append_inj (by decide),
    List.cons_inj_right, Text.decimal_inj, Range.ext_iff, ByteIndex.ext_iff, ByteIndex.ext_iff,
    Coordinate.ext_iff, Coordinate.ext_iff]

theorem display_of_rows_inj {r s : Range (RowColumn u)} : r.display = s.display ↔ r = s := by
  rw [display_of_rows, display_of_rows, Text.decimal_append_inj (by decide),
    Text.decimal_append_inj (by decide), Text.decimal_append_inj (by decide), Text.decimal_inj,
    Range.ext_iff, ← RowColumn.succ_inj, ← RowColumn.succ_inj, and_assoc]

/-! ## Byte indices and others -/

theorem dash_notMem_display (r : Range ByteIndex) : CodePoint.ofChar '-' ∉ r.display := by
  rw [display_of_bytes, List.mem_append, List.mem_cons, List.mem_cons]
  rintro (h | h | h | h)
  · cases Text.isDigit_of_mem_decimal h
  · cases h
  · cases h
  · cases Text.isDigit_of_mem_decimal h

theorem dash_mem_display_of_rows (r : Range (RowColumn u)) : CodePoint.ofChar '-' ∈ r.display := by
  rw [display_of_rows]
  simp

theorem dash_mem_display : {k : Kind} → k ≠ .byteIndex → (r : Range k.Place) →
    CodePoint.ofChar '-' ∈ r.display
  | .byteIndex, h, _ => absurd rfl h
  | .rowColumn _, _, r => dash_mem_display_of_rows r
  | .composite, _, r => dash_mem_display_of_rows (u := .utf8) ⟨r.start.utf8, r.stop.utf8⟩

/-! ## Equality -/

/-- The ends are compared one after the other, and none of these comparisons is refused. -/
theorem test_eq_iff {P : Type} [PositionKind P] [SingleMeasure P] {r s : Range P} :
    r.test .eq s = .ok true ↔ r = s := by
  have heq (a b : P) : PositionKind.eq a b = .ok (PositionKind.order a b == .eq) :=
    SingleMeasure.test_eq .eq a b
  rw [Range.test, heq, heq, Range.ext_iff, ← SingleMeasure.order_eq_eq_iff (a := r.start),
    ← SingleMeasure.order_eq_eq_iff (a := r.stop), SingleMeasure.test_eq, SingleMeasure.test_eq]
  cases PositionKind.order r.start s.start with
  | eq =>
    cases PositionKind.order r.stop s.stop with
    | eq => exact iff_of_true rfl ⟨rfl, rfl⟩
    | lt => exact iff_of_false nofun nofun
    | gt => exact iff_of_false nofun nofun
  | lt => exact iff_of_false nofun nofun
  | gt => exact iff_of_false nofun nofun

end Range

theorem Kind.display_range_inj : {k : Kind} → k ≠ .composite → {r s : Range k.Place} →
    (r.display = s.display ↔ r = s)
  | .byteIndex, _, _, _ => Range.display_of_bytes_inj
  | .rowColumn _, _, _, _ => Range.display_of_rows_inj
  | .composite, h, _, _ => absurd rfl h

/-! ## Main statement -/

/-- **Displays are unambiguous.** Take positions in one measure: two of them are displayed alike
    exactly if they are equal, and so are two ranges. Of composites, and of ranges between them, the
    display says where they are in rows and bytes, and nothing else. The display of a range of byte
    indices is never that of a range of another kind. -/
theorem display_unambiguous :
    (∀ k : Kind, k ≠ .composite →
      (∀ a b : k.Place, display a = display b ↔ test .eq a b = .ok true) ∧
      ∀ r s : Range k.Place, r.display = s.display ↔ r.test .eq s = .ok true) ∧
    (∀ a b : Composite, display a = display b ↔ test .eq a.utf8 b.utf8 = .ok true) ∧
    (∀ r s : Range Composite, r.display = s.display ↔
      test .eq r.start.utf8 s.start.utf8 = .ok true ∧
      test .eq r.stop.utf8 s.stop.utf8 = .ok true) ∧
    ∀ (r : Range ByteIndex) (s : PositionRange), s.kind ≠ .byteIndex → r.display ≠ s.display := by
  refine ⟨fun k hk => ?_, fun a b => ?_, fun r s => ?_, fun r s hs h => ?_⟩
  · have hsingle : SingleMeasure k.Place := k.singleMeasure hk
    refine ⟨fun a b => ?_, fun r s => ?_⟩
    · rw [Kind.display_inj hk, SingleMeasure.test_eq_iff]
    · rw [Kind.display_range_inj hk, Range.test_eq_iff]
  · rw [SingleMeasure.test_eq_iff]
    exact RowColumn.display_inj
  · rw [Range.display_of_composites, Range.display_of_composites, Range.display_of_rows_inj,
      Range.ext_iff, SingleMeasure.test_eq_iff, SingleMeasure.test_eq_iff]
  · exact r.dash_notMem_display (h ▸ Range.dash_mem_display hs s.range)

/-- Two ranges with the same digits in their displays, which are not the same for that; two
    composites of one row and column, the second one of no text; and the byte that these digits
    could also be about. -/
theorem display_unambiguous_with_the_same_digits :
    ∃ (r s : Range (RowColumn .utf16)) (a b : Composite) (q : Range ByteIndex),
      r.Valid ∧ s.Valid ∧ q.Valid ∧ (⟨a, b⟩ : Range Composite).Valid ∧
      r.test .eq s = .ok false ∧ r.display ≠ s.display ∧
      test .eq a b = .ok false ∧ display a = display b ∧
      q.display ≠ PositionRange.display ⟨.composite, ⟨a, b⟩⟩ := by
  let r : Range (RowColumn .utf16) := ⟨⟨0, 0⟩, ⟨0, 10⟩⟩
  let s : Range (RowColumn .utf16) := ⟨⟨0, 0⟩, ⟨10, 0⟩⟩
  let a : Composite := ⟨⟨0⟩, ⟨0, 0⟩, ⟨0, 0⟩, false⟩
  let b : Composite := ⟨⟨11⟩, ⟨0, 0⟩, ⟨5, 0⟩, false⟩
  let q : Range ByteIndex := ⟨⟨11⟩, ⟨11⟩⟩
  obtain ⟨hsingle, hcomposite, -, hbytes⟩ := display_unambiguous
  have hrs : r.test .eq s = .ok false := rfl
  have hdisplay : r.display ≠ s.display := by
    intro h
    cases hrs.symm.trans (((hsingle (.rowColumn .utf16) nofun).2 r s).1 h)
  exact ⟨r, s, a, b, q, ⟨by decide, rfl⟩, ⟨by decide, rfl⟩, ⟨by decide, rfl⟩, ⟨by decide, rfl⟩,
    hrs, hdisplay, rfl, (hcomposite a b).2 rfl, hbytes q ⟨.composite, ⟨a, b⟩⟩ nofun⟩

end Caret
