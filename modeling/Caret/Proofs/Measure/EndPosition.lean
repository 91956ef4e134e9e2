/-
  What measuring a text comes to.

  * `Text.EndsAt`: the five numbers of a composite are those of the end of a text;
  * `measure_eq_ok_iff`: measuring answers the composite at which a text ends, and no other;
  * `exists_measure_iff`: it answers exactly for encodable texts whose bytes are within the limit;
  * `measure_of_lt`: beyond the limit it is refused for the index;
  * `EndsAt.consistent`: watching never refuses the end of a text;
  * `EndsAt.exists_of_infix`: what stands inside a text that has an end has one as well.
-/
import Caret.Proofs.Position.Order
import Caret.Proofs.Text.Length

namespace Caret.Text

variable {t : Text} {c d : Composite}

/-- The numbers of `c` are those of the end of `t`. -/
structure EndsAt (t : Text) (c : Composite) : Prop where
  /-- The text has an encoding. -/
  encodable : t.Encodable
  /-- The index counts its bytes. -/
  index_eq : c.index.index.val = t.bytes
  /-- One row counts its line terminators. -/
  row8_eq : c.utf8.row.val = t.rows
  /-- One column counts the bytes of its last line. -/
  column8_eq : c.utf8.column.val = t.lastLine.bytes
  /-- The other row counts its line terminators, too. -/
  row16_eq : c.utf16.row.val = t.rows
  /-- The other column counts the UTF-16 code units of its last line. -/
  column16_eq : c.utf16.column.val = t.lastLine.units

/-- **Soundness of the rules of agreement.** The end of a text breaks none of them. -/
theorem EndsAt.consistent (h : t.EndsAt c) : c.Consistent where
  row_eq := Coordinate.ext (h.row8_eq.trans h.row16_eq.symm)
  column16_le := by rw [h.column16_eq, h.column8_eq]; exact units_le_bytes _
  column8_le := by rw [h.column16_eq, h.column8_eq]; exact bytes_le_units _
  le_index := by rw [h.row8_eq, h.column8_eq, h.index_eq]; exact rows_add_bytes_lastLine_le t
  index_eq hr := by
    have hn : CodePoint.newline ∉ t := rows_eq_zero_iff.1 (h.row8_eq ▸ Coordinate.eq_zero_iff.1 hr)
    refine Coordinate.ext ?_
    rw [h.index_eq, h.column8_eq, lastLine_of_notMem hn]

theorem EndsAt.bytes_le (h : t.EndsAt c) : t.bytes ≤ Coordinate.limit :=
  h.index_eq ▸ c.index.index.le_limit

/-- Whether the composite is watched does not matter. -/
theorem EndsAt.congr (h : t.EndsAt c) (hcd : c.SamePlace d) : t.EndsAt d where
  encodable := h.encodable
  index_eq := hcd.index_eq ▸ h.index_eq
  row8_eq := hcd.utf8_eq ▸ h.row8_eq
  column8_eq := hcd.utf8_eq ▸ h.column8_eq
  row16_eq := hcd.utf16_eq ▸ h.row16_eq
  column16_eq := hcd.utf16_eq ▸ h.column16_eq

/-- A text ends at one place only. -/
theorem EndsAt.samePlace (hc : t.EndsAt c) (hd : t.EndsAt d) : c.SamePlace d where
  index_eq := ByteIndex.ext_val (hc.index_eq.trans hd.index_eq.symm)
  utf8_eq := RowColumn.ext_val (hc.row8_eq.trans hd.row8_eq.symm)
    (hc.column8_eq.trans hd.column8_eq.symm)
  utf16_eq := RowColumn.ext_val (hc.row16_eq.trans hd.row16_eq.symm)
    (hc.column16_eq.trans hd.column16_eq.symm)

/-! ## Measuring -/

theorem endPosition_eq_ok_iff : t.endPosition = .ok c ↔ t.EndsAt c ∧ c.checked = false := by
  simp only [endPosition, Except.bind_eq_ok_iff, utf8Length_eq_ok_iff,
    ByteIndex.ofLength_eq_ok_iff, RowColumn.ofInts_eq_ok_iff, pure, Except.pure, Except.ok.injEq]
  constructor
  · rintro ⟨_, ⟨_, rfl⟩, _, ⟨ht, rfl⟩, index, hi, utf8, ⟨hr8, hc8⟩, utf16, ⟨hr16, hc16⟩, rfl⟩
    have val_eq {m n : Nat} (h : (m : Int) = n) : n = m := (Int.ofNat_inj.1 h).symm
    exact ⟨⟨ht, hi.symm, val_eq hr8, val_eq hc8, val_eq hr16, val_eq hc16⟩, rfl⟩
  · rintro ⟨h, hk⟩
    refine ⟨_, ⟨h.encodable.of_suffix (lastLine_suffix t), rfl⟩, _, ⟨h.encodable, rfl⟩, c.index,
      by rw [h.index_eq], c.utf8, ⟨by rw [h.row8_eq], by rw [h.column8_eq]⟩, c.utf16,
      ⟨by rw [h.row16_eq], by rw [h.column16_eq, units]⟩, by rw [← hk]⟩

/-- **Measuring answers the end of the text.** Watching it or not makes no difference but to the
    answer being watched. -/
theorem measure_eq_ok_iff {checked : Bool} :
    t.measure checked = .ok c ↔ t.EndsAt c ∧ c.checked = checked := by
  simp only [measure, ofExcept_eq, Except.bind_eq_ok_iff, endPosition_eq_ok_iff,
    Composite.withChecked, Composite.of_eq_ok_iff]
  constructor
  · rintro ⟨d, ⟨hd, _⟩, rfl, _⟩
    exact ⟨hd.congr (d.samePlace_watched checked), rfl⟩
  · rintro ⟨hc, rfl⟩
    have hfree : t.EndsAt { c with checked := false } := hc.congr (c.samePlace_watched false)
    exact ⟨_, ⟨hfree, rfl⟩, rfl, fun _ => hc.consistent⟩

/-- Rows and columns fit where the index does, so an encodable text within the limit has an end. -/
theorem exists_endsAt (ht : t.Encodable) (hb : t.bytes ≤ Coordinate.limit) (checked : Bool) :
    ∃ c, t.EndsAt c ∧ c.checked = checked := by
  have hle := rows_add_bytes_lastLine_le t
  have hunits := units_le_bytes t.lastLine
  let c : Composite := ⟨⟨⟨t.bytes, hb⟩⟩, ⟨⟨t.rows, by omega⟩, ⟨t.lastLine.bytes, by omega⟩⟩,
    ⟨⟨t.rows, by omega⟩, ⟨t.lastLine.units, by omega⟩⟩, checked⟩
  exact ⟨c, ⟨ht, rfl, rfl, rfl, rfl, rfl⟩, rfl⟩

/-- Every part of a text that has an end has one. -/
theorem EndsAt.exists_of_infix {part : Text} (h : t.EndsAt c) (hpart : part <:+: t)
    (checked : Bool) : ∃ d, part.EndsAt d ∧ d.checked = checked := by
  obtain ⟨before, behind, rfl⟩ := hpart
  have ht := h.encodable
  have hle := h.bytes_le
  rw [encodable_append, encodable_append] at ht
  rw [bytes_append, bytes_append] at hle
  exact exists_endsAt ht.1.2 (by omega) checked

theorem exists_measure_iff {checked : Bool} :
    (∃ c, t.measure checked = .ok c) ↔ t.Encodable ∧ t.bytes ≤ Coordinate.limit := by
  constructor
  · rintro ⟨c, h⟩
    have hc := (measure_eq_ok_iff.1 h).1
    exact ⟨hc.encodable, hc.bytes_le⟩
  · rintro ⟨ht, hb⟩
    obtain ⟨c, hc⟩ := exists_endsAt ht hb checked
    exact ⟨c, measure_eq_ok_iff.2 hc⟩

theorem measure_of_lt {checked : Bool} (ht : t.Encodable) (hb : Coordinate.limit < t.bytes) :
    t.measure checked = .error (.tooLarge "index" t.bytes) := by
  have hindex : ByteIndex.ofLength t.bytes = .error (.tooLarge "index" t.bytes) := by
    rw [ByteIndex.ofLength, Coordinate.ofLength_of_lt hb]; rfl
  have hlast := utf8Length_of_encodable (ht.of_suffix (lastLine_suffix t))
  rw [measure, endPosition, hlast, utf8Length_of_encodable ht]
  simp only [ofExcept_eq, bind, Except.bind, hindex]

end Caret.Text
