/-
  The rules of agreement are exact: a composite follows them if and only if some text ends there.

  * `Text.line`: a line with as many bytes and UTF-16 code units as asked for;
  * `Composite.sample`: a text for a composite, with all earlier lines but the first one empty;
  * `Consistent.endsAt_sample`: the sample of a consistent composite ends there;
  * `checked_iff_exists_text`: so the composites that can be watched are the ends of texts.
-/
import Caret.Proofs.Measure.EndPosition

namespace Caret

namespace Text

/-! ## A line of given lengths -/

/-- A character of one byte. -/
def narrow : CodePoint := .ofChar 'a'

/-- A character of two bytes, but one code unit in UTF-16. -/
def medium : CodePoint := .ofChar 'é'

/-- A character of three bytes, but one code unit in UTF-16. -/
def wide : CodePoint := .ofChar '€'

/-- A line of `units` characters that takes `bytes` bytes: what it has more bytes than characters
    goes into wide characters by two, and what is left over into a medium one. -/
def line (bytes units : Nat) : Text :=
  List.replicate ((bytes - units) / 2) wide ++ List.replicate ((bytes - units) % 2) medium ++
    List.replicate (units - (bytes - units) / 2 - (bytes - units) % 2) narrow

variable {m n : Nat}

theorem bytes_line (h : n ≤ m) (h' : m ≤ 3 * n) : (line m n).bytes = m := by
  simp only [line, bytes_append, bytes_replicate, show wide.utf8.length = 3 from rfl,
    show medium.utf8.length = 2 from rfl, show narrow.utf8.length = 1 from rfl]
  omega

theorem units_line (h : n ≤ m) (h' : m ≤ 3 * n) : (line m n).units = n := by
  simp only [line, units_append, units_replicate, show wide.utf16.length = 1 from rfl,
    show medium.utf16.length = 1 from rfl, show narrow.utf16.length = 1 from rfl]
  omega

theorem encodable_line (m n : Nat) : (line m n).Encodable := by
  simp only [line, encodable_append]
  exact ⟨⟨encodable_replicate rfl, encodable_replicate rfl⟩, encodable_replicate rfl⟩

theorem newline_notMem_line (m n : Nat) : CodePoint.newline ∉ line m n := by
  simp only [line, List.mem_append, List.mem_replicate]
  rintro ((⟨-, h⟩ | ⟨-, h⟩) | ⟨-, h⟩)
  all_goals exact absurd h (by decide)

end Text

/-! ## A text for a composite -/

namespace Composite

open Text

variable {c : Composite}

/-- A text that ends at a consistent composite: a first line for all bytes that are not accounted
    for otherwise, empty lines, and a last line with the columns. -/
def sample (c : Composite) : Text :=
  List.replicate (c.index.index.val - c.utf8.row.val - c.utf8.column.val) narrow ++
    List.replicate c.utf8.row.val CodePoint.newline ++
    line c.utf8.column.val c.utf16.column.val

/-- The lines in front of the last one leave nothing on it: without a row there is nothing in front
    of it, and otherwise a line terminator is. -/
theorem Consistent.lastLine_sample (h : c.Consistent) :
    c.sample.lastLine = line c.utf8.column.val c.utf16.column.val := by
  rw [sample, lastLine_append_of_notMem _ (newline_notMem_line _ _)]
  cases hr : c.utf8.row.val with
  | zero =>
    have hindex : c.index.index.val = c.utf8.column.val :=
      congrArg Coordinate.val (h.index_eq (Coordinate.eq_zero_iff.2 hr))
    rw [hindex, Nat.sub_zero, Nat.sub_self]
    rfl
  | succ r =>
    have hlast : lastLine [CodePoint.newline] = [] := rfl
    rw [List.replicate_succ', ← List.append_assoc,
      lastLine_append_of_mem _ List.mem_cons_self, hlast, List.nil_append]

/-- **Completeness of the rules of agreement.** Where none is broken, a text ends. -/
theorem Consistent.endsAt_sample (h : c.Consistent) : c.sample.EndsAt c := by
  have hrows : c.sample.rows = c.utf8.row.val := by
    have hline := rows_eq_zero_iff.2 (newline_notMem_line c.utf8.column.val c.utf16.column.val)
    have hfirst (n : Nat) : rows (List.replicate n narrow) = 0 :=
      rows_eq_zero_iff.2 fun hn => absurd (List.eq_of_mem_replicate hn) (by decide)
    rw [sample, rows_append, rows_append, hline, hfirst, rows, List.count_replicate_self]
    omega
  have hbytes := bytes_line h.column16_le h.column8_le
  have hunits := units_line h.column16_le h.column8_le
  refine ⟨?_, ?_, hrows.symm, ?_, ?_, ?_⟩
  · simp only [sample, encodable_append]
    exact ⟨⟨encodable_replicate rfl, encodable_replicate rfl⟩, encodable_line _ _⟩
  · have hle := h.le_index
    simp only [sample, bytes_append, bytes_replicate, hbytes, show narrow.utf8.length = 1 from rfl,
      show CodePoint.newline.utf8.length = 1 from rfl]
    omega
  · rw [h.lastLine_sample, hbytes]
  · rw [hrows, h.row_eq]
  · rw [h.lastLine_sample, hunits]

/-! ## What can be watched -/

/-- **Watching is exact.** Numbers, of any size and sign, make a composite that is watched if and
    only if they are those of the end of an encodable text within the limit. So do positions, and
    where there is no such text, a broken rule is what is reported. -/
theorem checked_iff_exists_text :
    (∀ index row column8 column16 : Int,
      (∃ c, ofInts index row column8 column16 true = .ok c) ↔
        ∃ (t : Text) (m : Composite), t.Encodable ∧ t.bytes ≤ Coordinate.limit ∧
          t.measure false = .ok m ∧ m.index.index.val = index ∧ m.utf8.row.val = row ∧
          m.utf16.row.val = row ∧ m.utf8.column.val = column8 ∧ m.utf16.column.val = column16) ∧
    ∀ (index : ByteIndex) (utf8 : RowColumn .utf8) (utf16 : RowColumn .utf16),
      ((∃ c, of index utf8 utf16 true = .ok c) ↔
        ∃ t : Text, t.Encodable ∧ t.bytes ≤ Coordinate.limit ∧
          t.measure false = .ok ⟨index, utf8, utf16, false⟩) ∧
      ((∃ v, of index utf8 utf16 true = .error (.violation v)) ↔
        ¬∃ t : Text, t.Encodable ∧ t.bytes ≤ Coordinate.limit ∧
          t.measure false = .ok ⟨index, utf8, utf16, false⟩) := by
  refine ⟨fun index row column8 column16 => ?_, fun index utf8 utf16 => ?_⟩
  · simp only [ofInts_eq_ok_iff]
    constructor
    · rintro ⟨c, ⟨hi, hr8, hc8, hr16, hc16⟩, -, hc⟩
      have ht := (hc trivial).endsAt_sample
      obtain ⟨m, hm⟩ := exists_measure_iff.2 ⟨ht.encodable, ht.bytes_le⟩
      have hs : m.SamePlace c := (measure_eq_ok_iff.1 hm).1.samePlace ht
      refine ⟨c.sample, m, ht.encodable, ht.bytes_le, hm, ?_⟩
      rw [hs.index_eq, hs.utf8_eq, hs.utf16_eq]
      exact ⟨hi.symm, hr8.symm, hr16.symm, hc8.symm, hc16.symm⟩
    · rintro ⟨t, m, ht, -, hm, rfl, rfl, hr16, rfl, rfl⟩
      have hc := (measure_eq_ok_iff.1 hm).1.consistent
      exact ⟨{ m with checked := true }, ⟨rfl, rfl, rfl, hr16.symm, rfl⟩, rfl,
        fun _ => (m.samePlace_watched true).consistent hc⟩
  · have key : Consistent ⟨index, utf8, utf16, true⟩ ↔ ∃ t : Text, t.Encodable ∧
        t.bytes ≤ Coordinate.limit ∧ t.measure false = .ok ⟨index, utf8, utf16, false⟩ := by
      constructor
      · intro h
        have ht := h.endsAt_sample
        exact ⟨_, ht.encodable, ht.bytes_le,
          measure_eq_ok_iff.2 ⟨ht.congr (samePlace_watched _ false), rfl⟩⟩
      · rintro ⟨t, -, -, ht⟩
        exact (samePlace_watched _ true).consistent (measure_eq_ok_iff.1 ht).1.consistent
    rw [← key, exists_of_iff, exists_of_error_iff]
    exact ⟨Iff.rfl, Iff.rfl⟩

end Composite

end Caret
