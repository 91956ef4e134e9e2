/-
  The objects by which editors speak of ranges: which of them are read, what is given back for them,
  and what is refused first.

  * `Value.IsEditorPosition`, `Value.IsEditorRange`: what an object has to hold;
  * `Value.restrict`, `Value.editorPart`: an object without the keys that do not matter;
  * `Value.editorPosition_eq_ok_iff`, `Value.editorRange_eq_ok_iff`: what is read from an object;
  * `EditorStep`: the steps of reading a range, one after the other;
  * `EditorStep.fault?`: what a step refuses;
  * `EditorStep.findSome?_ofEnd`, `EditorStep.findSome?_all`: the first step that refuses decides;
  * `editorRange_inverts_toEditor`: reading and giving back.
-/
import Caret.Proofs.Position.Difference
import Caret.Proofs.Range.Valid
import Caret.Value.Operations

namespace Caret

namespace Range

theorem valid_iff_numbers {u : ColumnUnit} {r : Range (RowColumn u)} :
    r.Valid ↔ r.start.row.val < r.stop.row.val ∨
      r.start.row.val = r.stop.row.val ∧ r.start.column.val ≤ r.stop.column.val := by
  constructor
  · intro hr
    exact RowColumn.order_ne_gt_iff.1 hr.order_ne_gt
  · intro h
    exact ⟨RowColumn.order_ne_gt_iff.2 h, rfl⟩

theorem of_rowColumn {u : ColumnUnit} (p q : RowColumn u) :
    of p q = if p.order q = .gt then .error (.inverted p.display q.display) else .ok ⟨p, q⟩ := by
  by_cases h : p.order q = .gt
  · have hlt : q.order p = .lt := by
      rw [← RowColumn.order_swap, h]
      rfl
    rw [if_pos h, of, PositionKind.test_eq]
    show (if (Comparison.lt.holds (q.order p)) = true then _ else _) = _
    rw [hlt]
    rfl
  · rw [if_neg h, of_eq_map (k := .rowColumn u) h]
    rfl

theorem test_eq_self {k : Kind} (r : Range k.Place) : r.test .eq r = .ok true := by
  have hstart : PositionKind.eq r.start r.start = .ok true := Kind.test_eq_self r.start
  have hstop : PositionKind.eq r.stop r.stop = .ok true := Kind.test_eq_self r.stop
  rw [test, hstart, hstop]
  rfl

end Range

/-! ## What an object has to hold -/

namespace Value

/-- An object with the row and the column of a position: integers within the limit. -/
structure IsEditorPosition (v : Value) (row column : Int) : Prop where
  /-- It is an object. -/
  isObject : ∃ entries, v = object entries
  /-- It has the row. -/
  line : v.entry "line" = .ok (int row)
  /-- It has the column. -/
  character : v.entry "character" = .ok (int column)
  /-- The row is one that positions have. -/
  row_mem : 0 ≤ row ∧ row ≤ Coordinate.limit
  /-- The column is one that positions have. -/
  column_mem : 0 ≤ column ∧ column ≤ Coordinate.limit

/-- An object with two such objects, in order. -/
structure IsEditorRange (v : Value) (row column row' column' : Int) : Prop where
  /-- It is an object. -/
  isObject : ∃ entries, v = object entries
  /-- It has the start. -/
  start : ∃ w, v.entry "start" = .ok w ∧ w.IsEditorPosition row column
  /-- It has the end. -/
  stop : ∃ w, v.entry "end" = .ok w ∧ w.IsEditorPosition row' column'
  /-- The end is not before the start. -/
  inOrder : row < row' ∨ row = row' ∧ column ≤ column'

/-- An object with the entries under some keys only, each of them changed by `f`. -/
def restrict (keys : List Text) (f : Value → Value) : Value → Value
  | object entries =>
    object (keys.filterMap fun key => (entries.lookup key).map fun w => (key, f w))
  | v => v

/-- What of an object the range is read from. -/
def editorPart (v : Value) : Value :=
  v.restrict ["start", "end"] (restrict ["line", "character"] id)

variable {v w x y : Value} {key key' : Text}

theorem entry_object_eq_ok_iff {entries : List (Text × Value)} :
    (object entries).entry key = .ok w ↔ entries.lookup key = some w := by
  rw [entry]
  cases entries.lookup key with
  | none => simp
  | some a => simp

/-- Classes answer for keys too, but with classes. -/
theorem entry_eq_ok (h : v.entry key = .ok w) :
    (∃ entries, v = object entries) ∨ ∃ c, w = cls c := by
  cases v with
  | object entries => exact .inl ⟨entries, rfl⟩
  | cls c =>
    cases c with
    | range => exact .inr ⟨_, (Except.ok.inj h).symm⟩
    | _ => cases h
  | _ => cases h

theorem restrict_pair {f : Value → Value} (hv : ∃ entries, v = object entries)
    (hx : v.entry key = .ok x) (hy : v.entry key' = .ok y) :
    v.restrict [key, key'] f = object [(key, f x), (key', f y)] := by
  obtain ⟨entries, rfl⟩ := hv
  simp [restrict, entry_object_eq_ok_iff.1 hx, entry_object_eq_ok_iff.1 hy]

/-! ## What is read -/

theorem field_eq_ok_iff {name : Text} {a : Coordinate} :
    field name v = .ok a ↔ v = int a.val := by
  cases v with
  | int n => rw [field, Coordinate.ofInt_eq_ok_iff, Value.int.injEq]
  | _ => simp [field]

theorem field_int (name : Text) {n : Int} (h : 0 ≤ n ∧ n ≤ Coordinate.limit) :
    ∃ a : Coordinate, field name (int n) = .ok a ∧ n = a.val := by
  have hn : n = n.toNat := (Int.toNat_of_nonneg h.1).symm
  exact ⟨⟨n.toNat, by omega⟩, field_eq_ok_iff.2 (congrArg int hn), hn⟩

theorem rowColumnOf_eq_ok_iff {u : ColumnUnit} {p : RowColumn u} :
    rowColumnOf u x y = .ok p ↔ x = int p.row.val ∧ y = int p.column.val := by
  simp only [rowColumnOf, Except.bind_eq_ok_iff, field_eq_ok_iff]
  constructor
  · rintro ⟨row, rfl, column, rfl, hp⟩
    cases hp
    exact ⟨rfl, rfl⟩
  · rintro ⟨rfl, rfl⟩
    exact ⟨p.row, rfl, p.column, rfl, rfl⟩

theorem editorPosition_eq_ok_iff {p : RowColumn .utf16} :
    v.editorPosition = .ok p ↔ v.IsEditorPosition p.row.val p.column.val := by
  simp only [editorPosition, Except.bind_eq_ok_iff, rowColumnOf_eq_ok_iff]
  have hrow := p.row.le_limit
  have hcolumn := p.column.le_limit
  constructor
  · rintro ⟨_, hline, _, hcharacter, rfl, rfl⟩
    rcases entry_eq_ok hline with hv | ⟨c, hc⟩
    · exact ⟨hv, hline, hcharacter, by omega, by omega⟩
    · cases hc
  · intro h
    exact ⟨_, h.line, _, h.character, rfl, rfl⟩

theorem IsEditorPosition.exists_eq {row column : Int} (h : v.IsEditorPosition row column) :
    ∃ p : RowColumn .utf16, v.editorPosition = .ok p ∧ row = p.row.val ∧ column = p.column.val := by
  obtain ⟨a, -, rfl⟩ := field_int "row" h.row_mem
  obtain ⟨b, -, rfl⟩ := field_int "column" h.column_mem
  exact ⟨⟨a, b⟩, editorPosition_eq_ok_iff.2 h, rfl, rfl⟩

theorem editorRange_eq_ok_iff {r : Range (RowColumn .utf16)} :
    v.editorRange = .ok r ↔
      v.IsEditorRange r.start.row.val r.start.column.val r.stop.row.val r.stop.column.val := by
  simp only [editorRange, ofExcept_eq, Except.bind_eq_ok_iff, editorPosition_eq_ok_iff]
  constructor
  · rintro ⟨x, hx, start, hstart, y, hy, stop, hstop, hr⟩
    obtain ⟨rfl, hvalid⟩ := (Range.of_eq_ok_iff (k := .rowColumn .utf16)).1 hr
    rw [Range.valid_iff_numbers] at hvalid
    refine ⟨?_, ⟨x, hx, hstart⟩, ⟨y, hy, hstop⟩, by omega⟩
    rcases entry_eq_ok hx with hv | ⟨c, rfl⟩
    · exact hv
    · obtain ⟨_, hc⟩ := hstart.isObject
      cases hc
  · intro h
    obtain ⟨x, hx, hstart⟩ := h.start
    obtain ⟨y, hy, hstop⟩ := h.stop
    have hvalid : r.Valid := by
      have := h.inOrder
      rw [Range.valid_iff_numbers]
      omega
    exact ⟨x, hx, r.start, hstart, y, hy, r.stop, hstop,
      (Range.of_eq_ok_iff (k := .rowColumn .utf16)).2 ⟨rfl, hvalid⟩⟩

/-- The position under a key. -/
def editorEnd (v : Value) (key : Text) : Except Fault (RowColumn .utf16) :=
  v.entry key >>= editorPosition

theorem editorRange_eq_bind (v : Value) :
    v.editorRange = (do
      let start ← v.editorEnd "start"
      let stop ← v.editorEnd "end"
      Range.of start stop) := by
  simp only [editorRange, editorEnd, ofExcept_eq, bind_assoc]

/-- What an object has to hold is enough. -/
theorem exists_editorRange_iff :
    (∃ r, v.editorRange = .ok r) ↔
      ∃ row column row' column', v.IsEditorRange row column row' column' := by
  constructor
  · rintro ⟨r, hr⟩
    exact ⟨_, _, _, _, editorRange_eq_ok_iff.1 hr⟩
  · rintro ⟨row, column, row', column', h⟩
    obtain ⟨_, -, hstart⟩ := h.start
    obtain ⟨_, -, hstop⟩ := h.stop
    obtain ⟨p, -, rfl, rfl⟩ := hstart.exists_eq
    obtain ⟨q, -, rfl, rfl⟩ := hstop.exists_eq
    exact ⟨⟨p, q⟩, editorRange_eq_ok_iff.2 h⟩

/-! ## What is given back -/

theorem IsEditorPosition.restrict_eq {p : RowColumn .utf16}
    (h : v.IsEditorPosition p.row.val p.column.val) :
    v.restrict ["line", "character"] id = ofEditorPosition p :=
  restrict_pair h.isObject h.line h.character

theorem IsEditorRange.editorPart_eq {r : Range (RowColumn .utf16)}
    (h : v.IsEditorRange r.start.row.val r.start.column.val r.stop.row.val r.stop.column.val) :
    v.editorPart = ofEditorRange r := by
  obtain ⟨x, hx, hstart⟩ := h.start
  obtain ⟨y, hy, hstop⟩ := h.stop
  rw [editorPart, restrict_pair h.isObject hx hy, hstart.restrict_eq, hstop.restrict_eq]
  rfl

theorem isEditorPosition_ofEditorPosition (p : RowColumn .utf16) :
    (ofEditorPosition p).IsEditorPosition p.row.val p.column.val := by
  have hrow := p.row.le_limit
  have hcolumn := p.column.le_limit
  exact ⟨⟨_, rfl⟩, rfl, rfl, by omega, by omega⟩

/-- What a range is given back as is read as the range. -/
theorem editorRange_ofEditorRange {r : Range (RowColumn .utf16)} (hr : r.Valid) :
    (ofEditorRange r).editorRange = .ok r := by
  rw [Range.valid_iff_numbers] at hr
  exact editorRange_eq_ok_iff.2 ⟨⟨_, rfl⟩, ⟨_, rfl, isEditorPosition_ofEditorPosition _⟩,
    ⟨_, rfl, isEditorPosition_ofEditorPosition _⟩, by omega⟩

/-- Only rows and columns in UTF-16 are given to editors. -/
theorem toEditor_range_of_ne {r : PositionRange} (h : r.kind ≠ .rowColumn .utf16) :
    (range r).toEditor = .error (.mismatch (.notUtf16 r.kindName)) := by
  obtain ⟨k, r⟩ := r
  cases k with
  | rowColumn u =>
    cases u with
    | utf8 => rfl
    | utf16 => exact absurd rfl h
  | _ => rfl

end Value

/-! ## What is refused first -/

/-- What a computation is refused for. -/
def refusal? {α : Type} : Except Fault α → Option Fault
  | .ok _ => none
  | .error f => some f

theorem refusal?_eq_some_iff {α : Type} {x : Except Fault α} {f : Fault} :
    refusal? x = some f ↔ x = .error f := by
  cases x with
  | ok a => simp [refusal?]
  | error g => simp [refusal?]

/-- What stands under keys inside each other. -/
def Value.at? (v : Value) (path : List Text) : Option Value :=
  path.foldlM (fun w key => (w.entry key).toOption) v

/-- A step of reading a range. -/
inductive EditorStep
  /-- To look up a key in what stands under others. -/
  | lookUp (path : List Text) (key : Text)
  /-- To take what stands under keys as the field of a given name. -/
  | check (path : List Text) (field : Text)
  /-- To compare the ends. -/
  | order

namespace EditorStep

open Value (at? entry field)

/-- What a step refuses, where it has what it looks at. -/
def fault? (v : Value) : EditorStep → Option Fault
  | lookUp path key => (v.at? path).bind fun w => refusal? (w.entry key)
  | check path name => (v.at? path).bind fun w => refusal? (field name w)
  | order =>
    match v.editorEnd "start", v.editorEnd "end" with
    | .ok start, .ok stop =>
      if start.order stop = .gt then some (.inverted start.display stop.display) else none
    | _, _ => none

/-- The steps that read one end. -/
def ofEnd (key : Text) : List EditorStep :=
  [lookUp [] key, lookUp [key] "line", lookUp [key] "character", check [key, "line"] "row",
    check [key, "character"] "column"]

/-- All steps, in their order. -/
def all : List EditorStep :=
  ofEnd "start" ++ ofEnd "end" ++ [order]

variable {v : Value}

theorem at?_cons {key : Text} {path : List Text} :
    v.at? (key :: path) = (v.entry key).toOption.bind (·.at? path) := by
  rw [at?, List.foldlM_cons]
  rfl

/-- Both keys are looked up before what stands there is checked. -/
theorem findSome?_ofEnd (key : Text) :
    (ofEnd key).findSome? (fault? v) = refusal? (v.editorEnd key) := by
  have hnil (w : Value) : w.at? [] = some w := rfl
  simp only [ofEnd, List.findSome?_cons, List.findSome?_nil, fault?, at?_cons, hnil,
    Option.bind_some, Value.editorEnd]
  cases v.entry key with
  | error f => rfl
  | ok w =>
    show _ = refusal? (w.editorPosition)
    simp only [Except.toOption, Option.bind_some, refusal?, Value.editorPosition]
    cases w.entry "line" with
    | error f => rfl
    | ok line =>
      cases w.entry "character" with
      | error f => rfl
      | ok character =>
        simp only [Option.bind_some]
        cases hrow : field "row" line with
        | error f => simp [bind, Except.bind, Value.rowColumnOf, hrow]
        | ok row =>
          cases hcolumn : field "column" character with
          | error f => simp [bind, Except.bind, Value.rowColumnOf, hrow, hcolumn]
          | ok column =>
            simp [bind, Except.bind, Value.rowColumnOf, hrow, hcolumn, pure, Except.pure]

/-- The ends are compared only when both are read. -/
theorem findSome?_all (v : Value) : all.findSome? (fault? v) = refusal? v.editorRange := by
  rw [all, List.findSome?_append, List.findSome?_append, findSome?_ofEnd, findSome?_ofEnd,
    v.editorRange_eq_bind, List.findSome?_singleton, fault?]
  cases v.editorEnd "start" with
  | error f => rfl
  | ok start =>
    cases v.editorEnd "end" with
    | error f => rfl
    | ok stop =>
      show _ = refusal? (Range.of start stop)
      rw [Range.of_rowColumn]
      by_cases h : start.order stop = .gt
      · simp [h, refusal?]
      · simp [h, refusal?]

theorem kind?_of_order {f : Fault} (h : order.fault? v = some f) :
    f.kind? = some .invalidRange := by
  rw [fault?] at h
  split at h
  · split at h
    · cases h
      rfl
    · cases h
  · cases h

end EditorStep

/-! ## Main statement -/

/-- **Reading and giving back.** Exactly the objects with both positions in order are read as a
    range, and what is given back for it is the object without its other keys. Anything else is
    refused for what the first step finds, in the order of the steps; that an end is before its
    start is found last. A range of rows and columns in UTF-16 is given to editors as an object that
    is read as the same range, and no other range is. -/
theorem editorRange_inverts_toEditor :
    (∀ v : Value,
      ((∃ r, v.editorRange = .ok r) ↔
        ∃ row column row' column', v.IsEditorRange row column row' column') ∧
      (∀ r, v.editorRange = .ok r →
        (Value.range ⟨.rowColumn .utf16, r⟩).toEditor = .ok v.editorPart) ∧
      (∀ f, v.editorRange = .error f ↔ EditorStep.all.findSome? (·.fault? v) = some f) ∧
      ∀ f, EditorStep.order.fault? v = some f → f.kind? = some .invalidRange) ∧
    (∀ r : Range (RowColumn .utf16), r.Valid →
      ∃ w s, (Value.range ⟨.rowColumn .utf16, r⟩).toEditor = .ok w ∧ w.editorRange = .ok s ∧
        s = r ∧ s.test .eq r = .ok true) ∧
    ∀ r : PositionRange, r.kind ≠ .rowColumn .utf16 →
      (Value.range r).toEditor = .error (.mismatch (.notUtf16 r.kindName)) := by
  refine ⟨fun v => ⟨v.exists_editorRange_iff, ?_, ?_, ?_⟩, ?_, fun r => Value.toEditor_range_of_ne⟩
  · intro r hr
    rw [(Value.editorRange_eq_ok_iff.1 hr).editorPart_eq]
    rfl
  · intro f
    rw [← refusal?_eq_some_iff]
    exact iff_of_eq (congrArg (· = some f) (EditorStep.findSome?_all v).symm)
  · exact fun f => EditorStep.kind?_of_order
  · intro r hr
    exact ⟨_, r, rfl, Value.editorRange_ofEditorRange hr, rfl,
      Range.test_eq_self (k := .rowColumn .utf16) r⟩

/-- Keys that do not matter, in an order that does not matter either. Of the same ends the other way
    round, only the order is wrong; and where nothing is right, the row of the start is missed
    first. -/
theorem editorRange_inverts_toEditor_at_objects :
    ∃ early late v inverted broken : Value,
      early = .object [("character", .int 5), ("line", .int 1), ("offset", .bool true)] ∧
      late = .object [("line", .int 2), ("character", .int 0)] ∧
      v = .object [("end", late), ("kind", .null), ("start", early)] ∧
      inverted = .object [("start", late), ("end", early)] ∧
      broken = .object [("start", .object [("character", .int (-1))])] ∧
      (∃ r w, v.editorRange = .ok r ∧ r.start.column.val = 5 ∧
        (Value.range ⟨.rowColumn .utf16, r⟩).toEditor = .ok (.object
          [("start", .object [("line", .int 1), ("character", .int 5)]),
            ("end", .object [("line", .int 2), ("character", .int 0)])]) ∧
        (Value.range ⟨.rowColumn .utf16, r⟩).toEditor = .ok w ∧ w.editorRange = .ok r) ∧
      inverted.editorRange = .error (.inverted "3:1" "2:6") ∧
      broken.editorRange = .error (.missingKey "line") ∧
      (Value.range ⟨.byteIndex, ⟨.zero, .zero⟩⟩).toEditor =
        .error (.mismatch (.notUtf16 "ByteIndex")) := by
  let early := Value.object [("character", .int 5), ("line", .int 1), ("offset", .bool true)]
  let late := Value.object [("line", .int 2), ("character", .int 0)]
  let v := Value.object [("end", late), ("kind", .null), ("start", early)]
  let inverted := Value.object [("start", late), ("end", early)]
  let broken := Value.object [("start", .object [("character", .int (-1))])]
  obtain ⟨hread, hgive, hother⟩ := editorRange_inverts_toEditor
  obtain ⟨hv, hpart, -, -⟩ := hread v
  obtain ⟨-, -, hinverted, -⟩ := hread inverted
  obtain ⟨-, -, hbroken, -⟩ := hread broken
  obtain ⟨r, hr⟩ := hv.2 ⟨1, 5, 2, 0, ⟨_, rfl⟩,
    ⟨early, rfl, ⟨_, rfl⟩, rfl, rfl, by decide, by decide⟩,
    ⟨late, rfl, ⟨_, rfl⟩, rfl, rfl, by decide, by decide⟩, by decide⟩
  have hback := hpart r hr
  cases hr
  let start : RowColumn .utf16 := ⟨⟨1, by decide⟩, ⟨5, by decide⟩⟩
  let stop : RowColumn .utf16 := ⟨⟨2, by decide⟩, ⟨0, by decide⟩⟩
  obtain ⟨w, _, hw, hs, rfl, -⟩ := hgive ⟨start, stop⟩ ⟨by decide, rfl⟩
  exact ⟨early, late, v, inverted, broken, rfl, rfl, rfl, rfl, rfl,
    ⟨_, w, rfl, rfl, hback, hw, hs⟩, (hinverted _).2 rfl, (hbroken _).2 rfl, hother _ nofun⟩

end Caret
