/-
  Positions and ranges from values, and the parts of values, without watching.

  * `partsOf_lenient`, `numbersOf_lenient`: composites are made of the same numbers;
  * `rangeOf_lenient`: ranges between values;
  * `editorPosition_lenient`, `editorRange_lenient`: what is read from the objects of editors;
  * `get_lenient`: attributes, except for the one that tells whether a composite is watched.
-/
import Caret.Proofs.Watching.Values
import Caret.Value.Building

namespace Caret.Value

/-! ## Positions -/

@[simp]
theorem field_unwatched (name : Text) (v : Value) : field name v.unwatched = field name v := by
  cases v <;> rfl

@[simp]
theorem byteIndexOf_unwatched (v : Value) : v.unwatched.byteIndexOf = v.byteIndexOf := by
  rw [byteIndexOf, byteIndexOf, field_unwatched]

@[simp]
theorem rowColumnOf_unwatched (u : ColumnUnit) (row column : Value) :
    rowColumnOf u row.unwatched column.unwatched = rowColumnOf u row column := by
  rw [rowColumnOf, rowColumnOf, field_unwatched, field_unwatched]

theorem partOf_lenient (name : Text) (k : Kind) (v : Value) :
    Lenient Unwatchable.unwatched (partOf name k v.unwatched) (partOf name k v) := by
  cases v with
  | position p =>
    rw [unwatched, partOf, partOf, Position.as?_unwatched]
    cases p.as? k with
    | some place => exact .ok Unwatchable.unwatched place
    | none => exact .error _ _
  | _ => exact .error _ _

/-- The parts of a composite are not watched themselves, and the whole is not yet. -/
theorem partsOf_lenient (index utf8 utf16 : Value) :
    Lenient Composite.unwatched (partsOf index.unwatched utf8.unwatched utf16.unwatched)
      (partsOf index utf8 utf16) := by
  refine .bind (partOf_lenient "index" .byteIndex index) fun index => ?_
  refine .bind (partOf_lenient "utf8" (.rowColumn .utf8) utf8) fun utf8 => ?_
  refine .bind (partOf_lenient "utf16" (.rowColumn .utf16) utf16) fun utf16 => ?_
  exact .ok Composite.unwatched ⟨index, utf8, utf16, false⟩

theorem numbersOf_lenient (index row column8 column16 : Value) :
    Lenient Composite.unwatched
      (numbersOf index.unwatched row.unwatched column8.unwatched column16.unwatched)
      (numbersOf index row column8 column16) := by
  rw [numbersOf, numbersOf, byteIndexOf_unwatched, rowColumnOf_unwatched, rowColumnOf_unwatched]
  refine .next (.refl _) fun index => .next (.refl _) fun utf8 => .next (.refl _) fun utf16 => ?_
  exact .ok Composite.unwatched ⟨index, utf8, utf16, false⟩

@[simp]
theorem choiceOf_unwatched (v : Value) : v.unwatched.choiceOf = v.choiceOf := by
  cases v <;> rfl

theorem choiceOf_eq_some_iff {v : Value} {checked : Bool} :
    v.choiceOf = .ok (some checked) ↔ v = bool checked := by
  constructor
  · intro h
    cases v with
    | bool b => rw [Option.some.inj (Except.ok.inj h)]
    | _ => cases h
  · rintro rfl
    rfl

/-! ## Ranges -/

@[simp]
theorem isPosition_unwatched (v : Value) : v.unwatched.isPosition = v.isPosition := by
  cases v with
  | cls c => cases c <;> rfl
  | _ => rfl

theorem rangeOf_lenient (start stop : Value) :
    Lenient PositionRange.unwatched (rangeOf start.unwatched stop.unwatched)
      (rangeOf start stop) := by
  cases start with
  | position p =>
    cases stop with
    | position q => exact PositionRange.of_lenient p q
    | _ => exact .ite (.error _ _) (.ite (.error _ _) (.error _ _))
  | _ =>
    simp only [unwatched, rangeOf, kindName_unwatched]
    exact .ite (.error _ _) (.ite (.error _ _) (.error _ _))

theorem zeroRange_lenient (v : Value) :
    Lenient PositionRange.unwatched v.unwatched.zeroRange v.zeroRange := by
  cases v with
  | cls c =>
    cases c with
    | kind k => exact PositionRange.zero_lenient k
    | _ => exact .error _ _
  | _ => exact .error _ _

theorem rangeUpTo_lenient (v : Value) :
    Lenient PositionRange.unwatched v.unwatched.rangeUpTo v.rangeUpTo := by
  cases v with
  | position p => exact PositionRange.upTo_lenient p
  | _ => exact .error _ _

/-! ## Entries and attributes -/

@[simp]
theorem lacks_unwatched (v : Value) (name : Text) : v.unwatched.lacks name = v.lacks name := by
  cases v <;> rfl

theorem entry_lenient (v : Value) (key : Text) :
    Lenient unwatched (v.unwatched.entry key) (v.entry key) := by
  cases v with
  | object entries =>
    rw [unwatched, entry, entry, lookup_unwatchedEntries]
    cases entries.lookup key with
    | some a => exact .ok unwatched a
    | none => exact .error _ _
  | cls c =>
    cases c with
    | range => exact .ok unwatched (cls (.rangeOf key))
    | _ => exact .error _ _
  | _ => exact .error _ _

theorem editorPosition_lenient (v : Value) :
    Lenient id v.unwatched.editorPosition v.editorPosition := by
  refine .bind (v.entry_lenient "line") fun line => ?_
  refine .bind (v.entry_lenient "character") fun character => ?_
  rw [rowColumnOf_unwatched]
  exact .refl _

theorem editorRange_lenient (v : Value) :
    Lenient id v.unwatched.editorRange v.editorRange := by
  refine .bind (v.entry_lenient "start") fun start => ?_
  refine .next start.editorPosition_lenient fun start => ?_
  refine .bind (v.entry_lenient "end") fun stop => ?_
  exact .next stop.editorPosition_lenient fun stop => .refl _

theorem lookup_append_cons_of_ne {name key : Text} (h : name ≠ key) (a : Value)
    (front back : List (Text × Value)) :
    (front ++ (key, a) :: back).lookup name = (front ++ back).lookup name := by
  rw [List.lookup_append, List.lookup_append, List.lookup_cons, beq_false_of_ne h]

theorem loggerAttributes_unwatched (log : Log) (name : Text) :
    unwatchedEntries (loggerAttributes log name) = loggerAttributes log name := by
  have hhandlers : ∀ formats : List LineFormat,
      unwatchedItems (formats.map fun f => text f.written) =
        formats.map fun f => text f.written := by
    intro formats
    rw [unwatchedItems_eq_map, List.map_map]
    rfl
  have hlevel : ∀ l : Level, (ofLevel l).unwatched = ofLevel l := by
    intro l
    cases l <;> rfl
  have hparent : (((log.parent? name).map logger).getD null).unwatched =
      ((log.parent? name).map logger).getD null := by
    cases log.parent? name <;> rfl
  simp only [loggerAttributes, unwatchedEntries, unwatched, hhandlers, hlevel, hparent]
  rfl

/-- The attributes of a value without watching, apart from the one that tells of it. -/
theorem lookup_attributes_unwatched {o : Objects} (ho : o.reports = []) (v : Value) {name : Text}
    (hname : name ≠ "checked") :
    (v.unwatched.attributes o).lookup name = ((v.attributes o).lookup name).map unwatched := by
  rw [← lookup_unwatchedEntries]
  cases v with
  | position p =>
    obtain ⟨k, p⟩ := p
    cases k with
    | byteIndex => rfl
    | rowColumn u => rfl
    | composite =>
      -- only the attribute between `front` and `back` is not the same
      let front : List (Text × Value) := [origin .composite,
        ("index", position ⟨.byteIndex, p.index⟩), ("utf8", position ⟨.rowColumn .utf8, p.utf8⟩),
        ("utf16", position ⟨.rowColumn .utf16, p.utf16⟩)]
      let back : List (Text × Value) := ("row", ofCoordinate p.utf8.row) ::
        ("column8", ofCoordinate p.utf8.column) :: ("column16", ofCoordinate p.utf16.column) ::
        declaredBy (.kind .composite)
      exact (lookup_append_cons_of_ne hname (bool false) front back).trans
        (lookup_append_cons_of_ne hname (bool p.checked) front back).symm
  | report mark kind =>
    -- there are no error objects, so that one of any mark says nothing
    have hcontents : o.contents mark = ⟨.null, .null, []⟩ := by
      rw [Objects.contents, ho]
      rfl
    rw [unwatched, attributes, hcontents]
    rfl
  | logger name' => rw [unwatched, attributes, loggerAttributes_unwatched]
  | cls c =>
    cases c with
    | kind k => cases k <;> rfl
    | _ => rfl
  | _ => rfl

theorem get_lenient {o : Objects} (ho : o.reports = []) (v : Value) {name : Text}
    (hname : name ≠ "checked") :
    Lenient unwatched (v.unwatched.get o name) (v.get o name) := by
  rw [get, get, lookup_attributes_unwatched ho v hname, lacks_unwatched]
  cases (v.attributes o).lookup name with
  | some a => exact .ok unwatched a
  | none => exact .error _ _

end Caret.Value
