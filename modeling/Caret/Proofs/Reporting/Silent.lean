/-
  What is not about whole positions finds no disagreement of measures.

  * `Coordinate.silent_ofInt`, `RowColumn.silent_add`, …: numbers that do not fit are refused as
    such;
  * `Text.silent_endPosition`: so are texts that have no end;
  * `Value.silent_numbersOf`, `Value.silent_rangeWith`, …: values of the wrong kind are refused for
    their kind;
  * `Value.silent_written`, `Value.silent_display`: so are numbers with too many digits, and what
    has no end;
  * `Settings.silent_load`: words that make no sense are refused as such.
-/
import Caret.Measure
import Caret.Proofs.Session
import Caret.Script.Run

namespace Caret

/-! ## Numbers in words -/

theorem silent_ofWritten (t : Option Text) : Silent (ofWritten t) := by
  cases t with
  | none => exact .error rfl
  | some t => exact .ok t

theorem Silent.showing {α : Type} {f : Fault} (h : Silent (.error f : Except Fault α)) (n : Int) :
    Silent (.error (f.showing n) : Except Fault α) := by
  unfold Fault.showing
  split
  · exact h
  · exact .error rfl

/-! ## Positions -/

namespace Coordinate

theorem silent_ofInt (field : Text) (n : Int) : Silent (ofInt field n) := by
  unfold ofInt
  split
  · refine .showing ?_ n
    exact .error rfl
  split
  · exact .ok _
  · refine .showing ?_ n
    exact .error rfl

theorem silent_ofLength (field : Text) (n : Nat) : Silent (ofLength field n) := by
  unfold ofLength
  split
  · exact .ok _
  · exact .error rfl

theorem silent_add (field : Text) (a b : Coordinate) : Silent (add field a b) := by
  unfold add
  split
  · exact .ok _
  · exact .error rfl

end Coordinate

theorem ByteIndex.silent_ofInt (n : Int) : Silent (ofInt n) :=
  (Coordinate.silent_ofInt "index" n).map _

theorem ByteIndex.silent_ofLength (n : Nat) : Silent (ofLength n) :=
  (Coordinate.silent_ofLength "index" n).map _

theorem ByteIndex.silent_add (a b : ByteIndex) : Silent (a.add b) :=
  (Coordinate.silent_add "index" a.index b.index).map _

theorem RowColumn.silent_ofInts {u : ColumnUnit} (row column : Int) :
    Silent (ofInts row column : Except Fault (RowColumn u)) :=
  (Coordinate.silent_ofInt "row" row).bind fun _ =>
    (Coordinate.silent_ofInt "column" column).bind fun _ => .ok _

theorem RowColumn.silent_add {u : ColumnUnit} (a b : RowColumn u) : Silent (a.add b) :=
  .ite ((Coordinate.silent_add "column" a.column b.column).map _)
    ((Coordinate.silent_add "row" a.row b.row).map _)

theorem Text.silent_utf8Length (t : Text) : Silent t.utf8Length := by
  unfold utf8Length
  split
  · exact .ok _
  · exact .error rfl

theorem Text.silent_endPosition (t : Text) : Silent t.endPosition :=
  t.lastLine.silent_utf8Length.bind fun _ => t.silent_utf8Length.bind fun bytes =>
    (ByteIndex.silent_ofLength bytes).bind fun _ => (RowColumn.silent_ofInts _ _).bind fun _ =>
      (RowColumn.silent_ofInts _ _).bind fun _ => .ok _

/-! ## Numbers, settings and variables -/

namespace Number

theorem silent_toFloat (x : Number) : Silent x.toFloat := by
  cases x with
  | float x => exact .ok x
  | int n =>
    rw [toFloat]
    split
    · exact .error rfl
    · exact .ok _

theorem silent_sum (x y : Number) : Silent (x.sum y) := by
  have hfloats : Silent (do return float (sumFloats (← x.toFloat) (← y.toFloat))) :=
    x.silent_toFloat.bind fun _ => y.silent_toFloat.bind fun _ => .ok _
  cases x with
  | float x => exact hfloats
  | int m =>
    cases y with
    | float y => exact hfloats
    | int n => exact .ok _

theorem silent_truncate (x : Number) : Silent x.truncate := by
  cases x with
  | int n => exact .ok n
  | float x =>
    cases x with
    | infinite negative => exact .error rfl
    | notANumber => exact .error rfl
    | finite negative significand exponent => exact .ok _

end Number

theorem Settings.silent_load (env : Environment) : Silent (load env) := by
  have hflag (setting word : Text) : Silent (readFlag setting word) :=
    .ite (.ok _) (.ite (.ok _) (.error rfl))
  have hlevel (setting word : Text) : Silent (readLevel setting word) := by
    unfold readLevel
    split
    · exact .ok _
    · exact .error rfl
  exact (hflag _ _).bind fun _ => (hlevel _ _).bind fun _ => .ok _

theorem Environment.silent_kept (t : Text) : Silent (kept t) := by
  unfold kept
  split
  · exact .ok _
  · exact .error rfl

theorem Environment.silent_set (env : Environment) (name value : Text) :
    Silent (env.set name value) :=
  .ite (.error rfl) (.ite (.error rfl) (.ite (.error rfl) (.ok _)))

theorem Corpus.silent_texts (seed count maxAtoms : Int) : Silent (texts seed count maxAtoms) := by
  refine .ite (.ok _) (.ite (.showing ?_ _) (.ok _))
  exact .error rfl

theorem silent_answered (past : List (Option Value)) (step : Int) :
    Silent (answered past step) := by
  unfold answered
  split
  · exact .ok _
  · exact .error rfl

/-! ## Values -/

namespace Value

variable (o : Objects) (v w : Value) (name : Text)

/-- To lack something is no disagreement. -/
theorem isViolation_lacks : (v.lacks name).isViolation = false := by
  unfold lacks
  split
  · split <;> rfl
  · rfl

theorem silent_get : Silent (v.get o name) := by
  unfold get
  split
  · exact .ok _
  · exact .error (v.isViolation_lacks name)

theorem silent_assign : Silent (v.assign o name w) := by
  have hfrozen : Silent (if v.frozenFields.contains name then .error (.frozen name)
      else .error (.mismatch .notAField) : Except Fault Objects) :=
    .ite (.error rfl) (.error rfl)
  cases v with
  | report mark kind => exact .ite (.ok _) (.ite (.ok _) (.ok _))
  | logger _ => exact .ok o
  | position _ | range _ | config _ _ _ => exact hfrozen
  | _ => exact .error (isViolation_lacks _ name)

theorem silent_entry : Silent (v.entry name) := by
  cases v with
  | object entries =>
    rw [entry]
    split
    · exact .ok _
    · exact .error rfl
  | cls c =>
    cases c with
    | range => exact .ok _
    | _ => exact .error rfl
  | _ => exact .error rfl

/-! ### Parts of positions -/

theorem silent_field : Silent (field name v) := by
  cases v with
  | int n => exact Coordinate.silent_ofInt name n
  | _ => exact .error rfl

theorem silent_byteIndexOf : Silent v.byteIndexOf :=
  (v.silent_field "index").map _

theorem silent_rowColumnOf (u : ColumnUnit) : Silent (rowColumnOf u v w) :=
  (v.silent_field "row").bind fun _ => (w.silent_field "column").bind fun _ => .ok _

theorem silent_partOf (k : Kind) : Silent (partOf name k v) := by
  cases v with
  | position p =>
    rw [partOf]
    split
    · exact .ok _
    · exact .error rfl
  | _ => exact .error rfl

theorem silent_partsOf (index utf8 utf16 : Value) : Silent (partsOf index utf8 utf16) :=
  (index.silent_partOf "index" _).bind fun _ => (utf8.silent_partOf "utf8" _).bind fun _ =>
    (utf16.silent_partOf "utf16" _).bind fun _ => .ok _

theorem silent_numbersOf (index row column8 column16 : Value) :
    Silent (numbersOf index row column8 column16) :=
  index.silent_byteIndexOf.bind fun _ => (row.silent_rowColumnOf column8 _).bind fun _ =>
    (row.silent_rowColumnOf column16 _).bind fun _ => .ok _

theorem silent_choiceOf : Silent v.choiceOf := by
  cases v with
  | null | bool _ => exact .ok _
  | _ => exact .error rfl

theorem silent_editorPosition : Silent v.editorPosition :=
  (v.silent_entry "line").bind fun line => (v.silent_entry "character").bind fun character =>
    line.silent_rowColumnOf character _

/-! ### Values of one kind -/

theorem silent_compositeWith : Silent (v.compositeWith name) := by
  unfold compositeWith
  split
  · exact .ok _
  · exact .error (v.isViolation_lacks name)

theorem silent_rangeWith : Silent (v.rangeWith name) := by
  unfold rangeWith
  split
  · exact .ok _
  · exact .error (v.isViolation_lacks name)

theorem silent_rangeToCompare (apart : Text → Mismatch) : Silent (v.rangeToCompare apart) := by
  unfold rangeToCompare
  split
  · exact .ok _
  · split
    · exact .error rfl
    · exact .error (isViolation_lacks _ _)
  · exact .error (isViolation_lacks _ _)

theorem silent_requireSameKind : Silent (v.requireSameKind w) :=
  .ite (.ok _) (.error rfl)

theorem silent_asTuple : Silent v.asTuple := by
  unfold asTuple
  split
  · exact .ok _
  · exact .error (isViolation_lacks _ _)

theorem silent_gnuRowColumn : Silent v.gnuRowColumn := by
  unfold gnuRowColumn
  split
  · exact .ok _
  · exact .ok _
  · exact .error (isViolation_lacks _ _)

theorem silent_toEditor : Silent v.toEditor := by
  unfold toEditor
  split
  · exact .ok _
  · exact .ok _
  · exact .error rfl
  · exact .error (isViolation_lacks _ _)

theorem silent_toInt : Silent v.toInt := by
  unfold toInt
  split
  · exact .ok _
  · split
    · exact .error rfl
    · exact .ok _
    · exact .error rfl
  · split
    · exact (Number.silent_truncate _).map _
    · exact .error rfl

theorem silent_items? : Silent v.items? := by
  cases v with
  | list _ _ | tuple _ | text _ | object _ => exact .ok _
  | _ => exact .error rfl

theorem silent_distinct : Silent v.distinct := by
  refine v.silent_items?.bind fun items => ?_
  split
  · exact .error rfl
  · exact .ok _

/-! ### Plain data -/

theorem silent_asText : Silent v.asText := by
  cases v with
  | text t => exact .ok t
  | _ => exact .error rfl

theorem silent_asInteger : Silent v.asInteger := by
  unfold asInteger
  split
  · exact .ok _
  · exact .error rfl

theorem silent_asName : Silent v.asName := by
  cases v with
  | text t => exact .ok t
  | _ => exact .error rfl

theorem silent_measurable : Silent v.measurable := by
  unfold measurable
  split
  · exact .ok _
  · exact .error (isViolation_lacks _ _)
  · exact .error (isViolation_lacks _ _)
  · exact .error rfl
  · exact .error (isViolation_lacks _ _)

theorem silent_asSeverity : Silent v.asSeverity := by
  refine v.silent_asText.bind fun name => ?_
  split
  · exact .ok _
  · exact .error rfl

mutual

theorem silent_writtenWithin {log : Log} {report : ReportWriter}
    (h : ∀ inside mark kind, Silent (report inside mark kind)) (inside : List Nat) :
    (v : Value) → Silent (writtenWithin log report inside v)
  | .null | .bool true | .bool false => .ok _
  | .int n => silent_ofWritten (Text.signed? n)
  | .float _ _ => .ok _
  | .text _ | .cls _ => .ok _
  | .list _ items => .ite (.ok _) ((silent_writtenItems h _ items).bind fun _ => .ok _)
  | .tuple [item] => (silent_writtenWithin h inside item).bind fun _ => .ok _
  | .tuple [] => .ok _
  | .tuple (item :: item' :: rest) =>
    (silent_writtenItems h inside (item :: item' :: rest)).bind fun _ => .ok _
  | .object entries => (silent_writtenEntries h inside entries).bind fun _ => .ok _
  | .position _ => .ok _
  | .range _ => .ok _
  | .config _ checked level =>
    .ite (.ok _) ((silent_writtenWithin h _ checked).bind fun _ =>
      (silent_writtenWithin h _ level).bind fun _ => .ok _)
  | .report mark kind => h inside mark kind
  | .logger name => silent_ofWritten (log.logger name).written?

theorem silent_writtenItems {log : Log} {report : ReportWriter}
    (h : ∀ inside mark kind, Silent (report inside mark kind)) (inside : List Nat) :
    (items : List Value) → Silent (writtenItems log report inside items)
  | [] => .ok _
  | item :: rest =>
    (silent_writtenWithin h inside item).bind fun _ =>
      (silent_writtenItems h inside rest).bind fun _ => .ok _

theorem silent_writtenEntries {log : Log} {report : ReportWriter}
    (h : ∀ inside mark kind, Silent (report inside mark kind)) (inside : List Nat) :
    (entries : List (Text × Value)) → Silent (writtenEntries log report inside entries)
  | [] => .ok _
  | (_, item) :: rest =>
    (silent_writtenWithin h inside item).bind fun _ =>
      (silent_writtenEntries h inside rest).bind fun _ => .ok _

end

theorem silent_writtenReport (depth : Nat) (inside : List Nat) (mark : Nat) (kind : ReportKind) :
    Silent (writtenReport o depth inside mark kind) := by
  induction depth generalizing inside mark kind with
  | zero => exact .ok _
  | succ depth ih =>
    exact .ite (.ok _) ((silent_writtenWithin ih _ _).bind fun _ =>
      (silent_writtenWithin ih _ _).bind fun _ => .ok _)

theorem silent_written : Silent (v.written o) :=
  silent_writtenWithin (silent_writtenReport o o.reports.length) [] v

theorem silent_displayWith {report : Nat → Except Fault Text} (h : ∀ mark, Silent (report mark)) :
    Silent (displayWith o report v) := by
  unfold displayWith
  split
  · exact .ok _
  · exact .ok _
  · exact .ok _
  · exact h _
  · exact silent_written o _

theorem silent_displayReport (depth mark : Nat) : Silent (displayReport o depth mark) := by
  induction depth generalizing mark with
  | zero => exact .error rfl
  | succ depth ih =>
    refine .ite ?_ ?_
    · exact (silent_displayWith o _ ih).bind fun _ => (silent_displayWith o _ ih).bind fun _ =>
        .ok _
    · split
      · exact .ok _
      · exact .error rfl

theorem silent_display : Silent (v.display o) :=
  v.silent_displayWith o (silent_displayReport o o.reports.length)

theorem silent_namedField : Silent (v.namedField o w) := by
  unfold namedField
  split
  · exact .ok _
  · exact (v.silent_display o).bind fun name => w.silent_field name

theorem silent_asLevel : Silent (v.asLevel o) := by
  unfold asLevel
  split
  · exact .ok _
  · exact .ok _
  · split
    · exact .ok _
    · exact .error rfl
  · exact (silent_display o _).bind fun _ => (silent_written o _).bind fun _ => .error rfl

end Value

end Caret
