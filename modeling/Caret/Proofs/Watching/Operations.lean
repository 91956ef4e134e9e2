/-
  The operations of requests on values, without watching.

  * `sum_lenient`, …, `coverPosition_lenient`: the operations of positions and ranges on values;
  * `Unary.apply_lenient`, `Binary.apply_lenient`: what a request applies to values.
-/
import Caret.Proofs.Watching.Building
import Caret.Proofs.Watching.Comparing
import Caret.Script.Operation

namespace Caret

namespace Value

/-! ## Sums -/

theorem ofNumber_lenient (x : Except Fault Number) :
    Lenient unwatched (x.map ofNumber) (x.map ofNumber) :=
  (Lenient.refl x).map fun n => by cases n <;> rfl

theorem unwatchedItems_append (as bs : List Value) :
    unwatchedItems (as ++ bs) = unwatchedItems as ++ unwatchedItems bs := by
  rw [unwatchedItems_eq_map, unwatchedItems_eq_map, unwatchedItems_eq_map, List.map_append]

theorem sum_lenient (a b : Value) : Lenient unwatched (a.unwatched.sum b.unwatched) (a.sum b) := by
  cases a with
  | position p =>
    cases b with
    | position q => exact (p.sum_lenient q).map fun _ => rfl
    | _ => exact .error _ _
  | text a =>
    cases b with
    | text b => exact .ok unwatched (text (a ++ b))
    | _ => exact .error _ _
  | list mark as =>
    cases b with
    | list mark bs =>
      rw [unwatched, unwatched, sum, sum, ← unwatchedItems_append]
      exact .ok unwatched (list none (as ++ bs))
    | _ => exact .error _ _
  | tuple as =>
    cases b with
    | tuple bs =>
      rw [unwatched, unwatched, sum, sum, ← unwatchedItems_append]
      exact .ok unwatched (tuple (as ++ bs))
    | _ => exact .error _ _
  | bool a =>
    cases b with
    | bool b => exact ofNumber_lenient (Number.sum (.int a.toInt) (.int b.toInt))
    | int n => exact ofNumber_lenient (Number.sum (.int a.toInt) (.int n))
    | float mark y => exact ofNumber_lenient (Number.sum (.int a.toInt) (.float y))
    | _ => exact .error _ _
  | int m =>
    cases b with
    | bool b => exact ofNumber_lenient (Number.sum (.int m) (.int b.toInt))
    | int n => exact ofNumber_lenient (Number.sum (.int m) (.int n))
    | float mark y => exact ofNumber_lenient (Number.sum (.int m) (.float y))
    | _ => exact .error _ _
  | float mark x =>
    cases b with
    | bool b => exact ofNumber_lenient (Number.sum (.float x) (.int b.toInt))
    | int n => exact ofNumber_lenient (Number.sum (.float x) (.int n))
    | float mark y => exact ofNumber_lenient (Number.sum (.float x) (.float y))
    | _ => exact .error _ _
  | _ => cases b <;> exact .error _ _

theorem fieldSum_lenient (o : Objects) (name a b : Value) :
    Lenient unwatched (name.unwatched.fieldSum o a.unwatched b.unwatched)
      (name.fieldSum o a b) := by
  refine .bind (sum_lenient a b) fun total => ?_
  rw [number?_unwatched, kindName_unwatched, display_unwatched, display_unwatched,
    display_unwatched]
  cases total.number? with
  | none => exact .error _ _
  | some n =>
    refine .ite ?_ (.ok unwatched total)
    exact .next (.refl _) fun _ => .next (.refl _) fun _ => .next (.refl _) fun _ => .error _ _

@[simp]
theorem namedField_unwatched (o : Objects) (name v : Value) :
    namedField o name.unwatched v.unwatched = namedField o name v := by
  rw [namedField, namedField, field_unwatched, display_unwatched]
  cases field [] v with
  | ok a => rfl
  | error f => cases name.display o with
    | error f => rfl
    | ok name => exact field_unwatched name v

@[simp]
theorem requireSameKind_unwatched (a b : Value) :
    a.unwatched.requireSameKind b.unwatched = a.requireSameKind b := by
  rw [requireSameKind, requireSameKind, kindName_unwatched, kindName_unwatched]

theorem toInt_lenient (v : Value) : Lenient unwatched v.unwatched.toInt v.toInt := by
  cases v with
  | position p =>
    obtain ⟨k, p⟩ := p
    cases k with
    | byteIndex => exact .ok unwatched (ofCoordinate p.index)
    | _ => exact .error _ _
  | text t =>
    rw [unwatched, toInt]
    cases t.excess? with
    | some digits => exact .error _ _
    | none =>
      cases t.integer? with
      | some n => exact .ok unwatched (int n)
      | none => exact .error _ _
  | bool b => exact .ok unwatched (int b.toInt)
  | int n => exact .ok unwatched (int n)
  | float mark x => exact (Lenient.refl (Number.truncate (.float x))).map fun _ => rfl
  | _ => exact .error _ _

/-! ## Asked of a position -/

theorem add_lenient (a b : Value) : Lenient unwatched (a.unwatched.add b.unwatched) (a.add b) := by
  cases a with
  | position p =>
    cases b with
    | position q => exact (p.add_lenient q).map fun _ => rfl
    | _ => exact .error _ _
  | _ => exact .error _ _

theorem saturatingSub_lenient (a b : Value) :
    Lenient unwatched (a.unwatched.saturatingSub b.unwatched) (a.saturatingSub b) := by
  cases a with
  | position p =>
    cases b with
    | position q => exact (p.saturatingSub_lenient q).map fun _ => rfl
    | _ => exact .error _ _
  | _ => exact .error _ _

theorem asTuple_lenient (v : Value) : Lenient unwatched v.unwatched.asTuple v.asTuple := by
  cases v with
  | position p =>
    obtain ⟨k, p⟩ := p
    cases k with
    | rowColumn u => exact .ok unwatched (tuple [ofCoordinate p.row, ofCoordinate p.column])
    | _ => exact .error _ _
  | _ => exact .error _ _

theorem gnuRowColumn_lenient (v : Value) :
    Lenient unwatched v.unwatched.gnuRowColumn v.gnuRowColumn := by
  cases v with
  | position p =>
    obtain ⟨k, p⟩ := p
    cases k with
    | rowColumn u => exact .ok unwatched (tuple [ofCoordinate p.row, ofCoordinate p.column])
    | composite =>
      exact .ok unwatched (tuple [ofCoordinate p.utf8.row, ofCoordinate p.utf8.column])
    | byteIndex => exact .error _ _
  | _ => exact .error _ _

theorem compositeWith_lenient (name : Text) (v : Value) :
    Lenient Composite.unwatched (v.unwatched.compositeWith name) (v.compositeWith name) := by
  cases v with
  | position p =>
    obtain ⟨k, p⟩ := p
    cases k with
    | composite => exact .ok Composite.unwatched p
    | _ => exact .error _ _
  | _ => exact .error _ _

/-- A composite is asked to be consistent whether it is watched or not. -/
theorem checkConsistency_lenient (v : Value) :
    Lenient id v.unwatched.checkConsistency v.checkConsistency :=
  .bind (compositeWith_lenient "check_consistency" v) fun _ => .refl _

theorem checkComparable_lenient (a b : Value) :
    Lenient id (a.unwatched.checkComparable b.unwatched) (a.checkComparable b) := by
  refine .bind (compositeWith_lenient "check_comparable" a) fun p => ?_
  cases b with
  | position q =>
    obtain ⟨k, q⟩ := q
    cases k with
    | composite => exact p.checkComparable_lenient q
    | _ => exact .error _ _
  | cls c => exact .refl _
  | _ => exact .error _ _

theorem toEditor_lenient (v : Value) : Lenient unwatched v.unwatched.toEditor v.toEditor := by
  cases v with
  | position p =>
    obtain ⟨k, p⟩ := p
    cases k with
    | rowColumn u =>
      cases u with
      | utf8 => exact .error _ _
      | utf16 => exact .ok unwatched (ofEditorPosition p)
    | _ => exact .error _ _
  | range r =>
    obtain ⟨k, r⟩ := r
    cases k with
    | rowColumn u =>
      cases u with
      | utf8 => exact .error _ _
      | utf16 => exact .ok unwatched (ofEditorRange r)
    | _ => exact .error _ _
  | _ => exact .error _ _

/-! ## Asked of a range -/

theorem rangeWith_lenient (name : Text) (v : Value) :
    Lenient PositionRange.unwatched (v.unwatched.rangeWith name) (v.rangeWith name) := by
  cases v with
  | range r => exact .ok PositionRange.unwatched r
  | _ => exact .error _ _

theorem rangeToCompare_lenient (v : Value) (apart : Text → Mismatch) :
    Lenient PositionRange.unwatched (v.unwatched.rangeToCompare apart)
      (v.rangeToCompare apart) := by
  cases v with
  | range r => exact .ok PositionRange.unwatched r
  | cls c =>
    rw [unwatched, rangeToCompare]
    cases c.memberKind? "start" <;> exact .error _ _
  | _ => exact .error _ _

theorem len_lenient (v : Value) : Lenient unwatched v.unwatched.len v.len :=
  .bind (rangeWith_lenient "len" v) fun r => .bind r.len_lenient fun p => .ok unwatched (position p)

theorem isEmpty_lenient (v : Value) : Lenient id v.unwatched.isEmpty v.isEmpty :=
  .bind (rangeWith_lenient "is_empty" v) fun r => r.isEmpty_lenient

theorem startPoint_lenient (v : Value) : Lenient unwatched v.unwatched.startPoint v.startPoint :=
  .bind (rangeWith_lenient "start_point" v) fun r =>
    .bind r.startPoint_lenient fun s => .ok unwatched (range s)

theorem endPoint_lenient (v : Value) : Lenient unwatched v.unwatched.endPoint v.endPoint :=
  .bind (rangeWith_lenient "end_point" v) fun r =>
    .bind r.endPoint_lenient fun s => .ok unwatched (range s)

theorem contains_lenient (a b : Value) :
    Lenient id (a.unwatched.contains b.unwatched) (a.contains b) := by
  refine .bind (rangeWith_lenient "contains" a) fun r => ?_
  cases b with
  | position p => exact r.contains_lenient p
  | _ => exact .error _ _

theorem containsInclusive_lenient (a b : Value) :
    Lenient id (a.unwatched.containsInclusive b.unwatched) (a.containsInclusive b) := by
  refine .bind (rangeWith_lenient "contains_inclusive" a) fun r => ?_
  cases b with
  | position p => exact r.containsInclusive_lenient p
  | _ => exact .error _ _

theorem covers_lenient (a b : Value) :
    Lenient id (a.unwatched.covers b.unwatched) (a.covers b) :=
  .bind (rangeWith_lenient "covers" a) fun r =>
    .bind (rangeToCompare_lenient b (.unordered .le r.kindName ·)) fun s => r.covers_lenient s

theorem overlaps_lenient (a b : Value) :
    Lenient id (a.unwatched.overlaps b.unwatched) (a.overlaps b) := by
  refine .bind (rangeWith_lenient "overlaps" a) fun r => ?_
  refine .next r.isEmpty_lenient fun empty => .ite (.ok id false) ?_
  exact .bind (rangeWith_lenient "is_empty" b) fun s => r.overlaps_lenient s

theorem intersect_lenient (a b : Value) :
    Lenient unwatched (a.unwatched.intersect b.unwatched) (a.intersect b) := by
  refine .bind (rangeWith_lenient "intersect" a) fun r => ?_
  refine .bind (rangeToCompare_lenient b (.unordered .gt · r.kindName)) fun s => ?_
  refine .bind (r.intersect_lenient s) fun t => ?_
  cases t with
  | none => exact .ok unwatched null
  | some t => exact .ok unwatched (range t)

theorem cover_lenient (a b : Value) :
    Lenient unwatched (a.unwatched.cover b.unwatched) (a.cover b) :=
  .bind (rangeWith_lenient "cover" a) fun r =>
    .bind (rangeToCompare_lenient b (.unordered .lt · r.kindName)) fun s =>
      .bind (r.cover_lenient s) fun t => .ok unwatched (range t)

theorem coverPosition_lenient (a b : Value) :
    Lenient unwatched (a.unwatched.coverPosition b.unwatched) (a.coverPosition b) := by
  refine .bind (rangeWith_lenient "cover_position" a) fun r => ?_
  cases b with
  | position p => exact .bind (r.coverPosition_lenient p) fun t => .ok unwatched (range t)
  | _ =>
    exact .bind (rangeOf_lenient _ _) fun s =>
      .bind (r.cover_lenient s) fun t => .ok unwatched (range t)

@[simp]
theorem isError_unwatched (a b : Value) : a.unwatched.isError b.unwatched = a.isError b := by
  cases a with
  | report mark kind => cases b <;> rfl
  | _ => rfl

end Value

/-! ## Requests -/

open Value

theorem Unary.apply_lenient {o : Objects} (ho : o.reports = []) (op : Unary) (v : Value) :
    Lenient Value.unwatched (op.apply o v.unwatched) (op.apply o v) := by
  cases op with
  | value => exact .ok Value.unwatched v
  | display =>
    rw [apply, apply, display_unwatched]
    exact .bind (.refl _) fun t => .ok Value.unwatched (.text t)
  | written =>
    rw [apply, apply, written_unwatched]
    exact .bind (.refl _) fun t => .ok Value.unwatched (.text t)
  | toInt => exact toInt_lenient v
  | greatest => exact greatest_lenient o v
  | least => exact least_lenient o v
  | sort => exact sort_lenient o v
  | distinct => exact distinct_lenient v
  | isPosition =>
    rw [apply, apply, isPosition_unwatched]
    exact .ok Value.unwatched (.bool _)
  | zero => exact get_lenient ho v (by decide)
  | byteIndex =>
    rw [apply, apply, byteIndexOf_unwatched]
    exact .next (.refl _) fun p => .ok Value.unwatched (.position ⟨.byteIndex, p⟩)
  | editorPosition =>
    exact .next v.editorPosition_lenient fun p =>
      .ok Value.unwatched (.position ⟨.rowColumn .utf16, p⟩)
  | editorRange =>
    exact .next v.editorRange_lenient fun r => .ok Value.unwatched (.range ⟨.rowColumn .utf16, r⟩)
  | toEditor => exact toEditor_lenient v
  | zeroRange => exact .bind v.zeroRange_lenient fun r => .ok Value.unwatched (.range r)
  | emptyRange => exact .bind (v.rangeOf_lenient v) fun r => .ok Value.unwatched (.range r)
  | rangeUpTo => exact .bind v.rangeUpTo_lenient fun r => .ok Value.unwatched (.range r)
  | asTuple => exact asTuple_lenient v
  | gnuRowColumn => exact gnuRowColumn_lenient v
  | checkConsistency => exact v.checkConsistency_lenient.map fun _ => rfl
  | len => exact len_lenient v
  | isEmpty => exact .next v.isEmpty_lenient fun b => .ok Value.unwatched (.bool b)
  | startPoint => exact startPoint_lenient v
  | endPoint => exact endPoint_lenient v

/-- Only the attributes of values tell whether composites are watched. -/
theorem Binary.apply_lenient (o : Objects) {op : Binary} (hop : op ≠ .get) (v w : Value) :
    Lenient Value.unwatched (op.apply o v.unwatched w.unwatched) (op.apply o v w) := by
  have hbool {x y : Except Fault Bool} (h : Lenient id x y) :
      Lenient Value.unwatched (do return .bool (← x)) (do return .bool (← y)) :=
    .next h fun b => .ok Value.unwatched (.bool b)
  cases op with
  | get => exact absurd rfl hop
  | sum => exact sum_lenient v w
  | test c => exact hbool (Value.test_lenient o c v w)
  | field =>
    rw [apply, apply, namedField_unwatched]
    exact .next (.refl _) fun a => .ok Value.unwatched (ofCoordinate a)
  | requireSameKind =>
    rw [apply, apply, requireSameKind_unwatched]
    exact (Lenient.refl _).map fun _ => rfl
  | add => exact add_lenient v w
  | saturatingSub => exact saturatingSub_lenient v w
  | checkComparable => exact (checkComparable_lenient v w).map fun _ => rfl
  | contains => exact hbool (contains_lenient v w)
  | containsInclusive => exact hbool (containsInclusive_lenient v w)
  | covers => exact hbool (covers_lenient v w)
  | overlaps => exact hbool (overlaps_lenient v w)
  | intersect => exact intersect_lenient v w
  | cover => exact cover_lenient v w
  | coverPosition => exact coverPosition_lenient v w
  | isError =>
    rw [apply, apply, isError_unwatched]
    exact .ok Value.unwatched (.bool _)

end Caret
