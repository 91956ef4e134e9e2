/-
  Operations of values report where they find a disagreement.

  * `Value.lift_same`, `Value.lift_ordered`, `Value.lift_test`: the comparisons of values, which ask
    positions and ranges inside of them;
  * `Value.lift_greatest`, `Value.lift_least`, `Value.lift_sort`: what is chosen by them;
  * `Value.lift_sum`, `Value.lift_overlaps`, …: operations asked of a value;
  * `Unary.lift_apply`, `Binary.lift_apply`: all of them.
-/
import Caret.Proofs.Reporting.Positions
import Caret.Proofs.Sorting.Agreement
import Caret.Script.Operation

namespace Caret

open Session

namespace Value

/-! ## Whether values are the same -/

variable {reports : ReportComparer (Except Fault)} {reports' : ReportComparer SessionM}

mutual

theorem lift_sameWith (h : ∀ i j, lift (reports i j) = reports' i j) :
    (a b : Value) → lift (sameWith reports a b) = sameWith reports' a b
  -- values of two kinds, and values without parts, are compared without asking positions
  | null, b | bool _, b | int _, b | float _ _, b | text _, b | cls _, b | logger _, b => by
    cases b <;> rfl
  | list _ as, b => by
    cases b with
    | list _ bs => rw [sameWith, sameWith, lift_ite, lift_sameItems h as bs, lift_pure]
    | _ => rfl
  | tuple as, b => by
    cases b with
    | tuple bs => exact lift_sameItems h as bs
    | _ => rfl
  | object as, b => by
    cases b with
    | object bs => rw [sameWith, sameWith, lift_ite, lift_sameEntries h as bs, lift_pure]
    | _ => rfl
  | position p, b => by
    cases b with
    | position q => exact p.lift_test q .eq
    | _ => rfl
  | range r, b => by
    cases b with
    | range s => exact r.lift_test s .eq
    | _ => rfl
  | config _ a l, b => by
    cases b with
    | config _ b m =>
      simp only [sameWith, lift_bind, lift_ite, lift_sameWith h a b, lift_sameWith h l m, lift_pure]
    | _ => rfl
  | .report i k, b => by
    cases b with
    | report j k' => rw [sameWith, sameWith, lift_ite, h, lift_pure]
    | _ => rfl

theorem lift_sameItems (h : ∀ i j, lift (reports i j) = reports' i j) :
    (as bs : List Value) → lift (sameItems reports as bs) = sameItems reports' as bs
  | [], [] | [], _ :: _ | _ :: _, [] => rfl
  | a :: as, b :: bs => by
    simp only [sameItems, lift_bind, lift_ite, lift_sameWith h a b, lift_sameItems h as bs,
      lift_pure]

theorem lift_sameEntries (h : ∀ i j, lift (reports i j) = reports' i j) :
    (as bs : List (Text × Value)) →
      lift (sameEntries reports as bs) = sameEntries reports' as bs
  | [], _ => rfl
  | (key, a) :: rest, bs => by
    rw [sameEntries, sameEntries]
    cases bs.lookup key with
    | none => rfl
    | some b =>
      simp only [lift_bind, lift_ite, lift_sameWith h a b, lift_sameEntries h rest bs, lift_pure]

end

theorem lift_sameReports (o : Objects) (depth i j : Nat) :
    lift (sameReports o depth i j) = sameReports o depth i j := by
  induction depth generalizing i j with
  | zero => exact lift_refuse rfl
  | succ depth ih => exact lift_sameItems ih _ _

variable (o : Objects) (a b v w : Value) (items : List Value)

theorem lift_same : lift (same o a b) = same o a b SessionM :=
  lift_sameWith (lift_sameReports o _) a b

/-! ## Which value is less -/

mutual

theorem lift_ordered (c : Comparison) : (a b : Value) → lift (ordered o c a b) = ordered o c a b
  | null, b | bool _, b | int _, b | float _ _, b | text _, b | cls _, b | logger _, b
  | .report _ _, b | object _, b | config _ _ _, b => by
    cases b <;> rfl
  | list _ as, b => by
    cases b with
    | list _ bs => exact lift_orderedItems c as bs
    | _ => rfl
  | tuple as, b => by
    cases b with
    | tuple bs => exact lift_orderedItems c as bs
    | _ => rfl
  | position p, b => by
    cases b with
    | position q => exact p.lift_test q c
    | _ => rfl
  | range r, b => by
    cases b with
    | range s => exact r.lift_test s c
    | _ => rfl

theorem lift_orderedItems (c : Comparison) :
    (as bs : List Value) → lift (orderedItems o c as bs) = orderedItems o c as bs
  | [], _ | _ :: _, [] => rfl
  | a :: as, b :: bs => by
    simp only [orderedItems, lift_bind, lift_ite, lift_same, lift_orderedItems c as bs,
      lift_ordered c a b, lift_pure]

end

theorem lift_test (c : Comparison) : lift (test o c a b) = test o c a b SessionM := by
  cases c with
  | eq => exact lift_same o a b
  | ne => simp only [test, lift_bind, lift_same, lift_pure]
  | _ => exact lift_ordered o _ a b

/-! ## Choosing among items -/

theorem lift_best (c : Comparison) : lift (best o c a items) = best o c a items := by
  induction items generalizing a with
  | nil => rfl
  | cons b rest ih => simp only [best, lift_bind, lift_ite, lift_test, ih]

theorem lift_greatest : lift (v.greatest o) = v.greatest o SessionM := by
  refine lift_bind_congr (lift_ofExcept v.silent_items?) fun items => ?_
  cases items with
  | nil => exact lift_refuse rfl
  | cons a rest => exact lift_best o a rest .gt

theorem lift_least : lift (v.least o) = v.least o SessionM := by
  refine lift_bind_congr (lift_ofExcept v.silent_items?) fun items => ?_
  cases items with
  | nil => exact lift_refuse rfl
  | cons a rest => exact lift_best o a rest .lt

theorem lift_lessAt (items : Array Value) (i j : Nat) :
    lift (lessAt o items i j) = lessAt o items i j := by
  unfold lessAt
  split
  · exact lift_test o _ _ .lt
  · rfl

/-- What is compared, and in which order, does not depend on who listens. -/
def lifting : Agreement (Except Fault) SessionM where
  Rel x y := lift x = y
  pure := lift_pure
  bind := lift_bind_congr

theorem lift_sorted : lift (sorted o items) = sorted o items SessionM := by
  simp only [sorted, lift_bind, lift_pure]
  rw [show lift (Sorting.sort _ _) = _ from Sorting.sort_agrees lifting (lift_lessAt o _) _]

theorem lift_sort : lift (v.sort o) = v.sort o SessionM := by
  simp only [sort, lift_bind, lift_ofExcept v.silent_items?, lift_sorted, lift_pure]

/-! ## Sums -/

theorem lift_sum : lift (a.sum b) = a.sum b SessionM := by
  unfold sum
  split
  · rw [lift_map, Position.lift_sum]
  · rfl
  · rfl
  · rfl
  · split
    · exact lift_ofExcept ((Number.silent_sum _ _).map _)
    · exact lift_mismatch _
    · exact lift_mismatch _
    · exact lift_mismatch _
    · exact lift_mismatch _

theorem lift_fieldSum (name : Value) :
    lift (name.fieldSum o a b) = name.fieldSum o a b SessionM := by
  have hsum : Silent (do
      throw (.sumTooLarge (← name.display o) (← a.display o) (← b.display o)) :
      Except Fault Value) :=
    (name.silent_display o).bind fun _ => (a.silent_display o).bind fun _ =>
      (b.silent_display o).bind fun _ => .error rfl
  refine lift_bind_congr (lift_sum a b) fun total => ?_
  split
  · exact lift_mismatch _
  · rw [lift_ite, lift_ofExcept hsum, lift_pure]

theorem lift_drawBound : lift v.drawBound = v.drawBound SessionM := by
  refine lift_bind_congr (lift_sum v (int 1)) fun bound => ?_
  split
  · exact lift_mismatch _
  · rename_i x _
    have hfraction : lift (refuse (.badValue .fractionalDraw)) =
        (refuse (.badValue .fractionalDraw) : SessionM Int) := rfl
    simp only [lift_bind, lift_ofExcept x.silent_truncate, lift_ite, lift_pure, hfraction]

/-! ## Asked of a position -/

theorem lift_add : lift (a.add b) = a.add b SessionM := by
  unfold add
  split
  · rw [lift_map, Position.lift_add]
  · exact lift_mismatch _
  · exact lift_refuse (isViolation_lacks _ _)

theorem lift_saturatingSub : lift (a.saturatingSub b) = a.saturatingSub b SessionM := by
  unfold saturatingSub
  split
  · rw [lift_map, Position.lift_saturatingSub]
  · exact lift_mismatch _
  · exact lift_refuse (isViolation_lacks _ _)

theorem lift_checkConsistency : lift v.checkConsistency = v.checkConsistency SessionM := by
  simp only [checkConsistency, lift_bind, lift_ofExcept (v.silent_compositeWith _),
    Composite.lift_checkConsistency]

theorem lift_checkComparable : lift (a.checkComparable b) = a.checkComparable b SessionM := by
  refine lift_bind_congr (lift_ofExcept (a.silent_compositeWith _)) fun p => ?_
  split
  · exact p.lift_checkComparable _
  · exact lift_mismatch _
  · exact lift_mismatch _
  · exact lift_mismatch _
  · exact lift_mismatch _
  · split
    · exact lift_mismatch _
    · exact lift_refuse (isViolation_lacks _ _)
  · exact lift_refuse (isViolation_lacks _ _)

/-! ## Making ranges -/

theorem lift_rangeOf : lift (rangeOf v w) = rangeOf v w SessionM := by
  unfold rangeOf
  split
  · exact PositionRange.lift_of _ _
  · simp only [lift_ite, lift_mismatch]

theorem lift_zeroRange : lift v.zeroRange = v.zeroRange SessionM := by
  unfold zeroRange
  split
  · exact PositionRange.lift_zero _
  · exact lift_mismatch _
  · exact lift_mismatch _

theorem lift_rangeUpTo : lift v.rangeUpTo = v.rangeUpTo SessionM := by
  cases v with
  | position p => exact PositionRange.lift_upTo p
  | _ => exact lift_refuse rfl

theorem lift_editorRange : lift v.editorRange = v.editorRange SessionM := by
  simp only [editorRange, lift_bind, lift_ofExcept (silent_entry _ _),
    lift_ofExcept (silent_editorPosition _), Range.lift_of (k := .rowColumn .utf16)]

/-! ## Asked of a range -/

theorem lift_len : lift v.len = v.len SessionM := by
  simp only [len, lift_bind, lift_ofExcept (v.silent_rangeWith _), PositionRange.lift_len,
    lift_pure]

theorem lift_isEmpty : lift v.isEmpty = v.isEmpty SessionM := by
  simp only [isEmpty, lift_bind, lift_ofExcept (v.silent_rangeWith _), PositionRange.lift_isEmpty]

theorem lift_startPoint : lift v.startPoint = v.startPoint SessionM := by
  simp only [startPoint, lift_bind, lift_ofExcept (v.silent_rangeWith _),
    PositionRange.lift_startPoint, lift_pure]

theorem lift_endPoint : lift v.endPoint = v.endPoint SessionM := by
  simp only [endPoint, lift_bind, lift_ofExcept (v.silent_rangeWith _),
    PositionRange.lift_endPoint, lift_pure]

theorem lift_contains : lift (a.contains b) = a.contains b SessionM := by
  refine lift_bind_congr (lift_ofExcept (a.silent_rangeWith _)) fun r => ?_
  cases b with
  | position p => exact r.lift_contains p
  | _ => exact lift_mismatch _

theorem lift_containsInclusive : lift (a.containsInclusive b) = a.containsInclusive b SessionM := by
  refine lift_bind_congr (lift_ofExcept (a.silent_rangeWith _)) fun r => ?_
  cases b with
  | position p => exact r.lift_containsInclusive p
  | _ => exact lift_mismatch _

theorem lift_covers : lift (a.covers b) = a.covers b SessionM := by
  simp only [covers, lift_bind, lift_ofExcept (a.silent_rangeWith _),
    lift_ofExcept (silent_rangeToCompare _ _), PositionRange.lift_covers]

theorem lift_overlaps : lift (a.overlaps b) = a.overlaps b SessionM := by
  simp only [overlaps, lift_bind, lift_ite, lift_ofExcept (silent_rangeWith _ _),
    PositionRange.lift_isEmpty, PositionRange.lift_overlaps, lift_pure]

theorem lift_intersect : lift (a.intersect b) = a.intersect b SessionM := by
  simp only [intersect, lift_bind, lift_ofExcept (a.silent_rangeWith _),
    lift_ofExcept (silent_rangeToCompare _ _), PositionRange.lift_intersect, lift_pure]

theorem lift_cover : lift (a.cover b) = a.cover b SessionM := by
  simp only [cover, lift_bind, lift_ofExcept (a.silent_rangeWith _),
    lift_ofExcept (silent_rangeToCompare _ _), PositionRange.lift_cover, lift_pure]

theorem lift_coverPosition : lift (a.coverPosition b) = a.coverPosition b SessionM := by
  refine lift_bind_congr (lift_ofExcept (a.silent_rangeWith _)) fun r => ?_
  split
  · simp only [lift_bind, PositionRange.lift_coverPosition, lift_pure]
  · simp only [lift_bind, lift_rangeOf, PositionRange.lift_cover, lift_pure]

end Value

/-! ## All operations -/

/-- **Operations on one value.** -/
theorem Unary.lift_apply (o : Objects) (op : Unary) (v : Value) :
    lift (op.apply o v) = op.apply o v SessionM := by
  cases op with
  | value | isPosition => rfl
  | display => simp only [apply, lift_bind, lift_ofExcept (v.silent_display o), lift_pure]
  | written => simp only [apply, lift_bind, lift_ofExcept (v.silent_written o), lift_pure]
  | toInt => exact lift_ofExcept v.silent_toInt
  | greatest => exact v.lift_greatest o
  | least => exact v.lift_least o
  | sort => exact v.lift_sort o
  | distinct => exact lift_ofExcept v.silent_distinct
  | zero => exact lift_ofExcept (v.silent_get o _)
  | byteIndex => simp only [apply, lift_bind, lift_ofExcept v.silent_byteIndexOf, lift_pure]
  | editorPosition =>
    simp only [apply, lift_bind, lift_ofExcept v.silent_editorPosition, lift_pure]
  | editorRange => simp only [apply, lift_bind, Value.lift_editorRange, lift_pure]
  | toEditor => exact lift_ofExcept v.silent_toEditor
  | zeroRange => simp only [apply, lift_bind, Value.lift_zeroRange, lift_pure]
  | emptyRange => simp only [apply, lift_bind, Value.lift_rangeOf, lift_pure]
  | rangeUpTo => simp only [apply, lift_bind, Value.lift_rangeUpTo, lift_pure]
  | asTuple => exact lift_ofExcept v.silent_asTuple
  | gnuRowColumn => exact lift_ofExcept v.silent_gnuRowColumn
  | checkConsistency => rw [apply, lift_map, Value.lift_checkConsistency, apply]
  | len => exact v.lift_len
  | isEmpty => simp only [apply, lift_bind, Value.lift_isEmpty, lift_pure]
  | startPoint => exact v.lift_startPoint
  | endPoint => exact v.lift_endPoint

/-- **Operations on two values.** -/
theorem Binary.lift_apply (o : Objects) (op : Binary) (v w : Value) :
    lift (op.apply o v w) = op.apply o v w SessionM := by
  cases op with
  | isError => rfl
  | sum => exact v.lift_sum w
  | test c => simp only [apply, lift_bind, Value.lift_test, lift_pure]
  | get => exact lift_ofExcept (w.silent_asName.bind fun name => v.silent_get o name)
  | field => simp only [apply, lift_bind, lift_ofExcept (v.silent_namedField o w), lift_pure]
  | requireSameKind => exact lift_ofExcept ((v.silent_requireSameKind w).map _)
  | add => exact v.lift_add w
  | saturatingSub => exact v.lift_saturatingSub w
  | checkComparable => rw [apply, lift_map, Value.lift_checkComparable, apply]
  | contains => simp only [apply, lift_bind, Value.lift_contains, lift_pure]
  | containsInclusive => simp only [apply, lift_bind, Value.lift_containsInclusive, lift_pure]
  | covers => simp only [apply, lift_bind, Value.lift_covers, lift_pure]
  | overlaps => simp only [apply, lift_bind, Value.lift_overlaps, lift_pure]
  | intersect => exact v.lift_intersect w
  | cover => exact v.lift_cover w
  | coverPosition => exact v.lift_coverPosition w

end Caret
