/-
  Positions and ranges that are no longer watched.

  * `Unwatchable`: kinds of position whose positions can be had unwatched, which changes neither
    their order nor their wording, and makes what they are asked lenient;
  * `PositionKind.test_lenient`: the comparisons of such positions;
  * `Range.unwatched`, `Range.of_lenient`, …: ranges of them, and what they are asked.
-/
import Caret.Position.Any
import Caret.Proofs.Position.Arithmetic
import Caret.Proofs.Watching.Lenient

namespace Caret

open PositionKind

/-- A kind of position with a way to have its positions unwatched. -/
class Unwatchable (P : Type) [PositionKind P] where
  /-- The same position, not watched. -/
  unwatched : P → P
  /-- The origin is not watched anyway. -/
  zero_unwatched : unwatched zero = zero
  /-- The order does not depend on it. -/
  order_unwatched (a b : P) : order (unwatched a) (unwatched b) = order a b
  /-- Comparing is refused for nothing but disagreement. -/
  comparable_unwatched (a b : P) :
    Lenient id (comparable (unwatched a) (unwatched b)) (comparable a b)
  /-- Sums have the same numbers, and are refused for the same numbers. -/
  add_unwatched (a b : P) : Lenient unwatched (add (unwatched a) (unwatched b)) (add a b)
  /-- Differences have the same numbers. -/
  saturatingSub_unwatched (a b : P) :
    Lenient unwatched (saturatingSub (unwatched a) (unwatched b)) (saturatingSub a b)
  /-- The short form does not tell. -/
  display_unwatched (a : P) : display (unwatched a) = display a
  /-- The full form does not tell. -/
  written_unwatched (a : P) : written (unwatched a) = written a
  /-- Row and column are the same. -/
  rowColumn?_unwatched (a : P) : rowColumn? (unwatched a) = rowColumn? a

export Unwatchable (unwatched)

attribute [simp] Unwatchable.zero_unwatched Unwatchable.order_unwatched
  Unwatchable.display_unwatched Unwatchable.written_unwatched Unwatchable.rowColumn?_unwatched

/-! ## The kinds of position -/

instance : Unwatchable ByteIndex where
  unwatched := id
  zero_unwatched := rfl
  order_unwatched _ _ := rfl
  comparable_unwatched _ _ := .refl _
  add_unwatched _ _ := .refl _
  saturatingSub_unwatched _ _ := .refl _
  display_unwatched _ := rfl
  written_unwatched _ := rfl
  rowColumn?_unwatched _ := rfl

instance (u : ColumnUnit) : Unwatchable (RowColumn u) where
  unwatched := id
  zero_unwatched := rfl
  order_unwatched _ _ := rfl
  comparable_unwatched _ _ := .refl _
  add_unwatched _ _ := .refl _
  saturatingSub_unwatched _ _ := .refl _
  display_unwatched _ := rfl
  written_unwatched _ := rfl
  rowColumn?_unwatched _ := rfl

namespace Composite

/-- The same place, not watched. -/
def unwatched (c : Composite) : Composite :=
  { c with checked := false }

/-- Whether a composite is watched decides nothing but whether it is refused. -/
theorem of_lenient (index : ByteIndex) (utf8 : RowColumn .utf8) (utf16 : RowColumn .utf16)
    (checked : Bool) :
    Lenient unwatched (of index utf8 utf16 false) (of index utf8 utf16 checked) := by
  cases h : of index utf8 utf16 checked with
  | ok c =>
    obtain ⟨rfl, -⟩ := of_eq_ok_iff.1 h
    exact .ok unwatched ⟨index, utf8, utf16, checked⟩
  | error f =>
    obtain ⟨-, v, -, rfl⟩ := of_eq_error_iff.1 h
    exact .violation v

theorem withChecked_lenient (c : Composite) (checked : Bool) :
    Lenient unwatched (c.unwatched.withChecked false) (c.withChecked checked) :=
  of_lenient c.index c.utf8 c.utf16 checked

theorem checkComparable_lenient (a b : Composite) :
    Lenient id (checkComparable a.unwatched b.unwatched) (checkComparable a b) := by
  by_cases h : OrderedAlike a b
  · rw [checkComparable, checkComparable, if_pos h, if_pos (by exact h)]
    exact .ok id ()
  · rw [checkComparable.eq_def a b, if_neg h]
    exact .violation _

theorem comparable_lenient (a b : Composite) :
    Lenient id (comparable a.unwatched b.unwatched) (comparable a b) := by
  have hfree : comparable a.unwatched b.unwatched = .ok () := rfl
  rw [hfree, comparable, checkComparable]
  split
  · split
    · exact .ok id ()
    · exact .violation _
  · exact .ok id ()

/-- Overflows come before watching, so that they are reported all the same. -/
theorem add_lenient (a b : Composite) :
    Lenient unwatched (a.unwatched.add b.unwatched) (a.add b) := by
  refine .next (.refl _) fun index => .next (.refl _) fun utf8 => .next (.refl _) fun utf16 => ?_
  exact of_lenient index utf8 utf16 _

theorem saturatingSub_lenient (a b : Composite) :
    Lenient unwatched (a.unwatched.saturatingSub b.unwatched) (a.saturatingSub b) := by
  refine .next (comparable_lenient a b) fun _ => ?_
  exact of_lenient _ _ _ _

end Composite

instance : Unwatchable Composite where
  unwatched := Composite.unwatched
  zero_unwatched := rfl
  order_unwatched _ _ := rfl
  comparable_unwatched := Composite.comparable_lenient
  add_unwatched := Composite.add_lenient
  saturatingSub_unwatched := Composite.saturatingSub_lenient
  display_unwatched _ := rfl
  written_unwatched _ := rfl
  rowColumn?_unwatched _ := rfl

instance : (k : Kind) → Unwatchable k.Place
  | .byteIndex => inferInstanceAs (Unwatchable ByteIndex)
  | .rowColumn u => inferInstanceAs (Unwatchable (RowColumn u))
  | .composite => inferInstanceAs (Unwatchable Composite)

/-! ## Comparisons -/

section

variable {P : Type} [PositionKind P] [Unwatchable P]

theorem PositionKind.test_lenient (c : Comparison) (a b : P) :
    Lenient id (test c (unwatched a) (unwatched b)) (test c a b) := by
  rw [test_eq, test_eq, Unwatchable.order_unwatched]
  exact (Unwatchable.comparable_unwatched a b).map fun _ => rfl

theorem PositionKind.eq_lenient (a b : P) :
    Lenient id (PositionKind.eq (unwatched a) (unwatched b)) (PositionKind.eq a b) :=
  test_lenient .eq a b

end

/-! ## Ranges of one kind -/

namespace Range

variable {P : Type} [PositionKind P] [Unwatchable P]

/-- The same range, not watched. -/
def unwatched (r : Range P) : Range P :=
  ⟨Unwatchable.unwatched r.start, Unwatchable.unwatched r.stop⟩

theorem of_lenient (a b : P) :
    Lenient unwatched (of (Unwatchable.unwatched a) (Unwatchable.unwatched b)) (of a b) := by
  refine .next (test_lenient .lt b a) fun less => ?_
  cases less with
  | true =>
    rw [Unwatchable.display_unwatched, Unwatchable.display_unwatched]
    exact .error _ _
  | false => exact .ok unwatched ⟨a, b⟩

theorem upTo_lenient (p : P) :
    Lenient unwatched (upTo (Unwatchable.unwatched p)) (upTo p) := by
  have h := of_lenient zero p
  rwa [Unwatchable.zero_unwatched] at h

theorem contains_lenient (r : Range P) (p : P) :
    Lenient id (r.unwatched.contains (Unwatchable.unwatched p)) (r.contains p) := by
  refine .next (test_lenient .le r.start p) fun le => ?_
  cases le with
  | true => exact test_lenient .lt p r.stop
  | false => exact .ok id false

theorem containsInclusive_lenient (r : Range P) (p : P) :
    Lenient id (r.unwatched.containsInclusive (Unwatchable.unwatched p))
      (r.containsInclusive p) := by
  refine .next (test_lenient .le r.start p) fun le => ?_
  cases le with
  | true => exact test_lenient .le p r.stop
  | false => exact .ok id false

theorem covers_lenient (r s : Range P) :
    Lenient id (r.unwatched.covers s.unwatched) (r.covers s) := by
  refine .next (test_lenient .le r.start s.start) fun le => ?_
  cases le with
  | true => exact test_lenient .le s.stop r.stop
  | false => exact .ok id false

theorem isEmpty_lenient (r : Range P) : Lenient id r.unwatched.isEmpty r.isEmpty :=
  test_lenient .eq r.start r.stop

theorem overlaps_lenient (r s : Range P) :
    Lenient id (r.unwatched.overlaps s.unwatched) (r.overlaps s) := by
  refine .next r.isEmpty_lenient fun empty => ?_
  cases empty with
  | true => exact .ok id false
  | false =>
    refine .next s.isEmpty_lenient fun empty => ?_
    cases empty with
    | true => exact .ok id false
    | false =>
      refine .next (test_lenient .lt r.start s.stop) fun less => ?_
      cases less with
      | true => exact test_lenient .lt s.start r.stop
      | false => exact .ok id false

theorem later_lenient (a b : P) :
    Lenient Unwatchable.unwatched (later (Unwatchable.unwatched a) (Unwatchable.unwatched b))
      (later a b) := by
  refine .next (test_lenient .gt b a) fun greater => ?_
  cases greater with
  | true => exact .ok _ b
  | false => exact .ok _ a

theorem earlier_lenient (a b : P) :
    Lenient Unwatchable.unwatched (earlier (Unwatchable.unwatched a) (Unwatchable.unwatched b))
      (earlier a b) := by
  refine .next (test_lenient .lt b a) fun less => ?_
  cases less with
  | true => exact .ok _ b
  | false => exact .ok _ a

theorem intersect_lenient (r s : Range P) :
    Lenient (Option.map unwatched) (r.unwatched.intersect s.unwatched) (r.intersect s) := by
  refine .bind (later_lenient r.start s.start) fun start => ?_
  refine .bind (earlier_lenient r.stop s.stop) fun stop => ?_
  refine .next (test_lenient .lt stop start) fun less => ?_
  cases less with
  | true => exact .ok (Option.map unwatched) none
  | false => exact .bind (of_lenient start stop) fun t => .ok (Option.map unwatched) (some t)

theorem cover_lenient (r s : Range P) :
    Lenient unwatched (r.unwatched.cover s.unwatched) (r.cover s) := by
  refine .bind (earlier_lenient r.start s.start) fun start => ?_
  refine .bind (later_lenient r.stop s.stop) fun stop => ?_
  exact of_lenient start stop

theorem coverPosition_lenient (r : Range P) (p : P) :
    Lenient unwatched (r.unwatched.coverPosition (Unwatchable.unwatched p)) (r.coverPosition p) :=
  .bind (of_lenient p p) fun s => r.cover_lenient s

theorem test_lenient (c : Comparison) (r s : Range P) :
    Lenient id (r.unwatched.test c s.unwatched) (r.test c s) := by
  refine .next (eq_lenient r.start s.start) fun same => ?_
  cases same with
  | false => exact PositionKind.test_lenient c r.start s.start
  | true =>
    refine .next (eq_lenient r.stop s.stop) fun same => ?_
    cases same with
    | true => exact .ok id (c.holds .eq)
    | false => exact PositionKind.test_lenient c r.stop s.stop

@[simp]
theorem display_unwatched (r : Range P) : r.unwatched.display = r.display := by
  simp only [display, unwatched, Unwatchable.rowColumn?_unwatched, Unwatchable.display_unwatched]

@[simp]
theorem written_unwatched (r : Range P) : r.unwatched.written = r.written := by
  simp only [written, unwatched, Unwatchable.written_unwatched]

end Range

end Caret
