/-
  Positions and ranges of any kind that are no longer watched.

  * `Position.unwatched`, `PositionRange.unwatched`: the same position or range, not watched;
  * `as?_unwatched`: the kind stays, so that what is refused for a kind is refused all the same;
  * `…_lenient`: each operation without watching comes to the same as with it, unless that is
    refused because measures disagree.
-/
import Caret.Proofs.Watching.Unwatched

namespace Caret

/-! ## Positions -/

namespace Position

/-- The same position, not watched. -/
def unwatched (p : Position) : Position :=
  ⟨p.kind, Unwatchable.unwatched p.place⟩

theorem as?_unwatched (k : Kind) (p : Position) :
    p.unwatched.as? k = (p.as? k).map Unwatchable.unwatched := by
  obtain ⟨k', place⟩ := p
  by_cases h : k' = k
  · subst h
    rw [unwatched, as?_mk, as?_mk, Option.map_some]
  · rw [as?_eq_none_iff.2 (by exact h), as?_eq_none_iff.2 (by exact h), Option.map_none]

theorem as?_kind_unwatched (p q : Position) :
    q.unwatched.as? p.unwatched.kind = (q.as? p.kind).map Unwatchable.unwatched :=
  as?_unwatched p.kind q

@[simp]
theorem kindName_unwatched (p : Position) : p.unwatched.kindName = p.kindName := rfl

@[simp]
theorem zero_unwatched (k : Kind) : (zero k).unwatched = zero k := by
  rw [unwatched, zero, Unwatchable.zero_unwatched]

@[simp]
theorem display_unwatched (p : Position) : p.unwatched.display = p.display :=
  Unwatchable.display_unwatched p.place

@[simp]
theorem written_unwatched (p : Position) : p.unwatched.written = p.written :=
  Unwatchable.written_unwatched p.place

theorem add_lenient (p q : Position) :
    Lenient unwatched (p.unwatched.add q.unwatched) (p.add q) := by
  rw [add, add, as?_kind_unwatched]
  cases q.as? p.kind with
  | none => exact .error _ _
  | some b => exact (Unwatchable.add_unwatched p.place b).map fun _ => rfl

theorem saturatingSub_lenient (p q : Position) :
    Lenient unwatched (p.unwatched.saturatingSub q.unwatched) (p.saturatingSub q) := by
  rw [saturatingSub, saturatingSub, as?_kind_unwatched]
  cases q.as? p.kind with
  | none => exact .error _ _
  | some b => exact (Unwatchable.saturatingSub_unwatched p.place b).map fun _ => rfl

theorem sum_lenient (p q : Position) :
    Lenient unwatched (p.unwatched.sum q.unwatched) (p.sum q) := by
  rw [sum, sum, as?_kind_unwatched]
  cases q.as? p.kind with
  | none => exact .error _ _
  | some b => exact (Unwatchable.add_unwatched p.place b).map fun _ => rfl

theorem test_lenient (c : Comparison) (p q : Position) :
    Lenient id (p.unwatched.test c q.unwatched) (p.test c q) := by
  rw [test, test, as?_kind_unwatched]
  cases q.as? p.kind with
  | none => exact .refl _
  | some b => exact PositionKind.test_lenient c p.place b

@[simp]
theorem alike_unwatched (p q : Position) : p.unwatched.alike q.unwatched = p.alike q := by
  rw [alike, alike, as?_kind_unwatched]
  cases q.as? p.kind with
  | none => rfl
  | some b => exact congrArg (· == .eq) (Unwatchable.order_unwatched p.place b)

end Position

/-! ## Ranges -/

namespace PositionRange

/-- The same range, not watched. -/
def unwatched (r : PositionRange) : PositionRange :=
  ⟨r.kind, r.range.unwatched⟩

theorem as?_unwatched (k : Kind) (r : PositionRange) :
    r.unwatched.as? k = (r.as? k).map Range.unwatched := by
  obtain ⟨k', range⟩ := r
  by_cases h : k' = k
  · subst h
    rw [unwatched, as?_mk, as?_mk, Option.map_some]
  · simp [as?, unwatched, h]

theorem as?_kind_unwatched (r s : PositionRange) :
    s.unwatched.as? r.unwatched.kind = (s.as? r.kind).map Range.unwatched :=
  as?_unwatched r.kind s

theorem position_as?_kind_unwatched (r : PositionRange) (p : Position) :
    p.unwatched.as? r.unwatched.kind = (p.as? r.kind).map Unwatchable.unwatched :=
  p.as?_unwatched r.kind

@[simp]
theorem kindName_unwatched (r : PositionRange) : r.unwatched.kindName = r.kindName := rfl

@[simp]
theorem start_unwatched (r : PositionRange) : r.unwatched.start = r.start.unwatched := rfl

@[simp]
theorem stop_unwatched (r : PositionRange) : r.unwatched.stop = r.stop.unwatched := rfl

@[simp]
theorem display_unwatched (r : PositionRange) : r.unwatched.display = r.display :=
  r.range.display_unwatched

@[simp]
theorem written_unwatched (r : PositionRange) : r.unwatched.written = r.written :=
  r.range.written_unwatched

theorem of_lenient (p q : Position) :
    Lenient unwatched (of p.unwatched q.unwatched) (of p q) := by
  rw [of, of, Position.as?_kind_unwatched]
  cases q.as? p.kind with
  | none => exact .error _ _
  | some b => exact (Range.of_lenient p.place b).map fun _ => rfl

theorem empty_lenient (p : Position) : Lenient unwatched (empty p.unwatched) (empty p) :=
  (Range.of_lenient p.place p.place).map fun _ => rfl

theorem zero_lenient (k : Kind) : Lenient unwatched (zero k) (zero k) := by
  have h := empty_lenient (.zero k)
  rwa [Position.zero_unwatched] at h

theorem upTo_lenient (p : Position) : Lenient unwatched (upTo p.unwatched) (upTo p) :=
  (Range.upTo_lenient p.place).map fun _ => rfl

theorem startPoint_lenient (r : PositionRange) :
    Lenient unwatched r.unwatched.startPoint r.startPoint :=
  (Range.of_lenient r.range.start r.range.start).map fun _ => rfl

theorem endPoint_lenient (r : PositionRange) :
    Lenient unwatched r.unwatched.endPoint r.endPoint :=
  (Range.of_lenient r.range.stop r.range.stop).map fun _ => rfl

theorem len_lenient (r : PositionRange) : Lenient Position.unwatched r.unwatched.len r.len :=
  (Unwatchable.saturatingSub_unwatched r.range.stop r.range.start).map fun _ => rfl

theorem isEmpty_lenient (r : PositionRange) : Lenient id r.unwatched.isEmpty r.isEmpty :=
  r.range.isEmpty_lenient

theorem contains_lenient (r : PositionRange) (p : Position) :
    Lenient id (r.unwatched.contains p.unwatched) (r.contains p) := by
  rw [contains, contains, position_as?_kind_unwatched]
  cases p.as? r.kind with
  | none => exact .refl _
  | some q => exact r.range.contains_lenient q

theorem containsInclusive_lenient (r : PositionRange) (p : Position) :
    Lenient id (r.unwatched.containsInclusive p.unwatched) (r.containsInclusive p) := by
  rw [containsInclusive, containsInclusive, position_as?_kind_unwatched]
  cases p.as? r.kind with
  | none => exact .refl _
  | some q => exact r.range.containsInclusive_lenient q

theorem covers_lenient (r s : PositionRange) :
    Lenient id (r.unwatched.covers s.unwatched) (r.covers s) := by
  rw [covers, covers, as?_kind_unwatched]
  cases s.as? r.kind with
  | none => exact .refl _
  | some s => exact r.range.covers_lenient s

theorem overlaps_lenient (r s : PositionRange) :
    Lenient id (r.unwatched.overlaps s.unwatched) (r.overlaps s) := by
  rw [overlaps, overlaps, as?_kind_unwatched]
  cases s.as? r.kind with
  | some s => exact r.range.overlaps_lenient s
  | none =>
    refine .next r.isEmpty_lenient fun empty => ?_
    cases empty with
    | true => exact .refl _
    | false => exact .next s.isEmpty_lenient fun _ => .refl _

theorem intersect_lenient (r s : PositionRange) :
    Lenient (Option.map unwatched) (r.unwatched.intersect s.unwatched) (r.intersect s) := by
  rw [intersect, intersect, as?_kind_unwatched]
  cases s.as? r.kind with
  | none => exact .error _ _
  | some s => exact (r.range.intersect_lenient s).map fun t => by cases t <;> rfl

theorem cover_lenient (r s : PositionRange) :
    Lenient unwatched (r.unwatched.cover s.unwatched) (r.cover s) := by
  rw [cover, cover, as?_kind_unwatched]
  cases s.as? r.kind with
  | none => exact .error _ _
  | some s => exact (r.range.cover_lenient s).map fun _ => rfl

theorem coverPosition_lenient (r : PositionRange) (p : Position) :
    Lenient unwatched (r.unwatched.coverPosition p.unwatched) (r.coverPosition p) := by
  rw [coverPosition, coverPosition, position_as?_kind_unwatched]
  cases p.as? r.kind with
  | none => exact .error _ _
  | some q => exact (r.range.coverPosition_lenient q).map fun _ => rfl

theorem test_lenient (c : Comparison) (r s : PositionRange) :
    Lenient id (r.unwatched.test c s.unwatched) (r.test c s) := by
  rw [test, test, as?_kind_unwatched]
  cases s.as? r.kind with
  | none => exact .refl _
  | some s => exact r.range.test_lenient c s

end PositionRange

end Caret
