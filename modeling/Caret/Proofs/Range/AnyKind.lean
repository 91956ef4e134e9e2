/-
  Ranges of any kind ask by comparing their ends, whatever kinds these are of.

  The operations of such ranges look at the kinds first. This makes no difference: they come to what
  comparing the ends one after the other comes to, where positions of two kinds have no order.

  * `Position.test_of_kind_ne`: positions of two kinds differ, and cannot be ordered;
  * `Position.later`, `Position.earlier`: the choice between positions of any kind;
  * `of_one_kind_or_ne`, `at_one_kind_or_ne`: there is one kind to look at, or there are two;
  * `contains_eq`, `containsInclusive_eq`, `covers_eq`, `overlaps_eq`: questions, asked of the ends;
  * `intersect_eq`, `cover_eq`, `coverPosition_eq`: ranges, made of the ends;
  * `test_eq`: ranges are compared as pairs.
-/
import Caret.Position.Any
import Caret.Proofs.Range.Valid

namespace Caret

/-! ## Positions -/

namespace Position

variable {p q : Position} {k : Kind}

theorem test_of_kind_ne (h : p.kind ≠ q.kind) (c : Comparison) :
    p.test c q = testApart c p.kindName q.kindName := by
  rw [test, as?_eq_none_iff.2 h.symm]

@[simp]
theorem test_mk (c : Comparison) (a b : k.Place) :
    test c ⟨k, a⟩ ⟨k, b⟩ = PositionKind.test c a b := by
  rw [test, as?_mk]

/-- The later of two positions, the first one if they are the same. -/
def later (a b : Position) : Except Fault Position := do
  if ← test .gt b a then return b else return a

/-- The earlier of two positions, the first one if they are the same. -/
def earlier (a b : Position) : Except Fault Position := do
  if ← test .lt b a then return b else return a

theorem later_mk (a b : k.Place) : later ⟨k, a⟩ ⟨k, b⟩ = (Range.later a b).map (⟨k, ·⟩) := by
  rw [later, Range.later, test_mk]
  rcases PositionKind.test .gt b a with f | gt
  · rfl
  · cases gt <;> rfl

theorem earlier_mk (a b : k.Place) :
    earlier ⟨k, a⟩ ⟨k, b⟩ = (Range.earlier a b).map (⟨k, ·⟩) := by
  rw [earlier, Range.earlier, test_mk]
  rcases PositionKind.test .lt b a with f | lt
  · rfl
  · cases lt <;> rfl

end Position

/-! ## Ranges -/

namespace PositionRange

open Position (test_mk test_of_kind_ne)

variable {k : Kind} (r s : PositionRange) (p : Position)

theorem of_mk (a b : k.Place) : of ⟨k, a⟩ ⟨k, b⟩ = (Range.of a b).map (⟨k, ·⟩) := by
  rw [of, Position.as?_mk]
  rfl

theorem as?_of_kind_ne {r s : PositionRange} (h : r.kind ≠ s.kind) : s.as? r.kind = none := by
  rw [as?, dif_neg h.symm]

/-- Two ranges are between positions of one kind, or of two. -/
theorem of_one_kind_or_ne (r s : PositionRange) :
    (∃ (k : Kind) (a b : Range k.Place), r = ⟨k, a⟩ ∧ s = ⟨k, b⟩) ∨ r.kind ≠ s.kind := by
  by_cases h : r.kind = s.kind
  · obtain ⟨k, a⟩ := r
    obtain ⟨_, b⟩ := s
    cases h
    exact .inl ⟨k, a, b, rfl, rfl⟩
  · exact .inr h

/-- A position is of the kind of a range, or of another. -/
theorem at_one_kind_or_ne (r : PositionRange) (p : Position) :
    (∃ (k : Kind) (a : Range k.Place) (b : k.Place), r = ⟨k, a⟩ ∧ p = ⟨k, b⟩) ∨
      r.kind ≠ p.kind := by
  by_cases h : r.kind = p.kind
  · obtain ⟨k, a⟩ := r
    obtain ⟨_, b⟩ := p
    cases h
    exact .inl ⟨k, a, b, rfl, rfl⟩
  · exact .inr h

theorem contains_eq :
    r.contains p = (do
      if ← r.start.test .le p then p.test .lt r.stop else return false) := by
  obtain ⟨k, r, p, rfl, rfl⟩ | h := at_one_kind_or_ne r p
  · rw [contains, Position.as?_mk, start, stop, test_mk, test_mk]
    rfl
  · rw [contains, Position.as?_eq_none_iff.2 (Ne.symm h), test_of_kind_ne h]
    rfl

theorem containsInclusive_eq :
    r.containsInclusive p = (do
      if ← r.start.test .le p then p.test .le r.stop else return false) := by
  obtain ⟨k, r, p, rfl, rfl⟩ | h := at_one_kind_or_ne r p
  · rw [containsInclusive, Position.as?_mk, start, stop, test_mk, test_mk]
    rfl
  · rw [containsInclusive, Position.as?_eq_none_iff.2 (Ne.symm h), test_of_kind_ne h]
    rfl

theorem covers_eq :
    r.covers s = (do
      if ← r.start.test .le s.start then s.stop.test .le r.stop
      else return false) := by
  obtain ⟨k, r, s, rfl, rfl⟩ | h := of_one_kind_or_ne r s
  · rw [covers, as?_mk, start, stop, start, stop, test_mk, test_mk]
    rfl
  · rw [covers, as?_of_kind_ne h, test_of_kind_ne h]
    rfl

theorem overlaps_eq :
    r.overlaps s = (do
      if ← r.isEmpty then return false
      else if ← s.isEmpty then return false
      else if ← r.start.test .lt s.stop then s.start.test .lt r.stop
      else return false) := by
  obtain ⟨k, r, s, rfl, rfl⟩ | h := of_one_kind_or_ne r s
  · rw [overlaps, as?_mk, start, stop, start, stop, test_mk, test_mk]
    rfl
  · rw [overlaps, as?_of_kind_ne h, test_of_kind_ne (q := s.stop) h]
    rfl

theorem intersect_eq :
    r.intersect s = (do
      let start ← r.start.later s.start
      let stop ← r.stop.earlier s.stop
      if ← stop.test .lt start then return none
      else return some (← of start stop)) := by
  obtain ⟨k, r, s, rfl, rfl⟩ | h := of_one_kind_or_ne r s
  · rw [intersect, as?_mk, start, stop, start, stop, Position.later_mk, Position.earlier_mk]
    show (Range.intersect r s).map _ = _
    rw [Range.intersect]
    rcases Range.later r.start s.start with f | a
    · rfl
    rcases Range.earlier r.stop s.stop with f | b
    · rfl
    show _ = (do
      if ← Position.test .lt ⟨k, b⟩ ⟨k, a⟩ then return none
      else return some (← of ⟨k, a⟩ ⟨k, b⟩))
    rw [test_mk, of_mk]
    show (do if ← PositionKind.test .lt b a then _ else _).map _ = _
    rcases PositionKind.test .lt b a with f | lt
    · rfl
    cases lt with
    | true => rfl
    | false => rcases Range.of a b with f | t <;> rfl
  · rw [intersect, as?_of_kind_ne h, Position.later, test_of_kind_ne (Ne.symm h)]
    rfl

theorem cover_eq :
    r.cover s = (do
      let start ← r.start.earlier s.start
      let stop ← r.stop.later s.stop
      of start stop) := by
  obtain ⟨k, r, s, rfl, rfl⟩ | h := of_one_kind_or_ne r s
  · rw [cover, as?_mk, start, stop, start, stop, Position.later_mk, Position.earlier_mk]
    show (Range.cover r s).map _ = _
    rw [Range.cover]
    rcases Range.earlier r.start s.start with f | a
    · rfl
    rcases Range.later r.stop s.stop with f | b
    · rfl
    exact (of_mk a b).symm
  · rw [cover, as?_of_kind_ne h, Position.earlier, test_of_kind_ne (Ne.symm h)]
    rfl

/-- There is an empty range at every position, so that nothing but comparing it can be refused. -/
theorem coverPosition_eq : r.coverPosition p = r.cover ⟨p.kind, ⟨p.place, p.place⟩⟩ := by
  obtain ⟨k, r, p, rfl, rfl⟩ | h := at_one_kind_or_ne r p
  · rw [coverPosition, Position.as?_mk, cover, as?_mk]
    show (Range.coverPosition r p).map _ = _
    rw [Range.coverPosition, Range.empty, Range.of_self]
    rfl
  · rw [coverPosition, Position.as?_eq_none_iff.2 (Ne.symm h), cover, as?_of_kind_ne h]
    rfl

theorem test_eq (c : Comparison) :
    r.test c s = (do
      if ← r.start.test .eq s.start then
        if ← r.stop.test .eq s.stop then return c.holds .eq else r.stop.test c s.stop
      else r.start.test c s.start) := by
  obtain ⟨k, r, s, rfl, rfl⟩ | h := of_one_kind_or_ne r s
  · rw [PositionRange.test, as?_mk, start, stop, start, stop, test_mk, test_mk, test_mk, test_mk]
    rfl
  · have hapart (c : Comparison) := test_of_kind_ne (p := r.start) (q := s.start) h c
    rw [PositionRange.test, as?_of_kind_ne h, hapart, hapart]
    rfl

end PositionRange

end Caret
