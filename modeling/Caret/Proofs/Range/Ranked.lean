/-
  Ranges between positions that have ranks in a linear order.

  Positions are compared by what they stand for: those of one text by their offsets, those of one
  kind by their numbers. Whatever that is, what is asked of ranges is asked of intervals.

  * `Comparison.between`: a comparison of members of a linear order;
  * `Ranked`: positions with ranks, on which comparisons are not refused and answer as on the ranks;
  * `Range.Spans`: a range from one rank to another;
  * `Range.map`: a range between what a function makes of the ends;
  * `Spans.isEmpty_eq`, `Spans.contains_eq`, `Spans.containsInclusive_eq`, `Spans.covers_eq`,
    `Spans.overlaps_eq`: what is asked of such ranges;
  * `Spans.intersect_eq`, `Spans.cover_eq`: which ends their common part and their hull have;
  * `Spans.intersect`, `Spans.cover`: which ranks these are;
  * `Spans.intersect_map`, `Spans.cover_map`: a function that keeps ranks can be applied before or
    after.
-/
import Caret.Range
import Mathlib.Order.Compare
import Mathlib.Order.MinMax

namespace Caret

variable {P α : Type} [LinearOrder α]

/-- The comparison of two members of a linear order. -/
def Comparison.between : Comparison → α → α → Bool
  | .eq, x, y => decide (x = y)
  | .ne, x, y => decide (x ≠ y)
  | .lt, x, y => decide (x < y)
  | .le, x, y => decide (x ≤ y)
  | .gt, x, y => decide (x > y)
  | .ge, x, y => decide (x ≥ y)

theorem Comparison.holds_compare (c : Comparison) (x y : α) :
    c.holds (compare x y) = c.between x y := by
  rcases lt_trichotomy x y with h | rfl | h
  · rw [compare_lt_iff_lt.2 h]
    cases c <;> simp [holds, between, h, h.le, h.ne]
  · rw [compare_eq_iff_eq.2 rfl]
    cases c <;> simp [holds, between]
  · rw [compare_gt_iff_gt.2 h]
    cases c <;> simp [holds, between, h, h.le, h.ne']

/-- The range starts at rank `x` and ends at rank `y`. -/
structure Range.Spans (rank : P → α → Prop) (r : Range P) (x y : α) : Prop where
  start : rank r.start x
  stop : rank r.stop y
  le : x ≤ y

/-- The range between what `f` makes of the ends. -/
def Range.map {Q : Type} (f : P → Q) (r : Range P) : Range Q :=
  ⟨f r.start, f r.stop⟩

variable {rank : P → α → Prop} {p q : P} {r s : Range P} {x x' y y' z : α}

theorem Range.Spans.map {Q : Type} {rank' : Q → α → Prop} {f : P → Q}
    (hf : ∀ p x, rank p x → rank' (f p) x) (hr : r.Spans rank x y) :
    (r.map f).Spans rank' x y :=
  ⟨hf _ _ hr.start, hf _ _ hr.stop, hr.le⟩

/-! ## Ranks of the later and of the earlier position -/

theorem rank_max (hp : rank p x) (hq : rank q y) : rank (if x < y then q else p) (max x y) := by
  by_cases h : x < y
  · rwa [if_pos h, max_eq_right h.le]
  · rwa [if_neg h, max_eq_left (le_of_not_gt h)]

theorem rank_min (hp : rank p x) (hq : rank q y) : rank (if y < x then q else p) (min x y) := by
  by_cases h : y < x
  · rwa [if_pos h, min_eq_right h.le]
  · rwa [if_neg h, min_eq_left (le_of_not_gt h)]

theorem Range.Spans.intersect (hr : r.Spans rank x y) (hs : s.Spans rank x' y')
    (hle : max x x' ≤ min y y') :
    Spans rank ⟨if x < x' then s.start else r.start, if y' < y then s.stop else r.stop⟩
      (max x x') (min y y') :=
  ⟨rank_max hr.start hs.start, rank_min hr.stop hs.stop, hle⟩

theorem Range.Spans.cover (hr : r.Spans rank x y) (hs : s.Spans rank x' y') :
    Spans rank ⟨if x' < x then s.start else r.start, if y < y' then s.stop else r.stop⟩
      (min x x') (max y y') :=
  ⟨rank_min hr.start hs.start, rank_max hr.stop hs.stop,
    (min_le_left x x').trans (hr.le.trans (le_max_left y y'))⟩

/-! ## Comparing by ranks -/

variable [PositionKind P]

open PositionKind (comparable order test)

/-- Positions with ranks, compared as their ranks are and without being refused. -/
structure Ranked (rank : P → α → Prop) : Prop where
  comparable_eq_ok {p q : P} {x y : α} : rank p x → rank q y → comparable p q = .ok ()
  order_eq {p q : P} {x y : α} : rank p x → rank q y → order p q = compare x y

theorem Ranked.test_eq (h : Ranked rank) (hp : rank p x) (hq : rank q y) (c : Comparison) :
    test c p q = .ok (c.between x y) := by
  rw [PositionKind.test_eq, h.comparable_eq_ok hp hq, h.order_eq hp hq, ← c.holds_compare]
  rfl

namespace Range

theorem of_eq (h : Ranked rank) (hp : rank p x) (hq : rank q y) (hle : x ≤ y) :
    of p q = .ok ⟨p, q⟩ := by
  rw [of, h.test_eq hq hp, Comparison.between, decide_eq_false hle.not_gt]
  rfl

theorem later_eq (h : Ranked rank) (hp : rank p x) (hq : rank q y) :
    later p q = .ok (if x < y then q else p) := by
  rw [later, h.test_eq hq hp, Comparison.between]
  by_cases hlt : x < y
  · rw [decide_eq_true hlt, if_pos hlt]; rfl
  · rw [decide_eq_false hlt, if_neg hlt]; rfl

theorem earlier_eq (h : Ranked rank) (hp : rank p x) (hq : rank q y) :
    earlier p q = .ok (if y < x then q else p) := by
  rw [earlier, h.test_eq hq hp, Comparison.between]
  by_cases hlt : y < x
  · rw [decide_eq_true hlt, if_pos hlt]; rfl
  · rw [decide_eq_false hlt, if_neg hlt]; rfl

/-! ## What lies in a range -/

/-- Two questions, the second one asked only if the answer to the first one is yes. -/
theorem ok_and_then (a b : Bool) :
    (do if ← (Except.ok a : Except Fault Bool) then .ok b else return false) = .ok (a && b) := by
  cases a <;> rfl

theorem Spans.isEmpty_eq (h : Ranked rank) (hr : r.Spans rank x y) :
    r.isEmpty = .ok (decide (x = y)) :=
  h.test_eq hr.start hr.stop .eq

theorem Spans.contains_eq (h : Ranked rank) (hr : r.Spans rank x y) (hp : rank p z) :
    r.contains p = .ok (decide (x ≤ z ∧ z < y)) := by
  rw [contains, h.test_eq hr.start hp, h.test_eq hp hr.stop, ok_and_then, Bool.decide_and]
  rfl

theorem Spans.containsInclusive_eq (h : Ranked rank) (hr : r.Spans rank x y) (hp : rank p z) :
    r.containsInclusive p = .ok (decide (x ≤ z ∧ z ≤ y)) := by
  rw [containsInclusive, h.test_eq hr.start hp, h.test_eq hp hr.stop, ok_and_then, Bool.decide_and]
  rfl

theorem Spans.covers_eq (h : Ranked rank) (hr : r.Spans rank x y) (hs : s.Spans rank x' y') :
    r.covers s = .ok (decide (x ≤ x' ∧ y' ≤ y)) := by
  rw [covers, h.test_eq hr.start hs.start, h.test_eq hs.stop hr.stop, ok_and_then, Bool.decide_and]
  rfl

/-- The two intervals have a member in common, which neither of them has if it is empty. -/
theorem Spans.overlaps_eq (h : Ranked rank) (hr : r.Spans rank x y) (hs : s.Spans rank x' y') :
    r.overlaps s = .ok (decide (max x x' < min y y')) := by
  rw [overlaps, hr.isEmpty_eq h, hs.isEmpty_eq h, h.test_eq hr.start hs.stop,
    h.test_eq hs.start hr.stop, ok_and_then]
  by_cases hempty : x = y
  · have hno : ¬max x x' < min y y' := fun hlt =>
      (max_lt_iff.1 hlt).1.not_ge (hempty ▸ min_le_left y y')
    rw [decide_eq_true hempty, decide_eq_false hno]
    rfl
  rw [decide_eq_false hempty]
  by_cases hempty' : x' = y'
  · have hno : ¬max x x' < min y y' := fun hlt =>
      (max_lt_iff.1 hlt).2.not_ge (hempty' ▸ min_le_right y y')
    rw [decide_eq_true hempty', decide_eq_false hno]
    rfl
  rw [decide_eq_false hempty']
  have hmember : max x x' < min y y' ↔ x < y' ∧ x' < y := by
    rw [max_lt_iff, lt_min_iff, lt_min_iff]
    constructor
    · rintro ⟨⟨-, hlt⟩, hlt', -⟩
      exact ⟨hlt, hlt'⟩
    · rintro ⟨hlt, hlt'⟩
      exact ⟨⟨hr.le.lt_of_ne hempty, hlt⟩, hlt', hs.le.lt_of_ne hempty'⟩
  rw [decide_eq_decide.2 hmember, Bool.decide_and]
  rfl

/-! ## Common part and hull -/

theorem Spans.intersect_eq (h : Ranked rank) (hr : r.Spans rank x y) (hs : s.Spans rank x' y') :
    r.intersect s = .ok (if min y y' < max x x' then none else
      some ⟨if x < x' then s.start else r.start, if y' < y then s.stop else r.stop⟩) := by
  have hstart := rank_max hr.start hs.start
  have hstop := rank_min hr.stop hs.stop
  simp only [Range.intersect, later_eq h hr.start hs.start, earlier_eq h hr.stop hs.stop, bind,
    Except.bind, h.test_eq hstop hstart, Comparison.between]
  by_cases hlt : min y y' < max x x'
  · rw [decide_eq_true hlt, if_pos hlt]
    rfl
  · rw [decide_eq_false hlt, if_neg hlt, of_eq h hstart hstop (le_of_not_gt hlt)]
    rfl

theorem Spans.cover_eq (h : Ranked rank) (hr : r.Spans rank x y) (hs : s.Spans rank x' y') :
    r.cover s = .ok ⟨if x' < x then s.start else r.start, if y < y' then s.stop else r.stop⟩ := by
  have hspans := hr.cover hs
  simp only [Range.cover, later_eq h hr.stop hs.stop, earlier_eq h hr.start hs.start, bind,
    Except.bind, of_eq h hspans.start hspans.stop hspans.le]

section

variable {Q : Type} [PositionKind Q] {rank' : Q → α → Prop} {f : P → Q}

theorem Spans.intersect_map (h : Ranked rank) (h' : Ranked rank')
    (hf : ∀ p x, rank p x → rank' (f p) x) (hr : r.Spans rank x y) (hs : s.Spans rank x' y') :
    (r.map f).intersect (s.map f) = (r.intersect s).map (Option.map (Range.map f)) := by
  rw [(hr.map hf).intersect_eq h' (hs.map hf), hr.intersect_eq h hs]
  by_cases hlt : min y y' < max x x'
  · rw [if_pos hlt, if_pos hlt]
    rfl
  · rw [if_neg hlt, if_neg hlt]
    simp only [Except.map, Option.map_some, Range.map, apply_ite f]

theorem Spans.cover_map (h : Ranked rank) (h' : Ranked rank')
    (hf : ∀ p x, rank p x → rank' (f p) x) (hr : r.Spans rank x y) (hs : s.Spans rank x' y') :
    (r.map f).cover (s.map f) = (r.cover s).map (Range.map f) := by
  rw [(hr.map hf).cover_eq h' (hs.map hf), hr.cover_eq h hs]
  simp only [Except.map, Range.map, apply_ite f]

end

end Range

end Caret
