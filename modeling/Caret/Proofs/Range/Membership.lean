/-
  What is asked of ranges, read as membership.

  A range holds its start and not its end, and reaches both. Common parts, overlaps and covering say
  what the members of two ranges have to do with each other. This is so for positions with ranks;
  the positions of one kind that are not watched have their numbers as ranks.

  * `Decides`: a question that is answered, and what its answer means;
  * `Range.Holds`, `Range.Reaches`: membership without the end and with it;
  * `Spans.exists_intersect`: two ranges are apart, or have a range in common;
  * `Spans.exists_holds_iff`, `Spans.forall_reaches_iff`, `Spans.forall_holds_iff`: what overlaps
    and covering say of the ends;
  * `Range.queries_read_membership`: what they mean in every kind.
-/
import Caret.Proofs.Position.Numbers
import Mathlib.Order.Interval.Set.LinearOrder

namespace Caret

/-- The question is answered, and with yes exactly if `X` is so. -/
def Decides (question : Except Fault Bool) (X : Prop) : Prop :=
  ∃ answer, question = .ok answer ∧ (answer = true ↔ X)

theorem decides_of_eq_decide {question : Except Fault Bool} {X Y : Prop} {_ : Decidable X}
    (h : question = .ok (decide X)) (hXY : X ↔ Y) : Decides question Y :=
  ⟨decide X, h, decide_eq_true_iff.trans hXY⟩

namespace Range

variable {P α : Type} [PositionKind P] [LinearOrder α] {rank : P → α → Prop} {r s t : Range P}
  {p : P} {x x' y y' z : α}

/-- The position is in the range, its end excluded. -/
def Holds (r : Range P) (p : P) : Prop :=
  r.contains p = .ok true

/-- The position is in the range or at its end. -/
def Reaches (r : Range P) (p : P) : Prop :=
  r.containsInclusive p = .ok true

theorem Spans.holds_iff (h : Ranked rank) (hr : r.Spans rank x y) (hp : rank p z) :
    r.Holds p ↔ z ∈ Set.Ico x y := by
  simp [Holds, hr.contains_eq h hp]

theorem Spans.reaches_iff (h : Ranked rank) (hr : r.Spans rank x y) (hp : rank p z) :
    r.Reaches p ↔ z ∈ Set.Icc x y := by
  simp [Reaches, hr.containsInclusive_eq h hp]

/-! ## Common parts -/

/-- Two ranges are apart, or there is a range from the later start to the earlier end. -/
theorem Spans.exists_intersect (h : Ranked rank) (hr : r.Spans rank x y)
    (hs : s.Spans rank x' y') :
    (r.intersect s = .ok none ∧ min y y' < max x x') ∨
      ∃ t, r.intersect s = .ok (some t) ∧ t.Spans rank (max x x') (min y y') := by
  rw [hr.intersect_eq h hs]
  by_cases hlt : min y y' < max x x'
  · exact .inl ⟨by rw [if_pos hlt], hlt⟩
  · exact .inr ⟨_, by rw [if_neg hlt], hr.intersect hs (le_of_not_gt hlt)⟩

theorem Spans.holds_intersect_iff (h : Ranked rank) (hr : r.Spans rank x y)
    (hs : s.Spans rank x' y') (ht : t.Spans rank (max x x') (min y y')) (hp : rank p z) :
    t.Holds p ↔ r.Holds p ∧ s.Holds p := by
  rw [ht.holds_iff h hp, hr.holds_iff h hp, hs.holds_iff h hp, ← Set.mem_inter_iff,
    Set.Ico_inter_Ico]

theorem Spans.reaches_intersect_iff (h : Ranked rank) (hr : r.Spans rank x y)
    (hs : s.Spans rank x' y') (ht : t.Spans rank (max x x') (min y y')) (hp : rank p z) :
    t.Reaches p ↔ r.Reaches p ∧ s.Reaches p := by
  rw [ht.reaches_iff h hp, hr.reaches_iff h hp, hs.reaches_iff h hp, ← Set.mem_inter_iff,
    Set.Icc_inter_Icc]

theorem Spans.intersect_eq_none_iff (h : Ranked rank) (hr : r.Spans rank x y)
    (hs : s.Spans rank x' y') :
    r.intersect s = .ok none ↔ ¬∃ p z, rank p z ∧ r.Reaches p ∧ s.Reaches p := by
  rcases hr.exists_intersect h hs with ⟨hnone, hlt⟩ | ⟨t, hsome, ht⟩
  · refine iff_of_true hnone ?_
    rintro ⟨p, z, hp, hrp, hsp⟩
    rw [hr.reaches_iff h hp] at hrp
    rw [hs.reaches_iff h hp] at hsp
    exact hlt.not_ge ((max_le hrp.1 hsp.1).trans (le_min hrp.2 hsp.2))
  · refine iff_of_false (fun hnone => by cases hsome.symm.trans hnone) fun hno => hno ?_
    refine ⟨t.start, _, ht.start, ?_⟩
    rw [← hr.reaches_intersect_iff h hs ht ht.start, ht.reaches_iff h ht.start]
    exact ⟨le_rfl, ht.le⟩

/-! ## Overlaps -/

theorem Spans.exists_holds_iff (h : Ranked rank) (hr : r.Spans rank x y)
    (hs : s.Spans rank x' y') :
    (∃ p z, rank p z ∧ r.Holds p ∧ s.Holds p) ↔ max x x' < min y y' := by
  constructor
  · rintro ⟨p, z, hp, hrp, hsp⟩
    rw [hr.holds_iff h hp] at hrp
    rw [hs.holds_iff h hp] at hsp
    exact (max_le hrp.1 hsp.1).trans_lt (lt_min hrp.2 hsp.2)
  · intro hlt
    have ht := hr.intersect hs hlt.le
    refine ⟨_, _, ht.start, ?_⟩
    rw [← hr.holds_intersect_iff h hs ht ht.start, ht.holds_iff h ht.start]
    exact ⟨le_rfl, hlt⟩

theorem Spans.exists_intersect_iff (h : Ranked rank) (hr : r.Spans rank x y)
    (hs : s.Spans rank x' y') :
    (∃ t, r.intersect s = .ok (some t) ∧ t.isEmpty = .ok false) ↔ max x x' < min y y' := by
  rcases hr.exists_intersect h hs with ⟨hnone, hlt⟩ | ⟨t, hsome, ht⟩
  · refine iff_of_false ?_ hlt.not_gt
    rintro ⟨t, hsome, -⟩
    cases hnone.symm.trans hsome
  · rw [hsome, ht.le.lt_iff_ne]
    simp [ht.isEmpty_eq h]

/-! ## Covering -/

theorem Spans.forall_reaches_iff (h : Ranked rank) (hr : r.Spans rank x y)
    (hs : s.Spans rank x' y') :
    (∀ p z, rank p z → s.Reaches p → r.Reaches p) ↔ x ≤ x' ∧ y' ≤ y := by
  constructor
  · intro hsub
    have hstart := hsub _ _ hs.start ((hs.reaches_iff h hs.start).2 ⟨le_rfl, hs.le⟩)
    have hstop := hsub _ _ hs.stop ((hs.reaches_iff h hs.stop).2 ⟨hs.le, le_rfl⟩)
    exact ⟨((hr.reaches_iff h hs.start).1 hstart).1, ((hr.reaches_iff h hs.stop).1 hstop).2⟩
  · rintro ⟨hx, hy⟩ p z hp
    rw [hs.reaches_iff h hp, hr.reaches_iff h hp]
    exact fun hz => Set.Icc_subset_Icc hx hy hz

/-- The end of `r`, if it were before that of `s`, would be in `s` and not in `r`. -/
theorem Spans.forall_holds_iff (h : Ranked rank) (hr : r.Spans rank x y)
    (hs : s.Spans rank x' y') (hlt : x' < y') :
    (∀ p z, rank p z → s.Holds p → r.Holds p) ↔ x ≤ x' ∧ y' ≤ y := by
  constructor
  · intro hsub
    have hstart := hsub _ _ hs.start ((hs.holds_iff h hs.start).2 ⟨le_rfl, hlt⟩)
    rw [hr.holds_iff h hs.start] at hstart
    refine ⟨hstart.1, le_of_not_gt fun hy => ?_⟩
    have hstop := hsub _ _ hr.stop ((hs.holds_iff h hr.stop).2 ⟨hstart.2.le, hy⟩)
    exact lt_irrefl y ((hr.holds_iff h hr.stop).1 hstop).2
  · rintro ⟨hx, hy⟩ p z hp
    rw [hs.holds_iff h hp, hr.holds_iff h hp]
    exact fun hz => Set.Ico_subset_Ico hx hy hz

/-! ## The end -/

theorem Spans.reaches_iff_holds_or (h : Ranked rank) (hr : r.Spans rank x y) (hp : rank p z) :
    r.Reaches p ↔ r.Holds p ∨ PositionKind.test .eq p r.stop = .ok true := by
  rw [hr.reaches_iff h hp, hr.holds_iff h hp, h.test_eq hp hr.stop, ← Set.Ico_union_right hr.le,
    Set.mem_union, Set.mem_singleton_iff]
  simp [Comparison.between]

/-! ## Every kind -/

/-- **The questions about ranges are questions of membership.** Take positions of one kind that are
    not watched. Two ranges have no common part exactly if no position is in both, their ends
    included; otherwise it holds and reaches what both do. They overlap exactly if some position is
    in both, which is if their common part is not empty. One covers the other exactly if it reaches
    what that one reaches, and, unless that one is empty, if it holds what that one holds. And what
    a range reaches is what it holds, and its end. -/
theorem queries_read_membership (k : Kind) {r s : Range k.Place} (hr : k.Free r) (hs : k.Free s) :
    (∃ u, r.intersect s = .ok u ∧
      (u = none ↔ ¬∃ p, k.Unwatched p ∧ r.Reaches p ∧ s.Reaches p) ∧
      ∀ t, u = some t → k.Free t ∧ ∀ p, k.Unwatched p →
        (t.Holds p ↔ r.Holds p ∧ s.Holds p) ∧ (t.Reaches p ↔ r.Reaches p ∧ s.Reaches p)) ∧
    Decides (r.overlaps s) (∃ p, k.Unwatched p ∧ r.Holds p ∧ s.Holds p) ∧
    Decides (r.overlaps s) (∃ t, r.intersect s = .ok (some t) ∧ t.isEmpty = .ok false) ∧
    Decides (r.covers s) (∀ p, k.Unwatched p → s.Reaches p → r.Reaches p) ∧
    (s.isEmpty = .ok false →
      Decides (r.covers s) (∀ p, k.Unwatched p → s.Holds p → r.Holds p)) ∧
    ∀ p, k.Unwatched p → Decides (r.contains p) (r.Holds p) ∧
      Decides (r.containsInclusive p) (r.Holds p ∨ PositionKind.test .eq p r.stop = .ok true) := by
  have h := k.ranked_hasNumbers
  have hr := hr.spans
  have hs := hs.spans
  have hoverlaps := hr.overlaps_eq h hs
  have hcovers := hr.covers_eq h hs
  refine ⟨?_, ?_, ?_, ?_, ?_, ?_⟩
  · have hnone := hr.intersect_eq_none_iff h hs
    rw [Kind.exists_hasNumbers_iff] at hnone
    rcases hr.exists_intersect h hs with ⟨hu, -⟩ | ⟨t, hu, ht⟩
    · refine ⟨none, hu, iff_of_true rfl (hnone.1 hu), ?_⟩
      rintro t ⟨⟩
    · have hsome : r.intersect s ≠ .ok none := by
        rw [hu]
        rintro ⟨⟩
      refine ⟨some t, hu, iff_of_false nofun (mt hnone.2 hsome), ?_⟩
      rintro _ ⟨⟩
      refine ⟨Kind.free_of_spans ht, fun p hp => ?_⟩
      exact ⟨hr.holds_intersect_iff h hs ht hp.hasNumbers,
        hr.reaches_intersect_iff h hs ht hp.hasNumbers⟩
  · refine decides_of_eq_decide hoverlaps ?_
    rw [← hr.exists_holds_iff h hs, Kind.exists_hasNumbers_iff]
  · exact decides_of_eq_decide hoverlaps (hr.exists_intersect_iff h hs).symm
  · refine decides_of_eq_decide hcovers ?_
    rw [← hr.forall_reaches_iff h hs, Kind.forall_hasNumbers_iff]
  · intro hne
    have hlt : k.numbers s.start < k.numbers s.stop := by
      rw [hs.isEmpty_eq h] at hne
      exact hs.le.lt_of_ne (by simpa using hne)
    refine decides_of_eq_decide hcovers ?_
    rw [← hr.forall_holds_iff h hs hlt, Kind.forall_hasNumbers_iff]
  · intro p hp
    refine ⟨?_, ?_⟩
    · exact decides_of_eq_decide (hr.contains_eq h hp.hasNumbers)
        (hr.holds_iff h hp.hasNumbers).symm
    · rw [← hr.reaches_iff_holds_or h hp.hasNumbers]
      exact decides_of_eq_decide (hr.containsInclusive_eq h hp.hasNumbers)
        (hr.reaches_iff h hp.hasNumbers).symm

/-- Composites of no text. The first two ranges overlap in a range of composites with one index; the
    third one starts where the first one ends. -/
theorem queries_read_membership_where_ranges_touch :
    ∃ r s q : Range Composite, ¬r.start.Consistent ∧ Kind.composite.Free r ∧
      Kind.composite.Free s ∧ Kind.composite.Free q ∧
      (r.overlaps s = .ok true ∧ ∃ p : Composite, p.checked = false ∧ r.Holds p ∧ s.Holds p) ∧
      (r.overlaps q = .ok false ∧ ¬∃ p : Composite, p.checked = false ∧ r.Holds p ∧ q.Holds p) ∧
      (∃ p : Composite, p.checked = false ∧ r.Reaches p ∧ q.Reaches p) ∧
      (q.isEmpty = .ok false ∧ s.covers q = .ok true ∧
        ∀ p : Composite, p.checked = false → q.Holds p → s.Holds p) := by
  let a : Composite := ⟨⟨3⟩, ⟨2, 0⟩, ⟨0, 9⟩, false⟩
  let b : Composite := ⟨⟨3⟩, ⟨2, 0⟩, ⟨1, 0⟩, false⟩
  let c : Composite := ⟨⟨3⟩, ⟨2, 1⟩, ⟨0, 0⟩, false⟩
  let d : Composite := ⟨⟨4294967295⟩, ⟨0, 0⟩, ⟨0, 0⟩, false⟩
  let r : Range Composite := ⟨a, c⟩
  let s : Range Composite := ⟨b, d⟩
  let q : Range Composite := ⟨c, d⟩
  have hr : Kind.composite.Free r := ⟨⟨by decide, rfl⟩, rfl, rfl⟩
  have hs : Kind.composite.Free s := ⟨⟨by decide, rfl⟩, rfl, rfl⟩
  have hq : Kind.composite.Free q := ⟨⟨by decide, rfl⟩, rfl, rfl⟩
  obtain ⟨-, ⟨_, hrs, hmember⟩, -⟩ := queries_read_membership .composite hr hs
  obtain ⟨⟨u, hu, hnone, -⟩, ⟨_, hrq, hno⟩, -⟩ := queries_read_membership .composite hr hq
  obtain ⟨-, -, -, -, hcovers, -⟩ := queries_read_membership .composite hs hq
  obtain ⟨_, hsq, hsub⟩ := hcovers rfl
  have hrs' : r.overlaps s = .ok true := rfl
  have hrq' : r.overlaps q = .ok false := rfl
  have hsq' : s.covers q = .ok true := rfl
  obtain rfl := Except.ok.inj (hrs'.symm.trans hrs)
  obtain rfl := Except.ok.inj (hrq'.symm.trans hrq)
  obtain rfl := Except.ok.inj (hsq'.symm.trans hsq)
  have hsome : u ≠ none := by
    obtain rfl := Except.ok.inj ((rfl : r.intersect q = .ok (some ⟨c, c⟩)).symm.trans hu)
    exact nofun
  exact ⟨r, s, q, by decide, hr, hs, hq, ⟨hrs', hmember.1 rfl⟩, ⟨hrq', fun h => nomatch hno.2 h⟩,
    Classical.not_not.1 (mt hnone.2 hsome), rfl, hsq', hsub.1 rfl⟩

end Range

end Caret
