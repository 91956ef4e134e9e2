/-
  Ranges between ranked positions as intervals of ranks.

  The hull of two ranges is the join of their intervals, and their common part the meet, where no
  common part is the empty interval. Where positions are known by their ranks, ranges are known by
  their intervals, so that hulls and common parts obey the laws of a lattice.

  * `Faithful`: positions that are known by their ranks;
  * `Range.At`, `Range.CommonAt`: the interval of a range, and that of a common part if there is
    one;
  * `Range.point`: the empty range at a position;
  * `Range.common`: the common part of what may be no range;
  * `At.cover`, `CommonAt.common`: join and meet;
  * `At.covers_iff`, `At.test_eq_iff`: covering and equality;
  * `foldlM_cover`: the hull of several ranges is their least upper bound;
  * `At.eq`, `CommonAt.eq`: ranges that are known by their intervals;
  * `foldlM_cover_perm`, `foldlM_coverPosition_perm`, `empty_foldlM_coverPosition_perm`: these are
    joined in any order, and positions taken in.
-/
import Caret.Proofs.Range.Ranked
import Caret.Proofs.Refusal
import Mathlib.Order.Interval.Basic

namespace Caret

variable {P α : Type} [LinearOrder α] {rank : P → α → Prop}

/-! ## Positions that are known by their ranks -/

section

variable [PositionKind P]

/-- A position has one rank only, as it is equal to itself. -/
theorem Ranked.rank_unique (h : Ranked rank) {p : P} {x y : α} (hx : rank p x) (hy : rank p y) :
    x = y := by
  rw [← compare_eq_iff_eq, ← h.order_eq hx hy, h.order_eq hx hx, compare_eq_iff_eq]

/-- Ranked positions of which no two have the same rank. -/
structure Faithful (rank : P → α → Prop) : Prop extends Ranked rank where
  eq_of_rank {p q : P} {x : α} : rank p x → rank q x → p = q

end

namespace Range

/-! ## Intervals -/

/-- The ends of the range have the ranks of the ends of the interval. -/
def At (rank : P → α → Prop) (r : Range P) (I : NonemptyInterval α) : Prop :=
  r.Spans rank I.fst I.snd

/-- A range, or none, and its interval, which is empty if there is none. -/
inductive CommonAt (rank : P → α → Prop) : Option (Range P) → Interval α → Prop
  /-- There is no range. -/
  | none : CommonAt rank none ⊥
  /-- There is a range. -/
  | some {r : Range P} {I : NonemptyInterval α} (h : r.At rank I) : CommonAt rank (some r) I

theorem Spans.at {r : Range P} {x y : α} (h : r.Spans rank x y) : r.At rank ⟨⟨x, y⟩, h.le⟩ :=
  h

/-- The empty range at a position. -/
def point (p : P) : Range P :=
  ⟨p, p⟩

theorem point_at {p : P} {x : α} (hp : rank p x) : (point p).At rank (.pure x) :=
  ⟨hp, hp, le_rfl⟩

variable [PositionKind P]

/-- The common part of two ranges, of which there is none if one of them is none. -/
def common : Option (Range P) → Option (Range P) → Except Fault (Option (Range P))
  | some r, some s => r.intersect s
  | _, _ => .ok none

variable {r s : Range P} {p : P} {I J : NonemptyInterval α} {x : α}

theorem At.cover (h : Ranked rank) (hr : r.At rank I) (hs : s.At rank J) :
    ∃ c, r.cover s = .ok c ∧ c.At rank (I ⊔ J) :=
  ⟨_, hr.cover_eq h hs, Spans.cover hr hs⟩

theorem At.intersect (h : Ranked rank) (hr : r.At rank I) (hs : s.At rank J) :
    ∃ u, r.intersect s = .ok u ∧ CommonAt rank u (I ⊓ J : Interval α) := by
  refine ⟨_, hr.intersect_eq h hs, ?_⟩
  by_cases hlt : min I.snd J.snd < max I.fst J.fst
  · have hapart : ¬(I.fst ≤ J.snd ∧ J.fst ≤ I.snd) := by
      rintro ⟨hIJ, hJI⟩
      exact hlt.not_ge (max_le (le_min I.fst_le_snd hIJ) (le_min hJI J.fst_le_snd))
    rw [if_pos hlt, Interval.inf_coe, dif_neg hapart]
    exact .none
  · have hmeet := le_of_not_gt hlt
    have htouch : I.fst ≤ J.snd ∧ J.fst ≤ I.snd :=
      ⟨(le_max_left _ _).trans (hmeet.trans (min_le_right _ _)),
        (le_max_right _ _).trans (hmeet.trans (min_le_left _ _))⟩
    rw [if_neg hlt, Interval.inf_coe, dif_pos htouch]
    exact .some (Spans.intersect hr hs hmeet)

theorem CommonAt.common (h : Ranked rank) {u v : Option (Range P)} {K L : Interval α}
    (hu : CommonAt rank u K) (hv : CommonAt rank v L) :
    ∃ w, Range.common u v = .ok w ∧ CommonAt rank w (K ⊓ L) := by
  cases hu with
  | none => exact ⟨_, rfl, by rw [bot_inf_eq]; exact .none⟩
  | some hr =>
    cases hv with
    | none => exact ⟨_, rfl, by rw [inf_bot_eq]; exact .none⟩
    | some hs => exact hr.intersect h hs

theorem At.covers_eq (h : Ranked rank) (hr : r.At rank I) (hs : s.At rank J) :
    r.covers s = .ok (decide (J ≤ I)) := by
  rw [Spans.covers_eq h hr hs, decide_eq_decide.2 NonemptyInterval.le_def]

theorem At.covers_iff (h : Ranked rank) (hr : r.At rank I) (hs : s.At rank J) :
    r.covers s = .ok true ↔ J ≤ I := by
  rw [hr.covers_eq h hs, Except.ok.injEq, decide_eq_true_iff]

/-- Ranges are equal if both ends are. -/
theorem At.test_eq_iff (h : Ranked rank) (hr : r.At rank I) (hs : s.At rank J) :
    r.test .eq s = .ok true ↔ I = J := by
  have hstart : PositionKind.eq r.start s.start = .ok (decide (I.fst = J.fst)) :=
    h.test_eq hr.start hs.start .eq
  have hstop : PositionKind.eq r.stop s.stop = .ok (decide (I.snd = J.snd)) :=
    h.test_eq hr.stop hs.stop .eq
  have hext : I = J ↔ I.fst = J.fst ∧ I.snd = J.snd := by
    rw [NonemptyInterval.ext_iff, Prod.ext_iff]
  rw [Range.test, hstart, hext]
  by_cases hfst : I.fst = J.fst
  · by_cases hsnd : I.snd = J.snd
    · simp [hfst, hsnd, hstop, bind, Except.bind, pure, Except.pure, Comparison.holds]
    · simp [hfst, hsnd, hstop, bind, Except.bind, PositionKind.test]
  · simp [hfst, hstart, bind, Except.bind, PositionKind.test]

theorem empty_eq (h : Ranked rank) (hp : rank p x) : Range.empty p = .ok (point p) :=
  of_eq h hp hp le_rfl

theorem coverPosition_eq (h : Ranked rank) (hp : rank p x) :
    r.coverPosition p = r.cover (point p) := by
  rw [coverPosition, empty_eq h hp]
  rfl

/-- Taking in positions is taking in the empty ranges at them. -/
theorem foldlM_coverPosition_eq (h : Ranked rank) {ps : List P} (hps : ∀ p ∈ ps, ∃ x, rank p x) :
    ps.foldlM coverPosition r = (ps.map point).foldlM Range.cover r := by
  induction ps generalizing r with
  | nil => rfl
  | cons p ps ih =>
    obtain ⟨x, hp⟩ := hps p List.mem_cons_self
    rw [List.map_cons, List.foldlM_cons, List.foldlM_cons, coverPosition_eq h hp]
    exact congrArg _ (funext fun c => ih fun q hq => hps q (List.mem_cons_of_mem p hq))

/-- A range has one interval only. -/
theorem At.unique (h : Ranked rank) (hr : r.At rank I) (hr' : r.At rank J) : I = J := by
  have hfst : I.fst = J.fst := h.rank_unique hr.start hr'.start
  have hsnd : I.snd = J.snd := h.rank_unique hr.stop hr'.stop
  exact NonemptyInterval.ext (Prod.ext hfst hsnd)

theorem CommonAt.unique (h : Ranked rank) {u : Option (Range P)} {K L : Interval α}
    (hu : CommonAt rank u K) (hu' : CommonAt rank u L) : K = L := by
  cases hu with
  | none =>
    cases hu'
    rfl
  | some hr =>
    cases hu' with
    | some hr' => rw [hr.unique h hr']

/-! ## The hull of several ranges -/

/-- The intervals of several ranges. -/
def intervals (rank : P → α → Prop) (rs : List (Range P)) : Set (NonemptyInterval α) :=
  {J | ∃ s ∈ rs, s.At rank J}

theorem upperBounds_intervals_cons (h : Ranked rank) (hr : r.At rank I) (rs : List (Range P)) :
    upperBounds (intervals rank (r :: rs)) = Set.Ici I ∩ upperBounds (intervals rank rs) := by
  ext K
  constructor
  · intro hK
    exact ⟨hK ⟨r, List.mem_cons_self, hr⟩, fun J ⟨s, hs, hat⟩ =>
      hK ⟨s, List.mem_cons_of_mem r hs, hat⟩⟩
  · rintro ⟨hI, hrs⟩ J ⟨s, hs, hat⟩
    rcases List.mem_cons.1 hs with rfl | hs
    · exact hat.unique h hr ▸ hI
    · exact hrs ⟨s, hs, hat⟩

/-- The hull of several ranges is the least interval above all of theirs. -/
theorem foldlM_cover (h : Ranked rank) {rs : List (Range P)}
    (hall : ∀ s ∈ r :: rs, ∃ I, s.At rank I) :
    ∃ c K, rs.foldlM Range.cover r = .ok c ∧ c.At rank K ∧ IsLUB (intervals rank (r :: rs)) K := by
  obtain ⟨I, hr⟩ := hall r List.mem_cons_self
  induction rs generalizing r I with
  | nil =>
    refine ⟨r, I, rfl, hr, ?_, fun K hK => hK ⟨r, List.mem_cons_self, hr⟩⟩
    rintro J ⟨s, hs, hat⟩
    obtain rfl := List.mem_singleton.1 hs
    exact (hat.unique h hr).le
  | cons s rs ih =>
    obtain ⟨J, hs⟩ := hall s (List.mem_cons_of_mem r List.mem_cons_self)
    obtain ⟨c, hc, hat⟩ := hr.cover h hs
    have hrest : ∀ t ∈ c :: rs, ∃ I, t.At rank I := by
      intro t ht
      rcases List.mem_cons.1 ht with rfl | ht
      · exact ⟨_, hat⟩
      · exact hall t (List.mem_cons_of_mem r (List.mem_cons_of_mem s ht))
    obtain ⟨d, K, hd, hK, hleast⟩ := ih hrest _ hat
    refine ⟨d, K, ?_, hK, ?_⟩
    · rw [List.foldlM_cons, hc]
      exact hd
    · rw [IsLUB, upperBounds_intervals_cons h hat, ← Set.Ici_inter_Ici] at hleast
      rwa [IsLUB, upperBounds_intervals_cons h hr, upperBounds_intervals_cons h hs,
        ← Set.inter_assoc]

/-! ## Ranges that are known by their intervals -/

theorem At.eq (h : Faithful rank) (hr : r.At rank I) (hs : s.At rank I) : r = s :=
  Range.ext (h.eq_of_rank hr.start hs.start) (h.eq_of_rank hr.stop hs.stop)

theorem At.test_eq_iff_eq (h : Faithful rank) (hr : r.At rank I) (hs : s.At rank J) :
    r.test .eq s = .ok true ↔ r = s := by
  rw [hr.test_eq_iff h.toRanked hs]
  constructor
  · rintro rfl
    exact hr.eq h hs
  · rintro rfl
    exact hr.unique h.toRanked hs

theorem CommonAt.eq (h : Faithful rank) {u v : Option (Range P)} {K : Interval α}
    (hu : CommonAt rank u K) (hv : CommonAt rank v K) : u = v := by
  cases hu with
  | none =>
    cases hv
    rfl
  | some hr =>
    cases hv with
    | some hs => rw [hr.eq h hs]

/-- It does not matter in which order ranges are joined. -/
theorem foldlM_cover_perm (h : Faithful rank) {rs ss : List (Range P)}
    (hall : ∀ t ∈ r :: rs, ∃ J, t.At rank J) (hperm : (r :: rs).Perm (s :: ss)) :
    ∃ c, rs.foldlM Range.cover r = .ok c ∧ ss.foldlM Range.cover s = .ok c := by
  obtain ⟨c, K, hc, hcK, hK⟩ := foldlM_cover h.toRanked hall
  obtain ⟨d, L, hd, hdL, hL⟩ := foldlM_cover h.toRanked fun t ht => hall t (hperm.mem_iff.2 ht)
  have hset : intervals rank (r :: rs) = intervals rank (s :: ss) := by
    ext J
    exact exists_congr fun t => and_congr_left fun _ => hperm.mem_iff
  obtain rfl : K = L := hK.unique (hset ▸ hL)
  exact ⟨c, hc, hcK.eq h hdL ▸ hd⟩

/-- Nor does it matter in which order a range takes in positions. -/
theorem foldlM_coverPosition_perm (h : Faithful rank) {ps qs : List P} (hr : r.At rank I)
    (hall : ∀ p ∈ ps, ∃ x, rank p x) (hperm : ps.Perm qs) :
    ∃ c, ps.foldlM Range.coverPosition r = .ok c ∧ qs.foldlM Range.coverPosition r = .ok c := by
  rw [foldlM_coverPosition_eq h.toRanked hall,
    foldlM_coverPosition_eq h.toRanked fun q hq => hall q (hperm.mem_iff.2 hq)]
  refine foldlM_cover_perm h (fun t ht => ?_) ((hperm.map _).cons r)
  rcases List.mem_cons.1 ht with rfl | ht
  · exact ⟨I, hr⟩
  · obtain ⟨p, hp, rfl⟩ := List.mem_map.1 ht
    obtain ⟨x, hx⟩ := hall p hp
    exact ⟨.pure x, point_at hx⟩

/-- The first of several positions can be any of them. -/
theorem empty_foldlM_coverPosition_perm (h : Faithful rank) {p q : P} {ps qs : List P}
    (hall : ∀ p' ∈ p :: ps, ∃ x, rank p' x) (hperm : (p :: ps).Perm (q :: qs)) :
    ∃ c, (Range.empty p >>= fun r => ps.foldlM Range.coverPosition r) = .ok c ∧
      (Range.empty q >>= fun r => qs.foldlM Range.coverPosition r) = .ok c := by
  have hfold {p : P} {ps : List P} (hall : ∀ p' ∈ p :: ps, ∃ x, rank p' x) :
      (Range.empty p >>= fun r => ps.foldlM Range.coverPosition r) =
        (ps.map point).foldlM Range.cover (point p) := by
    obtain ⟨x, hx⟩ := hall p List.mem_cons_self
    rw [← foldlM_coverPosition_eq h.toRanked fun q hq => hall q (List.mem_cons_of_mem p hq),
      empty_eq h.toRanked hx]
    rfl
  have hpoints := hperm.map point
  rw [List.map_cons, List.map_cons] at hpoints
  rw [hfold hall, hfold fun q hq => hall q (hperm.mem_iff.2 hq)]
  refine foldlM_cover_perm h (fun t ht => ?_) hpoints
  rw [← List.map_cons] at ht
  obtain ⟨p, hp, rfl⟩ := List.mem_map.1 ht
  obtain ⟨x, hx⟩ := hall p hp
  exact ⟨.pure x, point_at hx⟩

end Range

end Caret
