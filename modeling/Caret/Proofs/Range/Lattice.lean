/-
  Hulls and common parts obey the laws of a lattice.

  Where positions are known by their ranks, hulls are the joins of intervals and common parts their
  meets, and ranges are known by these intervals. So every law of the lattice of intervals is one
  of ranges, where no common part is the empty interval.

  * `At.cover_eq_ok`, `CommonAt.common_eq_ok`: hulls and common parts by their intervals;
  * `At.cover_comm`, `At.cover_assoc`, `At.cover_eq_self_iff`: hulls;
  * `CommonAt.common_comm`, `CommonAt.common_assoc`, `At.intersect_eq_self_iff`: common parts;
  * `At.intersect_cover`, `At.cover_intersect`: absorption;
  * `cover_intersect_laws`: what this says of the kinds of position.
-/
import Caret.Proofs.Position.Numbers
import Caret.Proofs.Range.Interval

namespace Caret.Range

variable {P α : Type} [PositionKind P] [LinearOrder α] {rank : P → α → Prop} {r s t c : Range P}
  {u v w : Option (Range P)} {I J K : NonemptyInterval α} {L M N : Interval α}

/-! ## Hulls -/

theorem At.cover_eq_ok (h : Faithful rank) (hr : r.At rank I) (hs : s.At rank J)
    (hc : c.At rank (I ⊔ J)) : r.cover s = .ok c := by
  obtain ⟨d, hd, hat⟩ := hr.cover h.toRanked hs
  rw [hd, hat.eq h hc]

theorem At.cover_comm (h : Faithful rank) (hr : r.At rank I) (hs : s.At rank J) :
    r.cover s = s.cover r := by
  obtain ⟨c, hc, hat⟩ := hr.cover h.toRanked hs
  rw [sup_comm] at hat
  rw [hc, hs.cover_eq_ok h hr hat]

theorem At.cover_assoc (h : Faithful rank) (hr : r.At rank I) (hs : s.At rank J)
    (ht : t.At rank K) : ∃ c, (r.cover s >>= (·.cover t)) = .ok c ∧
      (s.cover t >>= r.cover) = .ok c := by
  obtain ⟨rs, hrs, hrsAt⟩ := hr.cover h.toRanked hs
  obtain ⟨st, hst, hstAt⟩ := hs.cover h.toRanked ht
  obtain ⟨c, hc, hat⟩ := hrsAt.cover h.toRanked ht
  rw [hrs, hst]
  refine ⟨c, hc, hr.cover_eq_ok h hstAt ?_⟩
  rwa [← sup_assoc]

/-- The hull is the least range that covers both. -/
theorem At.exists_least_cover (h : Ranked rank) (hr : r.At rank I) (hs : s.At rank J) :
    ∃ c, r.cover s = .ok c ∧ c.At rank (I ⊔ J) ∧ c.covers r = .ok true ∧ c.covers s = .ok true ∧
      ∀ (u : Range P) (K), u.At rank K → u.covers r = .ok true → u.covers s = .ok true →
        u.covers c = .ok true := by
  obtain ⟨c, hc, hat⟩ := hr.cover h hs
  refine ⟨c, hc, hat, ?_, ?_, fun u K hu hur hus => ?_⟩
  · exact (hat.covers_iff h hr).2 le_sup_left
  · exact (hat.covers_iff h hs).2 le_sup_right
  · exact (hu.covers_iff h hat).2
      (sup_le ((hu.covers_iff h hr).1 hur) ((hu.covers_iff h hs).1 hus))

theorem At.cover_eq_self_iff (h : Faithful rank) (hr : r.At rank I) (hs : s.At rank J) :
    r.cover s = .ok r ↔ r.covers s = .ok true := by
  obtain ⟨c, hc, hat⟩ := hr.cover h.toRanked hs
  rw [hr.covers_iff h.toRanked hs, hc, ← sup_eq_left]
  constructor
  · rintro ⟨⟩
    exact hat.unique h.toRanked hr
  · intro heq
    rw [heq] at hat
    rw [hat.eq h hr]

/-! ## Common parts -/

theorem CommonAt.common_eq_ok (h : Faithful rank) (hu : CommonAt rank u L) (hv : CommonAt rank v M)
    (hw : CommonAt rank w (L ⊓ M)) : Range.common u v = .ok w := by
  obtain ⟨w', hw', hat⟩ := hu.common h.toRanked hv
  rw [hw', hat.eq h hw]

theorem CommonAt.common_comm (h : Faithful rank) (hu : CommonAt rank u L)
    (hv : CommonAt rank v M) : Range.common u v = Range.common v u := by
  obtain ⟨w, hw, hat⟩ := hu.common h.toRanked hv
  rw [inf_comm] at hat
  rw [hw, hv.common_eq_ok h hu hat]

theorem CommonAt.common_assoc (h : Faithful rank) (hu : CommonAt rank u L)
    (hv : CommonAt rank v M) (hw : CommonAt rank w N) :
    ∃ c, (Range.common u v >>= (Range.common · w)) = .ok c ∧
      (Range.common v w >>= Range.common u) = .ok c := by
  obtain ⟨uv, huv, huvAt⟩ := hu.common h.toRanked hv
  obtain ⟨vw, hvw, hvwAt⟩ := hv.common h.toRanked hw
  obtain ⟨c, hc, hat⟩ := huvAt.common h.toRanked hw
  rw [huv, hvw]
  refine ⟨c, hc, hu.common_eq_ok h hvwAt ?_⟩
  rwa [← inf_assoc]

theorem At.intersect_eq_self_iff (h : Faithful rank) (hr : r.At rank I) (hs : s.At rank J) :
    r.intersect s = .ok (some s) ↔ r.covers s = .ok true := by
  obtain ⟨u, hu, hat⟩ := hr.intersect h.toRanked hs
  rw [hr.covers_iff h.toRanked hs, hu, ← Interval.coe_le_coe, ← inf_eq_right]
  constructor
  · rintro ⟨⟩
    exact hat.unique h.toRanked (.some hs)
  · intro heq
    rw [heq] at hat
    rw [hat.eq h (.some hs)]

/-! ## Absorption -/

theorem At.intersect_cover (h : Faithful rank) (hr : r.At rank I) (hs : s.At rank J) :
    (r.cover s >>= r.intersect) = .ok (some r) := by
  obtain ⟨c, hc, hat⟩ := hr.cover h.toRanked hs
  have hcovers : c.covers r = .ok true := (hat.covers_iff h.toRanked hr).2 le_sup_left
  rw [hc]
  exact (CommonAt.common_comm h (.some hr) (.some hat)).trans
    ((hat.intersect_eq_self_iff h hr).2 hcovers)

theorem At.cover_intersect (h : Faithful rank) (hr : r.At rank I) (hs : s.At rank J)
    (ht : r.intersect s = .ok (some t)) : r.cover t = .ok r := by
  obtain ⟨u, hu, hat⟩ := hr.intersect h.toRanked hs
  obtain rfl := Except.ok.inj (hu.symm.trans ht)
  generalize hK : (I ⊓ J : Interval α) = K at hat
  cases hat with
  | some htAt =>
    have hle := Interval.coe_le_coe.1 (hK ▸ inf_le_left)
    exact (hr.cover_eq_self_iff h htAt).2 ((hr.covers_iff h.toRanked htAt).2 hle)

/-! ## Every kind -/

/-- **Hulls and common parts form a lattice.** Take ranges of one kind that are not watched. Their
    hull is the least range that covers them; it does not matter in which order ranges are joined,
    or positions taken in, also if there are more than two. Nor does it matter for common parts, be
    there some or none. Each of the two operations absorbs the other; and one range covers another
    one exactly if it is their hull, and exactly if the other one is their common part. That two
    such ranges compare as equal is that they are the same. -/
theorem cover_intersect_laws (k : Kind) {r s t : Range k.Place} (hr : k.Free r) (hs : k.Free s)
    (ht : k.Free t) :
    (∃ c, r.cover s = .ok c ∧ k.Free c ∧ c.covers r = .ok true ∧ c.covers s = .ok true ∧
      ∀ u, k.Free u → u.covers r = .ok true → u.covers s = .ok true → u.covers c = .ok true) ∧
    r.cover s = s.cover r ∧
    (∃ c, (r.cover s >>= (·.cover t)) = .ok c ∧ (s.cover t >>= r.cover) = .ok c) ∧
    r.cover r = .ok r ∧
    (∀ (rs : List (Range k.Place)) r' rs', (∀ u ∈ r :: rs, k.Free u) →
      (r :: rs).Perm (r' :: rs') →
      ∃ c, rs.foldlM cover r = .ok c ∧ rs'.foldlM cover r' = .ok c) ∧
    (∀ ps ps' : List k.Place, (∀ p ∈ ps, k.Unwatched p) → ps.Perm ps' →
      ∃ c, ps.foldlM coverPosition r = .ok c ∧ ps'.foldlM coverPosition r = .ok c) ∧
    (∀ (p : k.Place) ps p' ps', (∀ q ∈ p :: ps, k.Unwatched q) → (p :: ps).Perm (p' :: ps') →
      ∃ c, (empty p >>= fun e => ps.foldlM coverPosition e) = .ok c ∧
        (empty p' >>= fun e => ps'.foldlM coverPosition e) = .ok c) ∧
    (∃ u, r.intersect s = .ok u ∧ s.intersect r = .ok u) ∧
    (∃ u, (r.intersect s >>= (common · (some t))) = .ok u ∧
      (s.intersect t >>= common (some r)) = .ok u) ∧
    r.intersect r = .ok (some r) ∧
    (r.cover s >>= r.intersect) = .ok (some r) ∧
    (∀ u, r.intersect s = .ok (some u) → r.cover u = .ok r) ∧
    (∃ b, r.covers s = .ok b) ∧
    (r.covers s = .ok true ↔ r.cover s = .ok r) ∧
    (r.covers s = .ok true ↔ r.intersect s = .ok (some s)) ∧
    ∀ u v : Range k.Place, k.Free u → k.Free v → (u.test .eq v = .ok true ↔ u = v) := by
  have h := k.faithful_hasNumbers
  have hranked (ps : List k.Place) (hps : ∀ p ∈ ps, k.Unwatched p) :
      ∀ p ∈ ps, ∃ x, k.HasNumbers p x := fun p hp => ⟨_, (hps p hp).hasNumbers⟩
  obtain ⟨I, hrI⟩ := hr.exists_at
  obtain ⟨J, hsJ⟩ := hs.exists_at
  obtain ⟨K, htK⟩ := ht.exists_at
  have hself : r.covers r = .ok true := (hrI.covers_iff h.toRanked hrI).2 le_rfl
  have hcoverSelf : r.cover r = .ok r := (hrI.cover_eq_self_iff h hrI).2 hself
  have hcommonSelf : r.intersect r = .ok (some r) := (hrI.intersect_eq_self_iff h hrI).2 hself
  have hassoc := CommonAt.common_assoc h (.some hrI) (.some hsJ) (.some htK)
  refine ⟨?_, hrI.cover_comm h hsJ, hrI.cover_assoc h hsJ htK, hcoverSelf, ?_, ?_, ?_, ?_, hassoc,
    hcommonSelf, hrI.intersect_cover h hsJ, fun u hu => hrI.cover_intersect h hsJ hu,
    ⟨_, hrI.covers_eq h.toRanked hsJ⟩, (hrI.cover_eq_self_iff h hsJ).symm,
    (hrI.intersect_eq_self_iff h hsJ).symm, ?_⟩
  · obtain ⟨c, hc, hat, hcr, hcs, hleast⟩ := hrI.exists_least_cover h.toRanked hsJ
    refine ⟨c, hc, Kind.free_of_spans hat, hcr, hcs, fun u hu => ?_⟩
    obtain ⟨L, huL⟩ := hu.exists_at
    exact hleast u L huL
  · intro rs r' rs' hall hperm
    exact foldlM_cover_perm h (fun u hu => (hall u hu).exists_at) hperm
  · intro ps ps' hall hperm
    exact foldlM_coverPosition_perm h hrI (hranked ps hall) hperm
  · intro p ps p' ps' hall hperm
    exact empty_foldlM_coverPosition_perm h (hranked _ hall) hperm
  · obtain ⟨u, hu, -⟩ := hrI.intersect h.toRanked hsJ
    have hcomm := CommonAt.common_comm h (.some hrI) (.some hsJ)
    exact ⟨u, hu, hcomm.symm.trans hu⟩
  · intro u v hu hv
    obtain ⟨L, huL⟩ := hu.exists_at
    obtain ⟨M, hvM⟩ := hv.exists_at
    exact huL.test_eq_iff_eq h hvM

/-- The first two ranges overlap and the third one meets neither, so brackets find that nothing is
    common at different times. No text has these composites. -/
theorem cover_intersect_laws_where_nothing_is_common :
    ∃ r s t : Range Composite, ¬r.start.Consistent ∧ Kind.composite.Free r ∧
      Kind.composite.Free s ∧ Kind.composite.Free t ∧
      (∃ c, r.cover s = .ok c ∧ s.cover r = .ok c ∧ c ≠ r ∧ c ≠ s) ∧
      (∃ u, r.intersect s = .ok (some u) ∧ s.intersect r = .ok (some u) ∧ r.cover u = .ok r) ∧
      s.intersect t = .ok none ∧ (r.intersect s >>= (common · (some t))) = .ok none ∧
      ∃ c, [s, t].foldlM cover r = .ok c ∧ [r, s].foldlM cover t = .ok c := by
  let a : Composite := ⟨⟨3⟩, ⟨2, 0⟩, ⟨0, 9⟩, false⟩
  let b : Composite := ⟨⟨3⟩, ⟨2, 0⟩, ⟨1, 0⟩, false⟩
  let c : Composite := ⟨⟨3⟩, ⟨2, 1⟩, ⟨0, 0⟩, false⟩
  let d : Composite := ⟨⟨4⟩, ⟨0, 0⟩, ⟨0, 0⟩, false⟩
  let e : Composite := ⟨⟨4294967295⟩, ⟨0, 0⟩, ⟨0, 0⟩, false⟩
  let r : Range Composite := ⟨a, c⟩
  let s : Range Composite := ⟨b, d⟩
  let t : Range Composite := ⟨e, e⟩
  have hr : Kind.composite.Free r := ⟨⟨by decide, rfl⟩, rfl, rfl⟩
  have hs : Kind.composite.Free s := ⟨⟨by decide, rfl⟩, rfl, rfl⟩
  have ht : Kind.composite.Free t := ⟨⟨by decide, rfl⟩, rfl, rfl⟩
  obtain ⟨-, hcover, -, -, hfold, -, -, ⟨u, hu, hu'⟩, ⟨v, hv, hv'⟩, -, -, habsorb, -⟩ :=
    cover_intersect_laws .composite hr hs ht
  have hrs : r.cover s = .ok ⟨a, d⟩ := rfl
  have hst : s.intersect t = .ok none := rfl
  obtain rfl := Except.ok.inj ((rfl : r.intersect s = .ok (some ⟨b, c⟩)).symm.trans hu)
  rw [hst] at hv'
  obtain rfl := Except.ok.inj hv'
  refine ⟨r, s, t, by decide, hr, hs, ht, ⟨_, hrs, hcover.symm.trans hrs, by decide, by decide⟩,
    ⟨_, hu, hu', habsorb _ hu⟩, hst, hv, hfold [s, t] t [r, s] ?_ (by decide)⟩
  simp [hr, hs, ht]

end Caret.Range
