/-
  Inside one text all measures agree.

  Going on in a text makes its index larger, and its row, or the column on the same row: every
  measure orders the positions of a text as their offsets. So it does not matter in which measure
  ranges are asked for, and the answers are those of intervals of integers.

  * `Kind.part`: a composite in one measure;
  * `EndsAt.orderedAlike_append`, `EndsAt.order_append`: a longer text ends later in every measure;
  * `EndsAt.saturatingSub_append`: what is between two positions has their difference as its end;
  * `PlaceAt`, `PartAt`: the positions of a text by their offsets, and these in one measure;
  * `ranked_partAt`: the positions of a text in any measure have their offsets as ranks;
  * `Range.AnswersAs`: the queries of a range read as those of intervals of integers;
  * `measures_agree_within_text`: what this says of comparisons and ranges.
-/
import Caret.Proofs.Measure.Concatenation
import Caret.Proofs.Position.Difference
import Caret.Proofs.Range.Ranked
import Mathlib.Order.Interval.Finset.Nat

namespace Caret

open PositionKind (test)

/-! ## One measure of a composite -/

/-- The part of a composite that is of kind `k`. -/
def Kind.part : (k : Kind) → Composite → k.Place
  | .byteIndex, c => c.index
  | .rowColumn .utf8, c => c.utf8
  | .rowColumn .utf16, c => c.utf16
  | .composite, c => c

namespace Composite.OrderedAlike

variable {a b : Composite}

theorem order_part (h : a.OrderedAlike b) :
    ∀ k : Kind, PositionKind.order (k.part a) (k.part b) = a.index.order b.index
  | .byteIndex => rfl
  | .rowColumn .utf8 => h.1
  | .rowColumn .utf16 => h.2
  | .composite => h.order_eq

theorem comparable_part (h : a.OrderedAlike b) :
    ∀ k : Kind, PositionKind.comparable (k.part a) (k.part b) = .ok ()
  | .byteIndex => rfl
  | .rowColumn .utf8 => rfl
  | .rowColumn .utf16 => rfl
  | .composite => comparable_of_orderedAlike h

end Composite.OrderedAlike

namespace Text

variable {t x y : Text} {a b d p q : Composite} {i j : ℕ}

/-! ## Going on in a text -/

/-- The end of a concatenation is reached from the end of its first part, whatever is watched. -/
theorem EndsAt.add_between (hx : x.EndsAt a) (hy : y.EndsAt d) (hxy : (x ++ y).EndsAt b) :
    ∃ s, a.add d = .ok s ∧ s.SamePlace b := by
  have hs : (x ++ y).EndsAt { b with checked := a.checked || d.checked } :=
    hxy.congr (b.samePlace_watched _)
  exact ⟨_, (hx.add_eq_ok_iff hy).2 ⟨hs, rfl⟩, hs.samePlace hxy⟩

theorem EndsAt.orderedAlike_append (hx : x.EndsAt a) (hxy : (x ++ y).EndsAt b) :
    a.OrderedAlike b := by
  obtain ⟨d, hd, -⟩ := hxy.exists_of_infix ⟨x, [], List.append_nil _⟩ false
  obtain ⟨s, hs, hsame⟩ := hx.add_between hd hxy
  have halike := (hd.consistent.orderedAlike_of_add hs).1
  rw [Composite.OrderedAlike, hsame.index_eq, hsame.utf8_eq, hsame.utf16_eq] at halike
  exact halike

/-- Every code point takes a byte at least. -/
theorem EndsAt.order_append (hx : x.EndsAt a) (hxy : (x ++ y).EndsAt b) (hy : y ≠ []) :
    a.index.order b.index = .lt := by
  have hpos := List.length_pos_of_ne_nil hy
  have hlen := length_le_bytes y
  rw [ByteIndex.order_eq_lt_iff, hx.index_eq, hxy.index_eq, bytes_append]
  omega

/-- The difference of two ends is the end of what is between them, whatever is watched. -/
theorem EndsAt.saturatingSub_append (hx : x.EndsAt a) (hy : y.EndsAt d)
    (hxy : (x ++ y).EndsAt b) : ∃ e, b.saturatingSub a = .ok e ∧ e.SamePlace d := by
  obtain ⟨s, hs, hsame⟩ := hx.add_between hy hxy
  obtain ⟨hi, h8, h16⟩ := Composite.SamePlace.of_add_monus hs hsame
  have hcomparable : b.comparable a = .ok () :=
    Composite.comparable_of_orderedAlike (hx.orderedAlike_append hxy).symm
  refine ⟨⟨d.index, d.utf8, d.utf16, b.checked || a.checked⟩, ?_, rfl, rfl, rfl⟩
  rw [Composite.saturatingSub_eq_ok_iff, ← hi, ← h8, ← h16]
  exact ⟨hcomparable, rfl, fun _ => (d.samePlace_watched _).consistent hy.consistent⟩

/-! ## Positions by offset -/

/-- The position `p`, watched or not, is the one behind the first `i` code points of `t`. -/
structure PlaceAt (t : Text) (p : Composite) (i : ℕ) : Prop where
  le_length : i ≤ t.length
  exists_measure : ∃ checked, measure (t.take i) checked = .ok p

theorem PlaceAt.endsAt (h : t.PlaceAt p i) : EndsAt (t.take i) p := by
  obtain ⟨-, checked, hp⟩ := h
  exact (measure_eq_ok_iff.1 hp).1

theorem take_append_slice (t : Text) (h : i ≤ j) : t.take i ++ (t.take j).drop i = t.take j := by
  conv_rhs => rw [← List.take_append_drop i (t.take j), List.take_take, Nat.min_eq_left h]

theorem PlaceAt.orderedAlike_of_le (hp : t.PlaceAt p i) (hq : t.PlaceAt q j) (h : i ≤ j) :
    p.OrderedAlike q := by
  have hq' := hq.endsAt
  rw [← take_append_slice t h] at hq'
  exact hp.endsAt.orderedAlike_append hq'

theorem PlaceAt.order_of_lt (hp : t.PlaceAt p i) (hq : t.PlaceAt q j) (h : i < j) :
    p.index.order q.index = .lt := by
  have hq' := hq.endsAt
  rw [← take_append_slice t h.le] at hq'
  refine hp.endsAt.order_append hq' fun hnil => ?_
  have hlen := congrArg List.length hnil
  have hle := hq.le_length
  simp only [List.length_drop, List.length_take, List.length_nil] at hlen
  omega

theorem PlaceAt.orderedAlike (hp : t.PlaceAt p i) (hq : t.PlaceAt q j) : p.OrderedAlike q := by
  rcases Nat.le_total i j with h | h
  · exact hp.orderedAlike_of_le hq h
  · exact (hq.orderedAlike_of_le hp h).symm

theorem PlaceAt.order_eq (hp : t.PlaceAt p i) (hq : t.PlaceAt q j) :
    p.index.order q.index = compare i j := by
  rcases lt_trichotomy i j with h | rfl | h
  · rw [hp.order_of_lt hq h, compare_lt_iff_lt.2 h]
  · rw [ByteIndex.order_eq_eq_iff.2 (hp.endsAt.samePlace hq.endsAt).index_eq,
      compare_eq_iff_eq.2 rfl]
  · rw [← ByteIndex.order_swap, hq.order_of_lt hp h, compare_gt_iff_gt.2 h]
    rfl

/-- The position `place` of kind `k` is that of offset `i`. -/
def PartAt (t : Text) (k : Kind) (place : k.Place) (i : ℕ) : Prop :=
  ∃ p, t.PlaceAt p i ∧ k.part p = place

theorem PlaceAt.part (k : Kind) (hp : t.PlaceAt p i) : t.PartAt k (k.part p) i :=
  ⟨p, hp, rfl⟩

/-- **Every measure sees the positions of a text in the order of their offsets.** -/
theorem ranked_partAt (t : Text) (k : Kind) : Ranked (t.PartAt k) where
  comparable_eq_ok := by
    rintro _ _ i j ⟨p, hp, rfl⟩ ⟨q, hq, rfl⟩
    exact (hp.orderedAlike hq).comparable_part k
  order_eq := by
    rintro _ _ i j ⟨p, hp, rfl⟩ ⟨q, hq, rfl⟩
    rw [(hp.orderedAlike hq).order_part k, hp.order_eq hq]

theorem ranked_placeAt (t : Text) : Ranked t.PlaceAt where
  comparable_eq_ok hp hq := (t.ranked_partAt .composite).comparable_eq_ok (hp.part _) (hq.part _)
  order_eq hp hq := (t.ranked_partAt .composite).order_eq (hp.part _) (hq.part _)

end Text

/-! ## Ranges by offset -/

/-- What is asked of the range `r`, also with the range `s` and the position `p`, is answered as of
    the integers from `i` to `j`, those from `i'` to `j'`, and `m`. -/
structure Range.AnswersAs {P : Type} [PositionKind P] (r s : Range P) (p : P) (i j i' j' m : ℕ) :
    Prop where
  isEmpty_eq : r.isEmpty = .ok (decide (Finset.Ico i j = ∅))
  contains_eq : r.contains p = .ok (decide (m ∈ Finset.Ico i j))
  containsInclusive_eq : r.containsInclusive p = .ok (decide (m ∈ Finset.Icc i j))
  covers_eq : r.covers s = .ok (decide (Finset.Icc i' j' ⊆ Finset.Icc i j))
  overlaps_eq : r.overlaps s = .ok (decide (Finset.Ico i j ∩ Finset.Ico i' j').Nonempty)

theorem Range.Spans.answersAs {P : Type} [PositionKind P] {rank : P → ℕ → Prop}
    (h : Ranked rank) {r s : Range P} {p : P} {i j i' j' m : ℕ} (hr : r.Spans rank i j)
    (hs : s.Spans rank i' j') (hp : rank p m) : r.AnswersAs s p i j i' j' m where
  isEmpty_eq := by
    rw [hr.isEmpty_eq h]
    simp only [Finset.Ico_eq_empty_iff, not_lt, hr.le.ge_iff_eq]
  contains_eq := by
    rw [hr.contains_eq h hp]
    simp only [Finset.mem_Ico]
  containsInclusive_eq := by
    rw [hr.containsInclusive_eq h hp]
    simp only [Finset.mem_Icc]
  covers_eq := by
    rw [hr.covers_eq h hs]
    simp only [Finset.Icc_subset_Icc_iff hs.le]
  overlaps_eq := by
    rw [hr.overlaps_eq h hs]
    simp only [Finset.Ico_inter_Ico, Finset.nonempty_Ico]

namespace Text

variable {t : Text} {R S : Range Composite} {i j i' j' : ℕ}

/-- The end of a range is behind its start by what the range holds. -/
theorem len_of_spans (hR : R.Spans t.PlaceAt i j) :
    ∃ d, R.len = .ok d ∧ ∀ checked, ∃ e, measure ((t.take j).drop i) checked = .ok e ∧
      test .eq d e = .ok true := by
  have hj := hR.stop.endsAt
  rw [← take_append_slice t hR.le] at hj
  have hslice (checked : Bool) := hj.exists_of_infix ⟨t.take i, [], List.append_nil _⟩ checked
  obtain ⟨e, he, -⟩ := hslice false
  obtain ⟨d, hd, hsame⟩ := hR.start.endsAt.saturatingSub_append he hj
  refine ⟨d, hd, fun checked => ?_⟩
  obtain ⟨e', he', hk⟩ := hslice checked
  exact ⟨e', measure_eq_ok_iff.2 ⟨he', hk⟩, (hsame.trans (he.samePlace he')).test_eq⟩

theorem intersect_of_spans (hR : R.Spans t.PlaceAt i j) (hS : S.Spans t.PlaceAt i' j') :
    (Finset.Icc i j ∩ Finset.Icc i' j' = ∅ → R.intersect S = .ok none) ∧
    (Finset.Icc i j ∩ Finset.Icc i' j' ≠ ∅ → ∃ u, R.intersect S = .ok (some u) ∧
      u.Spans t.PlaceAt (max i i') (min j j')) := by
  have hcommon : Finset.Icc i j ∩ Finset.Icc i' j' = Finset.Icc (max i i') (min j j') := by
    ext n
    simp only [Finset.mem_inter, Finset.mem_Icc]
    omega
  rw [hcommon, hR.intersect_eq t.ranked_placeAt hS, Ne, Finset.Icc_eq_empty_iff, not_le]
  constructor
  · intro hlt
    rw [if_pos hlt]
  · intro hle
    rw [if_neg hle]
    exact ⟨_, rfl, hR.intersect hS (Nat.le_of_not_lt hle)⟩

/-- **Inside one text all measures agree.** Take an encodable text within the limit. The positions
    of its offsets, watched or not, are compared in every measure as the offsets. Ranges between
    them answer in every measure as intervals of integers; their common part and their hull do not
    depend on the measure either; and the length of a range is the measure of what it holds. -/
theorem measures_agree_within_text (t : Text) (ht : t.Encodable)
    (hb : t.bytes ≤ Coordinate.limit) :
    (∀ i ≤ t.length, ∀ checked, ∃ p, measure (t.take i) checked = .ok p) ∧
    (∀ p q i j, t.PlaceAt p i → t.PlaceAt q j → ∀ (k : Kind) (c : Comparison),
      test c (k.part p) (k.part q) = .ok (c.between i j)) ∧
    ∀ R i j, Range.Spans t.PlaceAt R i j →
      (∀ k : Kind, Range.of (k.part R.start) (k.part R.stop) = .ok (R.map k.part)) ∧
      (∃ d, R.len = .ok d ∧ ∀ checked, ∃ e, measure ((t.take j).drop i) checked = .ok e ∧
        test .eq d e = .ok true) ∧
      ∀ S i' j', Range.Spans t.PlaceAt S i' j' →
        (∀ p m, t.PlaceAt p m → ∀ k : Kind,
          (R.map k.part).AnswersAs (S.map k.part) (k.part p) i j i' j' m) ∧
        (∀ k : Kind,
          (R.map k.part).intersect (S.map k.part) =
            (R.intersect S).map (Option.map (Range.map k.part)) ∧
          (R.map k.part).cover (S.map k.part) = (R.cover S).map (Range.map k.part)) ∧
        (Finset.Icc i j ∩ Finset.Icc i' j' = ∅ → R.intersect S = .ok none) ∧
        (Finset.Icc i j ∩ Finset.Icc i' j' ≠ ∅ → ∃ u, R.intersect S = .ok (some u) ∧
          u.Spans t.PlaceAt (max i i') (min j j')) ∧
        ∃ u, R.cover S = .ok u ∧ u.Spans t.PlaceAt (min i i') (max j j') := by
  have hpart (k : Kind) (p : Composite) (i : ℕ) (hp : t.PlaceAt p i) := hp.part k
  refine ⟨?_, ?_, ?_⟩
  · intro i _ checked
    obtain ⟨c, hc, -⟩ := exists_endsAt ht hb false
    obtain ⟨p, hp⟩ := hc.exists_of_infix (t.take_prefix i).isInfix checked
    exact ⟨p, measure_eq_ok_iff.2 hp⟩
  · intro p q i j hp hq k c
    exact (t.ranked_partAt k).test_eq (hp.part k) (hq.part k) c
  · intro R i j hR
    refine ⟨?_, len_of_spans hR, ?_⟩
    · intro k
      exact Range.of_eq (t.ranked_partAt k) (hR.start.part k) (hR.stop.part k) hR.le
    · intro S i' j' hS
      obtain ⟨hnone, hsome⟩ := intersect_of_spans hR hS
      refine ⟨?_, ?_, hnone, hsome, ?_⟩
      · intro p m hp k
        exact (hR.map (hpart k)).answersAs (t.ranked_partAt k) (hS.map (hpart k)) (hp.part k)
      · intro k
        exact ⟨hR.intersect_map t.ranked_placeAt (t.ranked_partAt k) (hpart k) hS,
          hR.cover_map t.ranked_placeAt (t.ranked_partAt k) (hpart k) hS⟩
      · exact ⟨_, hR.cover_eq t.ranked_placeAt hS, hR.cover hS⟩

/-- Over a line end and a surrogate pair, with one end of each range watched. -/
theorem measures_agree_within_two_lines :
    let t : Text := "é\r\n𝄞a"
    t.Encodable ∧ t.bytes ≤ Coordinate.limit ∧ ∃ R S p u d e, Range.Spans t.PlaceAt R 1 4 ∧
      Range.Spans t.PlaceAt S 3 5 ∧ t.PlaceAt p 3 ∧
      (∀ k : Kind, (R.map k.part).contains (k.part p) = .ok true ∧
        (R.map k.part).overlaps (S.map k.part) = .ok true ∧
        (R.map k.part).covers (S.map k.part) = .ok false) ∧
      R.intersect S = .ok (some u) ∧ u.Spans t.PlaceAt 3 4 ∧
      R.len = .ok d ∧ measure "\r\n𝄞" true = .ok e ∧ test .eq d e = .ok true := by
  intro t
  have ht : t.Encodable := by decide
  have hb : t.bytes ≤ Coordinate.limit := by decide
  obtain ⟨hplace, -, hrange⟩ := measures_agree_within_text t ht hb
  obtain ⟨p₁, h₁⟩ := hplace 1 (by decide) true
  obtain ⟨p₃, h₃⟩ := hplace 3 (by decide) false
  obtain ⟨p₄, h₄⟩ := hplace 4 (by decide) false
  obtain ⟨p₅, h₅⟩ := hplace 5 (by decide) true
  have hR : Range.Spans t.PlaceAt ⟨p₁, p₄⟩ 1 4 :=
    ⟨⟨by decide, _, h₁⟩, ⟨by decide, _, h₄⟩, by decide⟩
  have hS : Range.Spans t.PlaceAt ⟨p₃, p₅⟩ 3 5 :=
    ⟨⟨by decide, _, h₃⟩, ⟨by decide, _, h₅⟩, by decide⟩
  obtain ⟨-, ⟨d, hd, hlen⟩, hpair⟩ := hrange _ 1 4 hR
  obtain ⟨hanswers, -, -, hcommon, -⟩ := hpair _ 3 5 hS
  obtain ⟨u, hu, hspans⟩ := hcommon (by decide)
  obtain ⟨e, he, hde⟩ := hlen true
  refine ⟨ht, hb, _, _, p₃, u, d, e, hR, hS, hS.start, fun k => ?_, hu, hspans, hd, he, hde⟩
  have hk := hanswers p₃ 3 hS.start k
  exact ⟨hk.contains_eq, hk.overlaps_eq, hk.covers_eq⟩

end Text

end Caret
