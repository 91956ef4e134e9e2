/-
  Ranges from each of several positions to the next one.

  Positions that do not go back cut what lies between the first and the last of them into tiles,
  some of which may be empty. Tiles are apart but for their ends, and leave nothing out.

  * `tile`: the range from one position to the next one;
  * `of_eq_tile`: there is such a range;
  * `overlaps_tile`: two tiles do not overlap;
  * `intersect_tile_succ`: a tile and the next one have the position between them in common;
  * `existsUnique_contains_tile`: each position lies in one tile, and in one only;
  * `foldlM_cover_tile`: the tiles make up the range from the first position to the last one.
-/
import Caret.Proofs.Range.Interval
import Mathlib.Data.Nat.SuccPred
import Mathlib.Order.Interval.Set.Union
import Mathlib.Order.SuccPred.IntervalSucc

namespace Caret.Range

variable {P α : Type}

/-- The range from the `k`-th position to the next one. -/
def tile (b : ℕ → P) (k : ℕ) : Range P :=
  ⟨b k, b (k + 1)⟩

variable [LinearOrder α] {rank : P → α → Prop} {b : ℕ → P} {o : ℕ → α} {p : P} {x : α}
  {j k n : ℕ}

theorem tile_spans (hb : ∀ k, rank (b k) (o k)) (ho : Monotone o) (k : ℕ) :
    (tile b k).Spans rank (o k) (o (k + 1)) :=
  ⟨hb k, hb (k + 1), ho (Nat.le_succ k)⟩

variable [PositionKind P]

theorem of_eq_tile (h : Ranked rank) (hb : ∀ k, rank (b k) (o k)) (ho : Monotone o) (k : ℕ) :
    Range.of (b k) (b (k + 1)) = .ok (tile b k) :=
  of_eq h (hb k) (hb (k + 1)) (ho (Nat.le_succ k))

theorem overlaps_tile (h : Ranked rank) (hb : ∀ k, rank (b k) (o k)) (ho : Monotone o)
    (hjk : j ≠ k) : (tile b j).overlaps (tile b k) = .ok false := by
  rw [(tile_spans hb ho j).overlaps_eq h (tile_spans hb ho k)]
  have hapart : min (o (j + 1)) (o (k + 1)) ≤ max (o j) (o k) := by
    rcases Nat.lt_or_gt_of_ne hjk with hlt | hlt
    · exact (min_le_left _ _).trans ((ho hlt).trans (le_max_right _ _))
    · exact (min_le_right _ _).trans ((ho hlt).trans (le_max_left _ _))
  rw [decide_eq_false hapart.not_gt]

/-- What two tiles have in common has the rank of the position between them, and is at that position
    because there is no other one of this rank. -/
theorem intersect_tile_succ (h : Faithful rank) (hb : ∀ k, rank (b k) (o k)) (ho : Monotone o)
    (k : ℕ) : (tile b k).intersect (tile b (k + 1)) = .ok (some (point (b (k + 1)))) := by
  have hk := tile_spans hb ho k
  have hk' := tile_spans hb ho (k + 1)
  have hstart : max (o k) (o (k + 1)) = o (k + 1) := max_eq_right hk.le
  have hstop : min (o (k + 1)) (o (k + 1 + 1)) = o (k + 1) := min_eq_left hk'.le
  have hmeet := hk.intersect hk' (by rw [hstart, hstop])
  rw [hk.intersect_eq h.toRanked hk', if_neg (by rw [hstart, hstop]; exact lt_irrefl _)]
  rw [hstart, hstop] at hmeet
  rw [At.eq h hmeet.at (point_at (hb (k + 1)))]

theorem existsUnique_contains_tile (h : Ranked rank) (hb : ∀ k, rank (b k) (o k))
    (ho : Monotone o) (hp : rank p x) (hx : x ∈ Set.Ico (o 0) (o n)) :
    ∃! k, k < n ∧ (tile b k).contains p = .ok true := by
  have hcontains (k : ℕ) : (tile b k).contains p = .ok true ↔ x ∈ Set.Ico (o k) (o (k + 1)) := by
    rw [(tile_spans hb ho k).contains_eq h hp, Except.ok.injEq, decide_eq_true_iff, Set.mem_Ico]
  simp only [hcontains]
  obtain ⟨k, hk, hxk⟩ : ∃ k < n, x ∈ Set.Ico (o k) (o (k + 1)) := by
    obtain ⟨k, hk, hxk⟩ := Set.mem_iUnion₂.1 (Ico_subset_biUnion_Ico n o hx)
    exact ⟨k, Finset.mem_range.1 hk, hxk⟩
  refine ⟨k, ⟨hk, hxk⟩, ?_⟩
  rintro j ⟨-, hxj⟩
  by_contra hjk
  exact Set.disjoint_left.1 (ho.pairwise_disjoint_on_Ico_succ hjk) hxj hxk

/-- The interval of the whole is the least one above those of the tiles: its ends are those of the
    first tile and of the last one. -/
theorem foldlM_cover_tile (h : Ranked rank) (hb : ∀ k, rank (b k) (o k)) (ho : Monotone o)
    (hn : 0 < n) {r : Range P} {rs : List (Range P)}
    (hperm : (r :: rs).Perm ((List.range n).map (tile b))) :
    ∃ c, rs.foldlM Range.cover r = .ok c ∧ c.Spans rank (o 0) (o n) := by
  have hmem {s : Range P} : s ∈ r :: rs ↔ ∃ k < n, tile b k = s := by
    simp only [hperm.mem_iff, List.mem_map, List.mem_range]
  obtain ⟨c, K, hc, hat, hleast⟩ := foldlM_cover h fun s hs => by
    obtain ⟨k, -, rfl⟩ := hmem.1 hs
    exact ⟨_, (tile_spans hb ho k).at⟩
  have hwhole : IsLUB (intervals rank (r :: rs)) ⟨⟨o 0, o n⟩, ho (Nat.zero_le n)⟩ := by
    constructor
    · rintro J ⟨s, hs, hJ⟩
      obtain ⟨k, hk, rfl⟩ := hmem.1 hs
      rw [hJ.unique h (tile_spans hb ho k).at]
      exact ⟨ho (Nat.zero_le k), ho hk⟩
    · intro K hK
      obtain ⟨m, rfl⟩ := Nat.exists_eq_succ_of_ne_zero hn.ne'
      have hfirst := hK ⟨_, hmem.2 ⟨0, hn, rfl⟩, (tile_spans hb ho 0).at⟩
      have hlast := hK ⟨_, hmem.2 ⟨m, Nat.lt_succ_self m, rfl⟩, (tile_spans hb ho m).at⟩
      exact ⟨hfirst.1, hlast.2⟩
  rw [hleast.unique hwhole] at hat
  exact ⟨c, hc, hat⟩

end Caret.Range
