/-
  A text that is cut into pieces.

  The ends of the pieces are positions of the text that do not go back, so the ranges between them
  are tiles. What each of them holds is a piece, and all of them make up the text.

  * `offset`: where a piece starts;
  * `WatchedAt`, `faithful_watchedAt`: the watched positions of a text, known by their offsets;
  * `take_offset`, `slice_offset`: pieces as parts of the text;
  * `exists_foldlM_add`: the sum of the ends of the pieces is the end of the text;
  * `pieces_tile`: what this says of the ranges of the pieces.
-/
import Caret.Proofs.Measure.Document
import Caret.Proofs.Range.Tiling

namespace Caret.Text

open PositionKind (test)
open Range (tile)

variable {t x : Text} {pieces : List Text} {ds : List Composite} {a c m p : Composite} {i k : ℕ}
  {checked : Bool}

/-! ## Pieces of a text -/

/-- The offset at which the `k`-th piece starts. -/
def offset (pieces : List Text) (k : ℕ) : ℕ :=
  (join (pieces.take k)).length

theorem join_take_append_drop (pieces : List Text) (k : ℕ) :
    join (pieces.take k) ++ join (pieces.drop k) = join pieces := by
  rw [join, join, join, ← List.flatten_append, List.take_append_drop]

theorem take_offset (pieces : List Text) (k : ℕ) :
    (join pieces).take (offset pieces k) = join (pieces.take k) := by
  rw [← join_take_append_drop pieces k, offset, List.take_left]

theorem offset_length (pieces : List Text) :
    offset pieces pieces.length = (join pieces).length := by
  rw [offset, List.take_length]

theorem join_take_succ (ht : pieces[k]? = some t) :
    join (pieces.take (k + 1)) = join (pieces.take k) ++ t := by
  rw [List.take_add_one, ht, join, List.flatten_append]
  simp [join]

theorem slice_offset (ht : pieces[k]? = some t) :
    ((join pieces).take (offset pieces (k + 1))).drop (offset pieces k) = t := by
  rw [take_offset, join_take_succ ht, offset, List.drop_left]

theorem offset_mono (pieces : List Text) : Monotone (offset pieces) :=
  fun _ _ hjk => (isPrefix_join (List.take_prefix_take_left hjk)).length_le

/-! ## Watched positions of a text -/

/-- The position `p` is watched, and the one behind the first `i` code points of `t`. -/
structure WatchedAt (t : Text) (p : Composite) (i : ℕ) : Prop where
  placeAt : t.PlaceAt p i
  checked_eq : p.checked = true

theorem faithful_watchedAt (t : Text) : Faithful t.WatchedAt where
  comparable_eq_ok hp hq := t.ranked_placeAt.comparable_eq_ok hp.placeAt hq.placeAt
  order_eq hp hq := t.ranked_placeAt.order_eq hp.placeAt hq.placeAt
  eq_of_rank hp hq :=
    (hp.placeAt.endsAt.samePlace hq.placeAt.endsAt).eq (hp.checked_eq.trans hq.checked_eq.symm)

theorem EndsAt.exists_placeAt (h : t.EndsAt c) (hi : i ≤ t.length) (checked : Bool) :
    ∃ p, measure (t.take i) checked = .ok p ∧ t.PlaceAt p i := by
  obtain ⟨p, hp⟩ := h.exists_of_infix (t.take_prefix i).isInfix checked
  have hmeasure := measure_eq_ok_iff.2 hp
  exact ⟨p, hmeasure, hi, _, hmeasure⟩

theorem placeAt_length (h : t.measure checked = .ok m) : t.PlaceAt m t.length :=
  ⟨le_rfl, checked, by rwa [List.take_length]⟩

theorem placeAt_zero (t : Text) : t.PlaceAt Composite.zero 0 :=
  ⟨Nat.zero_le _, false, by rw [List.take_zero]; rfl⟩

/-- The ends of the pieces are positions of the text. -/
theorem EndsAt.exists_boundary (h : (join pieces).EndsAt c) (k : ℕ) :
    ∃ b, measure (join (pieces.take k)) true = .ok b ∧
      (join pieces).WatchedAt b (offset pieces k) := by
  have hle : offset pieces k ≤ (join pieces).length := by
    rw [offset, ← join_take_append_drop pieces k, List.length_append]
    exact Nat.le_add_right _ _
  obtain ⟨b, hb, hat⟩ := h.exists_placeAt hle true
  rw [take_offset] at hb
  exact ⟨b, hb, hat, (measure_eq_ok_iff.1 hb).2⟩

/-! ## Adding up the pieces -/

/-- Behind a text `x`, one piece after the other. -/
theorem EndsAt.exists_foldlM_add (hds : List.Forall₂ EndsAt pieces ds) (hx : x.EndsAt a)
    (h : (x ++ join pieces).EndsAt c) :
    ∃ s, ds.foldlM Composite.add a = .ok s ∧ (x ++ join pieces).EndsAt s := by
  induction hds generalizing x a with
  | nil =>
    refine ⟨a, rfl, ?_⟩
    rwa [join, List.flatten_nil, List.append_nil]
  | @cons t d pieces ds hd _ ih =>
    have hassoc : x ++ join (t :: pieces) = x ++ t ++ join pieces := by
      rw [join, List.flatten_cons, List.append_assoc, join]
    rw [hassoc] at h ⊢
    obtain ⟨b, hb, hk⟩ := h.exists_of_infix ⟨[], join pieces, rfl⟩ (a.checked || d.checked)
    obtain ⟨s, hs, hend⟩ := ih hb h
    refine ⟨s, ?_, hend⟩
    rw [List.foldlM_cons, (hx.add_eq_ok_iff hd).2 ⟨hb, hk⟩]
    exact hs

/-! ## The ranges of the pieces -/

/-- The hull of the ranges of all pieces is the range of the text. -/
theorem EndsAt.foldlM_cover_eq (h : (join pieces).EndsAt c) (hne : pieces ≠ []) {b : ℕ → Composite}
    (hb : ∀ k, (join pieces).PlaceAt (b k) (offset pieces k)) {R : Range Composite}
    {Rs : List (Range Composite)}
    (hperm : (R :: Rs).Perm ((List.range pieces.length).map (tile b))) :
    ∃ u, Rs.foldlM Range.cover R = .ok u ∧ ∀ checked, ∃ m v,
      measure (join pieces) checked = .ok m ∧ Range.upTo m = .ok v ∧ u.test .eq v = .ok true := by
  have hranked := (join pieces).ranked_placeAt
  obtain ⟨u, hu, hspans⟩ := Range.foldlM_cover_tile hranked hb (offset_mono pieces)
    (List.length_pos_of_ne_nil hne) hperm
  rw [offset_length] at hspans
  refine ⟨u, hu, fun checked => ?_⟩
  obtain ⟨m, hm⟩ := exists_measure_iff.2 ⟨h.encodable, h.bytes_le⟩
  have hv : Range.Spans (join pieces).PlaceAt ⟨Composite.zero, m⟩ 0 (join pieces).length :=
    ⟨placeAt_zero _, placeAt_length hm, Nat.zero_le _⟩
  exact ⟨m, _, hm, Range.of_eq hranked hv.start hv.stop hv.le,
    (hspans.at.test_eq_iff hranked hv.at).2 rfl⟩

/-- **Cutting a text gives a tiling.** Take encodable pieces that fit within the limit when put
    together. The range of each piece is as long as the piece; two of them do not overlap, and what
    one has in common with the next one is the position between them. Together they are the whole
    text, in whatever order they are joined, and each position of the text is in one of them, and in
    one only. The ends of the pieces add up to the end of the text. -/
theorem pieces_tile (pieces : List Text) (hne : pieces ≠ []) (ht : ∀ t ∈ pieces, t.Encodable)
    (hb : (join pieces).bytes ≤ Coordinate.limit) :
    ∃ (b : ℕ → Composite) (R : ℕ → Range Composite),
      (∀ k ≤ pieces.length, measure (join (pieces.take k)) true = .ok (b k)) ∧
      (∀ k < pieces.length, Range.of (b k) (b (k + 1)) = .ok (R k)) ∧
      (∀ k t, pieces[k]? = some t → ∃ d, (R k).len = .ok d ∧ ∀ checked, ∃ m,
        measure t checked = .ok m ∧ test .eq d m = .ok true) ∧
      (∀ ds, List.Forall₂ (fun t d => ∃ checked, measure t checked = .ok d) pieces ds →
        ∃ s, ds.foldlM Composite.add Composite.zero = .ok s ∧ ∀ checked, ∃ m,
          measure (join pieces) checked = .ok m ∧ test .eq s m = .ok true) ∧
      (∀ j < pieces.length, ∀ k < pieces.length, j ≠ k → (R j).overlaps (R k) = .ok false) ∧
      (∀ k, k + 1 < pieces.length → ∃ e, Range.empty (b (k + 1)) = .ok e ∧
        (R k).intersect (R (k + 1)) = .ok (some e)) ∧
      (∀ S Ss, (S :: Ss).Perm ((List.range pieces.length).map R) →
        ∃ u, Ss.foldlM Range.cover S = .ok u ∧ ∀ checked, ∃ m v,
          measure (join pieces) checked = .ok m ∧ Range.upTo m = .ok v ∧ u.test .eq v = .ok true) ∧
      ∀ i < (join pieces).length, ∀ checked, ∃ p, measure ((join pieces).take i) checked = .ok p ∧
        (∀ k < pieces.length, ∃ h, (R k).contains p = .ok h) ∧
        ∃! k, k < pieces.length ∧ (R k).contains p = .ok true := by
  obtain ⟨c, hc, -⟩ := exists_endsAt (encodable_join.2 ht) hb true
  choose b hmeasure hwatched using hc.exists_boundary
  have hplace (k : ℕ) := (hwatched k).placeAt
  have hranked := (join pieces).ranked_placeAt
  have hmono := offset_mono pieces
  refine ⟨b, tile b, fun k _ => hmeasure k, fun k _ => Range.of_eq_tile hranked hplace hmono k, ?_,
    ?_, fun j _ k _ hjk => Range.overlaps_tile hranked hplace hmono hjk, ?_,
    fun S Ss hperm => hc.foldlM_cover_eq hne hplace hperm, ?_⟩
  · intro k t hk
    obtain ⟨d, hd, hlen⟩ := len_of_spans (Range.tile_spans hplace hmono k)
    rw [slice_offset hk] at hlen
    exact ⟨d, hd, hlen⟩
  · intro ds hds
    have hends : List.Forall₂ EndsAt pieces ds :=
      hds.imp fun _ _ ⟨_, hd⟩ => (measure_eq_ok_iff.1 hd).1
    obtain ⟨s, hs, hend⟩ := EndsAt.exists_foldlM_add hends (placeAt_zero []).endsAt hc
    refine ⟨s, hs, fun checked => ?_⟩
    obtain ⟨m, hm⟩ := exists_measure_iff.2 ⟨hc.encodable, hc.bytes_le⟩
    exact ⟨m, hm, (hend.samePlace (measure_eq_ok_iff.1 hm).1).test_eq⟩
  · intro k _
    exact ⟨_, Range.empty_eq hranked (hplace (k + 1)),
      Range.intersect_tile_succ (faithful_watchedAt _) hwatched hmono k⟩
  · intro i hi checked
    obtain ⟨p, hp, hat⟩ := hc.exists_placeAt hi.le checked
    refine ⟨p, hp, fun k _ => ⟨_, (Range.tile_spans hplace hmono k).contains_eq hranked hat⟩, ?_⟩
    refine Range.existsUnique_contains_tile hranked hplace hmono hat ⟨Nat.zero_le i, ?_⟩
    rwa [offset_length]

/-- A line end that is split by an empty piece, with the ranges joined from the last one on. The
    position between the two halves of the line end is in one range. -/
theorem pieces_tile_around_empty_piece :
    let pieces : List Text := ["é\r", "", "\n𝄞", "a"]
    pieces ≠ [] ∧ (∀ t ∈ pieces, t.Encodable) ∧ (join pieces).bytes ≤ Coordinate.limit ∧
      ∃ (b : ℕ → Composite) (R : ℕ → Range Composite) (p m d : Composite) (u v : Range Composite),
        b 1 = b 2 ∧ (∀ k < 4, Range.of (b k) (b (k + 1)) = .ok (R k)) ∧
        (R 2).len = .ok d ∧ (∃ e, measure "\n𝄞" true = .ok e ∧ test .eq d e = .ok true) ∧
        (R 1).overlaps (R 2) = .ok false ∧ (∃ e, (R 1).intersect (R 2) = .ok (some e)) ∧
        [R 1, R 2, R 0].foldlM Range.cover (R 3) = .ok u ∧ measure "é\r\n𝄞a" false = .ok m ∧
        Range.upTo m = .ok v ∧ u.test .eq v = .ok true ∧
        measure "é\r" false = .ok p ∧ ∃! k, k < 4 ∧ (R k).contains p = .ok true := by
  intro pieces
  have hne : pieces ≠ [] := nofun
  have ht : ∀ t ∈ pieces, t.Encodable := by decide
  have hb : (join pieces).bytes ≤ Coordinate.limit := by decide
  obtain ⟨b, R, hboundary, hof, hlen, -, hapart, htouch, hhull, hone⟩ :=
    pieces_tile pieces hne ht hb
  obtain ⟨d, hd, hmeasure⟩ := hlen 2 "\n𝄞" rfl
  obtain ⟨e, -, he⟩ := htouch 1 (by decide)
  have hperm : [R 3, R 1, R 2, R 0].Perm ((List.range 4).map R) :=
    List.Perm.map R (by decide : [3, 1, 2, 0].Perm (List.range 4))
  obtain ⟨u, hu, hwhole⟩ := hhull (R 3) [R 1, R 2, R 0] hperm
  obtain ⟨m, v, hm, hv, huv⟩ := hwhole false
  obtain ⟨p, hp, -, hunique⟩ := hone 2 (by decide) false
  have hsame : b 1 = b 2 :=
    Except.ok.inj ((hboundary 1 (by decide)).symm.trans (hboundary 2 (by decide)))
  exact ⟨hne, ht, hb, b, R, p, m, d, u, v, hsame, hof, hd, hmeasure true,
    hapart 1 (by decide) 2 (by decide) (by decide), ⟨e, he⟩, hu, hm, hv, huv, hp, hunique⟩

end Caret.Text
