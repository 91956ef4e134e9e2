/-
  Ranges seen from a position.

  To put a text in front of a document moves its ranges as they are: what is asked of them is
  answered as before, and what is made of them is moved with them. Every such operation compares
  ends and chooses among them, so that it goes step by step as the same operation on what is moved.

  * `Range.shift`: the range between the ends as they are seen from a position;
  * `Range.Moves`: a range seen from a position, both ends of it as by `Kind.Moves`;
  * `concur_of`, `Valid.shift_eq`: there is a range in one place where there is one in the other;
  * `concur_contains`, `concur_covers`, …: what is asked of ranges;
  * `concur_later`, `concur_earlier`: the same of two ends is chosen in both places;
  * `concur_intersect`, `concur_cover`: common parts and hulls are moved;
  * `shift_rigid`: all of this, and what is left of it if the text is put behind.
-/
import Caret.Proofs.Position.Translation

namespace Caret

open PositionKind (add comparable order)

/-- The range between what is seen of its ends from `p`. -/
def Range.shift {P : Type} [PositionKind P] (p : P) (r : Range P) : Except Fault (Range P) := do
  let start ← add p r.start
  let stop ← add p r.stop
  of start stop

namespace Range

variable {k : Kind} {p a b x y q q' : k.Place} {r r' s s' : Range k.Place}

/-- Seen from `p`, the range `r` is `r'`. -/
structure Moves (p : k.Place) (r r' : Range k.Place) : Prop where
  /-- Its start is seen so. -/
  start : k.Moves p r.start r'.start
  /-- Its end is seen so. -/
  stop : k.Moves p r.stop r'.stop

/-! ## Making ranges -/

/-- Between positions in order there is a range, or it is refused in both places. -/
theorem concur_of (hle : order a b ≠ .gt) (ha : k.Moves p a x) (hb : k.Moves p b y) :
    Concur (fun r r' => r.Valid ∧ r.Moves p r') (of a b) (of x y) := by
  have hle' : order x y ≠ .gt := ha.order_eq hb ▸ hle
  have hmoves : Concur (Moves p) (of a b) (of x y) := by
    rw [of_eq_map hle, of_eq_map hle']
    exact (hb.concur_comparable ha).map fun _ _ _ => ⟨ha, hb⟩
  exact hmoves.with_ok.mono fun r r' ⟨hr, hof⟩ => ⟨(of_eq_ok_iff.1 hof).2, hr⟩

theorem Moves.valid_iff (h : r.Moves p r') : r.Valid ↔ r'.Valid := by
  rw [Range.valid_iff, Range.valid_iff]
  exact (h.start.concur_test h.stop .le).eq_ok_iff

theorem Valid.shift_eq (hr : r.Valid) (h : r.Moves p r') : r.shift p = .ok r' := by
  rw [shift, h.start.add_eq, h.stop.add_eq]
  exact of_eq_ok_iff.2 ⟨rfl, h.valid_iff.1 hr⟩

/-! ## What lies in a range -/

theorem concur_isEmpty (h : r.Moves p r') : Concur Eq r.isEmpty r'.isEmpty :=
  h.start.concur_test h.stop .eq

theorem concur_len (h : r.Moves p r') : Concur Eq r.len r'.len :=
  h.start.concur_sub h.stop

theorem concur_contains (h : r.Moves p r') (hq : k.Moves p q q') :
    Concur Eq (r.contains q) (r'.contains q') := by
  refine h.start.concur_bind hq (.ite (fun _ => ?_) fun _ => .ok rfl)
  exact hq.concur_test h.stop .lt

theorem concur_containsInclusive (h : r.Moves p r') (hq : k.Moves p q q') :
    Concur Eq (r.containsInclusive q) (r'.containsInclusive q') := by
  refine h.start.concur_bind hq (.ite (fun _ => ?_) fun _ => .ok rfl)
  exact hq.concur_test h.stop .le

theorem concur_covers (h : r.Moves p r') (h' : s.Moves p s') :
    Concur Eq (r.covers s) (r'.covers s') := by
  refine h.start.concur_bind h'.start (.ite (fun _ => ?_) fun _ => .ok rfl)
  exact h'.stop.concur_test h.stop .le

theorem concur_overlaps (h : r.Moves p r') (h' : s.Moves p s') :
    Concur Eq (r.overlaps s) (r'.overlaps s') := by
  refine h.start.concur_bind h.stop (.ite (fun _ => .ok rfl) fun _ => ?_)
  refine h'.start.concur_bind h'.stop (.ite (fun _ => .ok rfl) fun _ => ?_)
  refine h.start.concur_bind h'.stop (.ite (fun _ => ?_) fun _ => .ok rfl)
  exact h'.start.concur_test h.stop .lt

/-! ## Common part and hull -/

/-- The later of two positions is not in front of the first one. -/
theorem concur_later (ha : k.Moves p a x) (hb : k.Moves p b y) :
    Concur (fun m m' => k.Moves p m m' ∧ order a m ≠ .gt) (later a b) (later x y) := by
  refine hb.concur_bind ha (.ite (fun h => .ok ⟨hb, ?_⟩) fun _ => .ok ⟨ha, ?_⟩)
  · rw [← k.order_swap b a, Ne, Ordering.swap_eq_gt]
    intro hlt
    rw [hlt] at h
    cases h
  · rw [k.order_self]
    nofun

/-- The earlier of two positions is not behind the first one. -/
theorem concur_earlier (ha : k.Moves p a x) (hb : k.Moves p b y) :
    Concur (fun m m' => k.Moves p m m' ∧ order m a ≠ .gt) (earlier a b) (earlier x y) := by
  refine hb.concur_bind ha (.ite (fun h => .ok ⟨hb, ?_⟩) fun _ => .ok ⟨ha, ?_⟩)
  · intro hgt
    rw [hgt] at h
    cases h
  · rw [k.order_self]
    nofun

theorem concur_intersect (h : r.Moves p r') (h' : s.Moves p s') :
    Concur (Option.Rel fun t t' => t.shift p = .ok t') (r.intersect s) (r'.intersect s') := by
  refine (concur_later h.start h'.start).bind fun start start' ⟨hstart, _⟩ => ?_
  refine (concur_earlier h.stop h'.stop).bind fun stop stop' ⟨hstop, _⟩ => ?_
  refine hstop.concur_bind hstart (.ite (fun _ => .ok .none) fun hlt => ?_)
  have hle : order start stop ≠ .gt := by
    rw [← k.order_swap stop start, Ne, Ordering.swap_eq_gt]
    intro hlt'
    exact hlt (by rw [hlt']; rfl)
  exact (concur_of hle hstart hstop).bind fun t t' ht => .ok (.some (ht.1.shift_eq ht.2))

/-- The hull is between ends in order, as the ranges themselves are. -/
theorem concur_cover (hr : r.Valid) (h : r.Moves p r') (h' : s.Moves p s') :
    Concur (fun t t' => t.shift p = .ok t') (r.cover s) (r'.cover s') := by
  refine (concur_earlier h.start h'.start).bind fun start start' ⟨hstart, hle⟩ => ?_
  refine (concur_later h.stop h'.stop).bind fun stop stop' ⟨hstop, hle'⟩ => ?_
  have hends := Kind.order_ne_gt_trans hle (Kind.order_ne_gt_trans hr.order_ne_gt hle')
  exact (concur_of hends hstart hstop).mono fun t t' ht => ht.1.shift_eq ht.2

end Range

/-! ## Main statement -/

open PositionKind (test)

/-- **What is put in front moves everything rigidly.** Take what is seen from a position `p`, where
    `p` is not watched or all that is seen from it is. Positions compare as before, or are refused
    as before, so that no two become one. A valid range is seen as a valid range of the same length;
    what is asked of it is answered as before, and its hull and its common part with another range
    are moved with it. What is put behind two positions does not exchange them, but it can make two
    positions on one row the same. -/
theorem shift_rigid :
    (∀ (k : Kind) (p a b x y : k.Place), k.Moves p a x → k.Moves p b y →
      (∀ cmp, Concur Eq (test cmp a b) (test cmp x y)) ∧
      (test .lt a b = .ok true ↔ test .lt x y = .ok true) ∧
      (test .eq a b = .ok true ↔ test .eq x y = .ok true) ∧ (x = y → a = b)) ∧
    (∀ (k : Kind) (p : k.Place) (r r' : Range k.Place), r.Valid → r.Moves p r' →
      r.shift p = .ok r' ∧ r'.Valid ∧ Concur Eq r.len r'.len ∧ Concur Eq r.isEmpty r'.isEmpty ∧
      (∀ q q', k.Moves p q q' → Concur Eq (r.contains q) (r'.contains q') ∧
        Concur Eq (r.containsInclusive q) (r'.containsInclusive q')) ∧
      ∀ s s', s.Valid → s.Moves p s' →
        Concur Eq (r.covers s) (r'.covers s') ∧ Concur Eq (r.overlaps s) (r'.overlaps s') ∧
        Concur (Option.Rel fun t t' => t.shift p = .ok t') (r.intersect s) (r'.intersect s') ∧
        Concur (fun t t' => t.shift p = .ok t') (r.cover s) (r'.cover s')) ∧
    (∀ k : Kind, k ≠ .composite → ∀ a b c x y : k.Place, add a c = .ok x → add b c = .ok y →
      test .le a b = .ok true → test .le x y = .ok true) ∧
    ∀ u, ∃ a b c s : RowColumn u, test .lt a b = .ok true ∧ add a c = .ok s ∧ add b c = .ok s := by
  refine ⟨fun k p a b x y ha hb => ?_, fun k p r r' hr h => ?_, fun k hk a b c x y hx hy hle => ?_,
    fun u => ?_⟩
  · refine ⟨ha.concur_test hb, (ha.concur_test hb .lt).eq_ok_iff, (ha.concur_test hb .eq).eq_ok_iff,
      ?_⟩
    rintro rfl
    exact ha.injective hb
  · refine ⟨hr.shift_eq h, h.valid_iff.1 hr, Range.concur_len h, Range.concur_isEmpty h,
      fun q q' hq => ?_, fun s s' hs h' => ?_⟩
    · exact ⟨Range.concur_contains h hq, Range.concur_containsInclusive h hq⟩
    · exact ⟨Range.concur_covers h h', Range.concur_overlaps h h', Range.concur_intersect h h',
        Range.concur_cover hr h h'⟩
  · match k with
    | .byteIndex =>
      rw [SingleMeasure.test_le_iff] at hle ⊢
      exact ByteIndex.order_add_right_ne_gt hx hy hle
    | .rowColumn u =>
      rw [SingleMeasure.test_le_iff] at hle ⊢
      exact RowColumn.order_add_right_ne_gt hx hy hle
  · -- the row of `c` discards the columns of `a` and `b`
    exact ⟨⟨0, 1⟩, ⟨0, 2⟩, ⟨1, 0⟩, ⟨1, 0⟩, rfl, rfl, rfl⟩

/-- Behind a composite that is not watched, ranges some of whose ends are. Their common part is
    moved with them, and what cannot be compared with an end cannot be so in either place. -/
theorem shift_rigid_behind_unwatched :
    (∃ (p q q' : Composite) (r r' s s' t t' : Range Composite) (v w : Violation),
      p.checked = false ∧ r.start.checked = true ∧ r.stop.checked = false ∧ r.Valid ∧ s.Valid ∧
      r.Moves (k := .composite) p r' ∧ s.Moves (k := .composite) p s' ∧
      Kind.composite.Moves p q q' ∧ test .lt r'.start r'.stop = .ok true ∧ r.shift p = .ok r' ∧
      r.intersect s = .ok (some t) ∧ r'.intersect s' = .ok (some t') ∧ t.shift p = .ok t' ∧
      r.contains q = .error (.violation v) ∧ r'.contains q' = .error (.violation w)) ∧
    Kind.rowColumn .utf8 ≠ .composite ∧ ∃ a b c x y : RowColumn .utf8, add a c = .ok x ∧
      add b c = .ok y ∧ test .le a b = .ok true ∧ test .le x y = .ok true := by
  obtain ⟨hcompare, hranges, hbehind, -⟩ := shift_rigid
  constructor
  · let p : Composite := ⟨⟨7⟩, ⟨1, 2⟩, ⟨1, 1⟩, false⟩
    let q : Composite := ⟨⟨6⟩, ⟨1, 1⟩, ⟨1, 1⟩, true⟩
    let r : Range Composite := ⟨⟨⟨1⟩, ⟨0, 1⟩, ⟨0, 1⟩, true⟩, ⟨⟨5⟩, ⟨1, 2⟩, ⟨1, 2⟩, false⟩⟩
    let s : Range Composite := ⟨⟨⟨3⟩, ⟨0, 3⟩, ⟨0, 3⟩, true⟩, ⟨⟨6⟩, ⟨1, 3⟩, ⟨1, 3⟩, true⟩⟩
    let q' : Composite := ⟨⟨13⟩, ⟨2, 1⟩, ⟨2, 1⟩, true⟩
    let r' : Range Composite := ⟨⟨⟨8⟩, ⟨1, 3⟩, ⟨1, 2⟩, true⟩, ⟨⟨12⟩, ⟨2, 2⟩, ⟨2, 2⟩, false⟩⟩
    let s' : Range Composite := ⟨⟨⟨10⟩, ⟨1, 5⟩, ⟨1, 4⟩, true⟩, ⟨⟨13⟩, ⟨2, 3⟩, ⟨2, 3⟩, true⟩⟩
    have hr : r.Valid := ⟨by decide, rfl⟩
    have hs : s.Valid := ⟨by decide, rfl⟩
    have hmr : r.Moves (k := .composite) p r' := ⟨⟨rfl, nofun⟩, rfl, nofun⟩
    have hms : s.Moves (k := .composite) p s' := ⟨⟨rfl, nofun⟩, rfl, nofun⟩
    have hmq : Kind.composite.Moves p q q' := ⟨rfl, nofun⟩
    obtain ⟨-, hlt, -⟩ := hcompare .composite p r.start r.stop r'.start r'.stop hmr.start hmr.stop
    obtain ⟨hshift, -, -, -, hmember, hpair⟩ := hranges .composite p r r' hr hmr
    obtain ⟨-, -, hcommon, -⟩ := hpair s s' hs hms
    obtain ⟨hcontains, -⟩ := hmember q q' hmq
    have hrs : r.intersect s = .ok (some ⟨s.start, r.stop⟩) := rfl
    have hrq : r.contains q = .error (.violation (.ordersDiffer q r.stop)) := rfl
    rw [hrs] at hcommon
    rw [hrq] at hcontains
    obtain ⟨u, hrs', hu⟩ := hcommon.exists_of_ok
    obtain ⟨-, w, -, hrq'⟩ := hcontains.exists_of_error
    cases hu with
    | some ht =>
      exact ⟨p, q, q', r, r', s, s', _, _, _, w, rfl, rfl, rfl, hr, hs, hmr, hms, hmq, hlt.1 rfl,
        hshift, hrs, hrs', ht, hrq, hrq'⟩
  · exact ⟨nofun, ⟨0, 1⟩, ⟨0, 2⟩, ⟨3, 4⟩, _, _, rfl, rfl, rfl,
      hbehind (.rowColumn .utf8) nofun ⟨0, 1⟩ ⟨0, 2⟩ ⟨3, 4⟩ _ _ rfl rfl rfl⟩

end Caret
