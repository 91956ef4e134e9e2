/-
  The length of a range measures it.

  A length is the start exactly for an empty range. Where the measures are known to agree, it leads
  from one end of the range to the other, and lengths of ranges that follow on each other add up: a
  length is then the same thing as a summand, and sums are associative.

  * `Kind.order_sub_zero_iff`: what is left of one position by another, if not the later one;
  * `Kind.sub_zero`, `Kind.le_zero`: nothing is in front of the start;
  * `Kind.Assured`: positions whose measures are known to agree;
  * `Assured.sub_eq_ok_iff`: on these, differences are what has to be added;
  * `Assured.add_assoc`: and sums associative as far as they go;
  * `Range.len_add_len`: lengths of ranges that follow on each other;
  * `len_measures`: what lengths say of ranges.
-/
import Caret.Proofs.Measure.Closure
import Caret.Proofs.Measure.Subtraction
import Caret.Proofs.Position.Residual
import Caret.Proofs.WellFormed.Positions

namespace Caret

open PositionKind (add comparable order saturatingSub test zero)

/-! ## Composites -/

namespace Composite

variable {a b d : Composite}

theorem order_ne_gt_of_parts (hindex : a.index.order b.index ≠ .gt)
    (h8 : a.utf8.order b.utf8 ≠ .gt) (h16 : a.utf16.order b.utf16 ≠ .gt) : a.order b ≠ .gt := by
  rw [order, Ne, Ordering.then_eq_gt, Ordering.then_eq_gt]
  rintro ((h | ⟨-, h⟩) | ⟨-, h⟩)
  · exact hindex h
  · exact h8 h
  · exact h16 h

theorem zero_order_ne_gt (a : Composite) : zero.order a ≠ .gt :=
  order_ne_gt_of_parts (ByteIndex.zero_order_ne_gt _) (RowColumn.zero_order_ne_gt _)
    (RowColumn.zero_order_ne_gt _)

/-- If nothing is left in any measure, `b` is behind `a` in none, and so not as a whole. -/
theorem samePlace_zero_iff (hle : a.order b ≠ .gt) (hd : b.saturatingSub a = .ok d) :
    d.SamePlace zero ↔ a.SamePlace b := by
  obtain ⟨-, rfl, -⟩ := saturatingSub_eq_ok_iff.1 hd
  constructor
  · rintro ⟨hindex, h8, h16⟩
    have hge : b.order a ≠ .gt := order_ne_gt_of_parts (ByteIndex.monus_eq_zero_iff.1 hindex)
      (RowColumn.monus_eq_zero_iff.1 h8) (RowColumn.monus_eq_zero_iff.1 h16)
    rw [← order_swap, Ne, Ordering.swap_eq_gt] at hge
    rw [← order_eq_eq_iff]
    cases h : a.order b with
    | lt => exact absurd h hge
    | eq => rfl
    | gt => exact absurd h hle
  · rintro ⟨hindex, h8, h16⟩
    rw [hindex, h8, h16]
    exact ⟨ByteIndex.monus_of_add (ByteIndex.add_zero _),
      RowColumn.monus_of_add (RowColumn.add_zero _), RowColumn.monus_of_add (RowColumn.add_zero _)⟩

theorem monus_zero (a : Composite) :
    a.index.monus .zero = a.index ∧ a.utf8.monus .zero = a.utf8 ∧ a.utf16.monus .zero = a.utf16 :=
  ⟨ByteIndex.monus_of_add (ByteIndex.zero_add _), RowColumn.monus_of_add (RowColumn.zero_add _),
    RowColumn.monus_of_add (RowColumn.zero_add _)⟩

end Composite

/-! ## The start -/

theorem SingleMeasure.order_sub_zero_iff {P : Type} [PositionKind P] [SingleMeasure P] {a b d : P}
    (hle : order a b ≠ .gt) (hd : saturatingSub b a = .ok d) :
    order d zero = .eq ↔ order a b = .eq := by
  have hadd : add a d = .ok b := add_of_sub hle hd
  rw [order_eq_eq_iff, order_eq_eq_iff]
  constructor
  · rintro rfl
    exact Except.ok.inj ((add_zero a).symm.trans hadd)
  · rintro rfl
    exact add_left_cancel hadd (add_zero a)

namespace Kind

variable {k : Kind} {a b c d e p s : k.Place}

theorem order_sub_zero_iff : {k : Kind} → {a b d : k.Place} → order a b ≠ .gt →
    saturatingSub b a = .ok d → (order d zero = .eq ↔ order a b = .eq)
  | .byteIndex, _, _, _, hle, hd => SingleMeasure.order_sub_zero_iff hle hd
  | .rowColumn _, _, _, _, hle, hd => SingleMeasure.order_sub_zero_iff hle hd
  | .composite, _, _, _, hle, hd => by
    rw [show order _ _ = Composite.order _ _ from rfl, Composite.order_eq_eq_iff]
    exact (Composite.samePlace_zero_iff hle hd).trans Composite.order_eq_eq_iff.symm

theorem comparable_zero : {k : Kind} → {p : k.Place} → k.Sound p → comparable p zero = .ok ()
  | .byteIndex, _, _ => rfl
  | .rowColumn _, _, _ => rfl
  | .composite, p, hp => Composite.comparable_eq_ok_iff.2 fun hk =>
    (hp ((Bool.or_false p.checked).symm.trans hk)).orderedAlike_zero.symm

theorem zero_order_ne_gt : (k : Kind) → (p : k.Place) → order zero p ≠ .gt
  | .byteIndex => ByteIndex.zero_order_ne_gt
  | .rowColumn _ => RowColumn.zero_order_ne_gt
  | .composite => Composite.zero_order_ne_gt

theorem le_zero (hp : k.Sound p) : test .le zero p = .ok true := by
  rw [PositionKind.test_eq, comparable_symm (comparable_zero hp)]
  have hle := k.zero_order_ne_gt p
  simpa [Except.map, Comparison.holds] using hle

theorem sub_zero : {k : Kind} → {p : k.Place} → k.Sound p → saturatingSub p zero = .ok p
  | .byteIndex, _, _ => congrArg Except.ok (ByteIndex.monus_of_add (ByteIndex.zero_add _))
  | .rowColumn _, _, _ => congrArg Except.ok (RowColumn.monus_of_add (RowColumn.zero_add _))
  | .composite, p, hp => by
    obtain ⟨hindex, h8, h16⟩ := Composite.monus_zero p
    have hk : (p.checked || false) = p.checked := Bool.or_false _
    refine Composite.saturatingSub_eq_ok_iff.2 ⟨comparable_zero hp, ?_, fun h => hp (hk ▸ h)⟩
    exact Composite.ext hindex.symm h8.symm h16.symm hk.symm

/-! ## Positions whose measures agree -/

/-- The measures of the position are known to agree: there is only one, or they are watched. -/
def Assured : (k : Kind) → k.Place → Prop
  | .byteIndex, _ => True
  | .rowColumn _, _ => True
  | .composite, c => Composite.Watched c

/-- From a position that is not behind, a difference is what has to be added to that position. -/
theorem Assured.sub_eq_ok_iff : {k : Kind} → {a b d : k.Place} → k.Assured a → k.Assured b →
    (test .le b a = .ok true ∧ saturatingSub a b = .ok d ↔ k.Assured d ∧ add b d = .ok a)
  | .byteIndex, _, _, _, _, _ => Residuated.sub_eq_ok_iff.trans (and_iff_right trivial).symm
  | .rowColumn _, _, _, _, _, _ => Residuated.sub_eq_ok_iff.trans (and_iff_right trivial).symm
  | .composite, _, _, _, ha, hb => Composite.Watched.sub_eq_ok_iff ha hb

theorem Assured.add : {k : Kind} → {a b s : k.Place} → k.Assured a → k.Assured b →
    PositionKind.add a b = .ok s → k.Assured s
  | .byteIndex, _, _, _, _, _, _ => trivial
  | .rowColumn _, _, _, _, _, _, _ => trivial
  | .composite, a, b, s, ha, hb, hs => by
    obtain ⟨-, -, -, hk, hcons⟩ := Composite.add_eq_ok_iff.1 hs
    rw [ha.checked_eq, Bool.true_or] at hk
    exact ⟨hk, hcons hk⟩

/-- If `a + b` is in front of `c`, then `b + c` fits as well. -/
theorem Assured.add_assoc : {k : Kind} → {a b c ab s : k.Place} → k.Assured a → k.Assured b →
    k.Assured c → PositionKind.add a b = .ok ab → PositionKind.add ab c = .ok s →
      ∃ bc, PositionKind.add b c = .ok bc ∧ PositionKind.add a bc = .ok s
  | .byteIndex, _, _, _, _, _, _, _, _, hab, hs => ByteIndex.add_assoc_iff.1 ⟨_, hab, hs⟩
  | .rowColumn _, _, _, _, _, _, _, _, _, hab, hs => RowColumn.add_assoc hab hs
  | .composite, _, _, _, _, _, ha, hb, hc, hab, hs => Except.bind_eq_ok_iff.1 <|
    (ha.consistent.add_assoc hb.consistent hc.consistent).1 (Except.bind_eq_ok_iff.2 ⟨_, hab, hs⟩)

end Kind

namespace Range

variable {k : Kind} {a b c d e : k.Place} {r : Range k.Place}

/-- The length is the start exactly if the range is empty, and both can be asked. -/
theorem Valid.exists_len_test_zero (hr : r.Valid) (hd : r.len = .ok d) :
    ∃ answer, PositionKind.test .eq d zero = .ok answer ∧ r.isEmpty = .ok answer := by
  have hsound : k.Sound d := (k.ensures_saturatingSub _ _ d hd).sound
  have hiff := Kind.order_sub_zero_iff hr.order_ne_gt hd
  refine ⟨_, ?_, hr.isEmpty_eq⟩
  rw [PositionKind.test_eq, Kind.comparable_zero hsound]
  refine congrArg Except.ok ?_
  rw [Bool.eq_iff_iff]
  simpa [Comparison.holds] using hiff

/-- The length leads from the start of the range to its end. -/
theorem Valid.add_len (hr : r.Valid) (ha : k.Assured r.start) (hb : k.Assured r.stop)
    (hd : r.len = .ok d) : k.Assured d ∧ add r.start d = .ok r.stop :=
  (hb.sub_eq_ok_iff ha).1 ⟨valid_iff.1 hr, hd⟩

/-- Lengths of ranges that follow on each other are the length of the range over both. -/
theorem len_add_len (ha : k.Assured a) (hb : k.Assured b) (hc : k.Assured c)
    (hab : Valid ⟨a, b⟩) (hbc : Valid ⟨b, c⟩) (hd : len ⟨a, b⟩ = .ok d) (he : len ⟨b, c⟩ = .ok e) :
    ∃ s, add d e = .ok s ∧ of a c = .ok ⟨a, c⟩ ∧ len ⟨a, c⟩ = .ok s := by
  obtain ⟨hdA, had⟩ := hab.add_len ha hb hd
  obtain ⟨heA, hbe⟩ := hbc.add_len hb hc he
  obtain ⟨s, hs, hac⟩ := ha.add_assoc hdA heA had hbe
  obtain ⟨hle, hlen⟩ := (hc.sub_eq_ok_iff ha).2 ⟨hdA.add heA hs, hac⟩
  exact ⟨s, hs, of_eq_ok_iff.2 ⟨rfl, valid_iff.2 hle⟩, hlen⟩

end Range

/-! ## Main statement -/

/-- **The length of a range measures it.** The length of a valid range, if there is one, is the
    start exactly if the range is empty; this can be asked whatever the measures are. In one measure
    there is always a length. There, and between composites that are watched, the length leads from
    the start of the range to its end, and the lengths of two ranges that follow on each other add
    up to that of the range over both, which there is. The range up to a position is as long as that
    position says. -/
theorem len_measures (k : Kind) :
    (∀ r : Range k.Place, r.Valid → ∀ d, r.len = .ok d →
      ∃ answer, test .eq d zero = .ok answer ∧ r.isEmpty = .ok answer) ∧
    (k ≠ .composite → ∀ r : Range k.Place, r.Valid → ∃ d, r.len = .ok d) ∧
    (∀ r : Range k.Place, r.Valid → k.Assured r.start → k.Assured r.stop → ∀ d, r.len = .ok d →
      ∃ s, add r.start d = .ok s ∧ s = r.stop ∧ test .eq s r.stop = .ok true) ∧
    (∀ a b c d e : k.Place, k.Assured a → k.Assured b → k.Assured c →
      Range.of a b = .ok ⟨a, b⟩ → Range.of b c = .ok ⟨b, c⟩ →
      Range.len ⟨a, b⟩ = .ok d → Range.len ⟨b, c⟩ = .ok e →
      ∃ r l s, Range.of a c = .ok r ∧ r.len = .ok l ∧ add d e = .ok s ∧ l = s ∧
        test .eq l s = .ok true) ∧
    ∀ p : k.Place, k.Sound p →
      ∃ r d, Range.upTo p = .ok r ∧ r.len = .ok d ∧ d = p ∧ test .eq d p = .ok true := by
  refine ⟨fun r hr d hd => hr.exists_len_test_zero hd, ?_, ?_, ?_, ?_⟩
  · intro hk r _
    have := k.residuated hk
    exact SingleMeasure.exists_sub r.stop r.start
  · intro r hr hstart hstop d hd
    exact ⟨_, (hr.add_len hstart hstop hd).2, rfl, Kind.test_eq_self _⟩
  · intro a b c d e ha hb hc hab hbc hd he
    obtain ⟨s, hs, hof, hlen⟩ := Range.len_add_len ha hb hc (Range.of_eq_ok_iff.1 hab).2
      (Range.of_eq_ok_iff.1 hbc).2 hd he
    exact ⟨_, s, s, hof, hlen, hs, rfl, Kind.test_eq_self s⟩
  · intro p hp
    exact ⟨⟨zero, p⟩, p, Range.of_eq_ok_iff.2 ⟨rfl, Range.valid_iff.2 (Kind.le_zero hp)⟩,
      Kind.sub_zero hp, rfl, Kind.test_eq_self p⟩

/-- A range between composites of no text, which only the last measure sees to be more than empty;
    and two ranges in a text, the second one of which goes on to the next line. -/
theorem len_measures_over_two_lines :
    (∃ (r : Range Composite) (d : Composite), ¬r.start.Consistent ∧ r.Valid ∧ r.len = .ok d ∧
      d.index = .zero ∧ d.utf8 = .zero ∧ test .eq d zero = .ok false ∧ r.isEmpty = .ok false) ∧
    ∃ a b c d e s : Composite, a.Watched ∧ b.Watched ∧ c.Watched ∧
      Range.of a b = .ok ⟨a, b⟩ ∧ Range.of b c = .ok ⟨b, c⟩ ∧
      Range.len ⟨a, b⟩ = .ok d ∧ Range.len ⟨b, c⟩ = .ok e ∧
      (∃ t, a.add d = .ok t ∧ test .eq t b = .ok true) ∧
      (∃ r l, Range.of a c = .ok r ∧ r.len = .ok l ∧ d.add e = .ok s ∧ test .eq l s = .ok true) ∧
      ∃ r l, Range.upTo b = .ok r ∧ r.len = .ok l ∧ test .eq l b = .ok true := by
  let p : Composite := ⟨⟨3⟩, ⟨2, 0⟩, ⟨0, 9⟩, false⟩
  let q : Composite := ⟨⟨3⟩, ⟨2, 0⟩, ⟨1, 0⟩, false⟩
  let a : Composite := ⟨⟨4⟩, ⟨1, 0⟩, ⟨1, 0⟩, true⟩
  let b : Composite := ⟨⟨9⟩, ⟨1, 5⟩, ⟨1, 3⟩, true⟩
  let c : Composite := ⟨⟨12⟩, ⟨2, 1⟩, ⟨2, 1⟩, true⟩
  have ha : a.Watched := ⟨rfl, by decide⟩
  have hb : b.Watched := ⟨rfl, by decide⟩
  have hc : c.Watched := ⟨rfl, by decide⟩
  have hab : Range.of a b = .ok ⟨a, b⟩ := rfl
  have hbc : Range.of b c = .ok ⟨b, c⟩ := rfl
  obtain ⟨hempty, -, hends, hparts, hupTo⟩ := len_measures .composite
  constructor
  · have hr : Range.Valid ⟨p, q⟩ := ⟨by decide, rfl⟩
    obtain ⟨answer, hzero, hanswer⟩ := hempty ⟨p, q⟩ hr _ rfl
    obtain rfl : answer = false := Except.ok.inj (hanswer.symm.trans rfl)
    exact ⟨⟨p, q⟩, _, by decide, hr, rfl, by decide, by decide, hzero, hanswer⟩
  · have hstart := hends ⟨a, b⟩ (Range.of_eq_ok_iff.1 hab).2 ha hb _ rfl
    obtain ⟨t, ht, -, htb⟩ := hstart
    obtain ⟨r, l, s, hr, hl, hs, -, hls⟩ := hparts a b c _ _ ha hb hc hab hbc rfl rfl
    obtain ⟨r', l', hr', hl', -, hlb⟩ := hupTo b fun _ => hb.consistent
    exact ⟨a, b, c, _, _, s, ha, hb, hc, hab, hbc, rfl, rfl, ⟨t, ht, htb⟩,
      ⟨r, l, hr, hl, hs, hls⟩, r', l', hr', hl', hlb⟩

end Caret
