/-
  Valid ranges: how they are made, and what looks at one of them only.

  A range is made exactly of ends that are in order and may be compared, which is what it is to be
  valid. So nothing that only looks at a valid range is refused.

  * `Kind.comparable_self`, `Kind.comparable_symm`, `Kind.test_eq_self`: comparing a position with
    itself, and two positions either way;
  * `Range.of_eq_map`, `Range.of_eq_ok_iff`: the ranges that are made are the valid ones;
  * `Range.valid_iff`: to be valid is that the start is at most the end;
  * `Range.of_self`, `Range.Valid.isEmpty_eq`: empty ranges.
-/
import Caret.Proofs.Position.Numbers

namespace Caret

open PositionKind (comparable order)

/-! ## Comparing positions of one kind -/

namespace Kind

theorem comparable_symm : {k : Kind} → {p q : k.Place} →
    comparable p q = .ok () → comparable q p = .ok ()
  | .byteIndex, _, _, _ => rfl
  | .rowColumn _, _, _, _ => rfl
  | .composite, p, q, h => by
    refine Composite.comparable_eq_ok_iff.2 fun hk => ?_
    rw [Bool.or_comm] at hk
    exact (Composite.comparable_eq_ok_iff.1 h hk).symm

theorem comparable_self : {k : Kind} → (p : k.Place) → comparable p p = .ok ()
  | .byteIndex, _ => rfl
  | .rowColumn _, _ => rfl
  | .composite, p => Composite.comparable_of_orderedAlike (Composite.SamePlace.refl p).orderedAlike

theorem order_self (k : Kind) (p : k.Place) : order p p = .eq :=
  (k.order_compares p p).eq_eq.2 rfl

theorem test_eq_self {k : Kind} (p : k.Place) : PositionKind.test .eq p p = .ok true := by
  rw [PositionKind.test_eq, comparable_self, order_self]
  rfl

end Kind

namespace Range

variable {k : Kind} {p q : k.Place} {r : Range k.Place}

/-! ## Making ranges -/

/-- Between positions in order there is a range, if they may be compared. -/
theorem of_eq_map (h : order p q ≠ .gt) : of p q = (comparable q p).map fun _ => ⟨p, q⟩ := by
  have hlt : order q p ≠ .lt := by
    rw [← k.order_swap p q, Ne, Ordering.swap_eq_lt]
    exact h
  rw [of, PositionKind.test_eq]
  cases comparable q p with
  | error f => rfl
  | ok u =>
    cases ho : order q p with
    | lt => exact absurd ho hlt
    | eq => rfl
    | gt => rfl

/-- The ranges that are made are the valid ones. -/
theorem of_eq_ok_iff : of p q = .ok r ↔ r = ⟨p, q⟩ ∧ r.Valid := by
  by_cases h : order p q = .gt
  · have hlt : order q p = .lt := by rw [← k.order_swap p q, h]; rfl
    rw [of, PositionKind.test_eq, hlt]
    constructor
    · intro hof
      cases hc : comparable q p with
      | error f => rw [hc] at hof; cases hof
      | ok u => rw [hc] at hof; cases hof
    · rintro ⟨rfl, hr⟩
      exact absurd h hr.order_ne_gt
  · rw [of_eq_map h, Except.map_eq_ok_iff]
    constructor
    · rintro ⟨_, hc, rfl⟩
      exact ⟨rfl, h, hc⟩
    · rintro ⟨rfl, hr⟩
      exact ⟨(), hr.comparable_eq_ok, rfl⟩

theorem valid_iff : r.Valid ↔ PositionKind.test .le r.start r.stop = .ok true := by
  have hle : Comparison.le.holds (order r.start r.stop) = true ↔ order r.start r.stop ≠ .gt := by
    simp [Comparison.holds]
  rw [PositionKind.test_eq_ok_true_iff, hle]
  constructor
  · rintro ⟨hle, hc⟩
    exact ⟨Kind.comparable_symm hc, hle⟩
  · rintro ⟨hc, hle⟩
    exact ⟨hle, Kind.comparable_symm hc⟩

/-! ## Empty ranges -/

/-- There is an empty range at every position. -/
theorem of_self (p : k.Place) : of p p = .ok ⟨p, p⟩ := by
  have hle : order p p ≠ .gt := by rw [k.order_self]; nofun
  rw [of_eq_map hle, Kind.comparable_self]
  rfl

theorem Valid.isEmpty_eq (hr : r.Valid) : r.isEmpty = .ok (order r.start r.stop == .eq) := by
  have hk := Kind.comparable_symm hr.comparable_eq_ok
  show PositionKind.test .eq r.start r.stop = _
  rw [PositionKind.test_eq, hk]
  rfl

end Range

end Caret
