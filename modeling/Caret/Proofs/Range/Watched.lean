/-
  Ranges between watched composites.

  What only looks at a valid range is not refused. To choose among ends of several ranges is, where
  the measures do not agree on their order; where they do, what is chosen leads on in all measures,
  so that there is a range between.

  * `Unary.apply_of_valid`: a valid range is looked at;
  * `Composite.larger`, `Composite.smaller`: the later and the earlier of two composites;
  * `Range.Watched`: a valid range between watched composites;
  * `Range.of_leads`: the range between composites one of which leads on to the other;
  * `Range.later_of_watched`, `Range.earlier_of_watched`: which composite is chosen, if one can be.
-/
import Caret.Proofs.Position.Comparisons
import Caret.Proofs.Range.Valid
import Caret.Script.Operation

namespace Caret

open PositionKind (comparable order)

/-! ## Looking at a valid range -/

/-- Nothing is refused that only looks at a valid range. -/
theorem Unary.apply_of_valid (o : Objects) {r : PositionRange} (hr : r.range.Valid) {op : Unary}
    (hop : op ∈ [Unary.isEmpty, .startPoint, .endPoint, .display]) :
    ∃ v, op.apply o (.range r) = .ok v := by
  have hempty : r.isEmpty = .ok (order r.range.start r.range.stop == .eq) := hr.isEmpty_eq
  have hstart : r.startPoint = .ok ⟨r.kind, ⟨r.range.start, r.range.start⟩⟩ := by
    rw [PositionRange.startPoint, Range.startPoint, Range.of_self]
    rfl
  have hend : r.endPoint = .ok ⟨r.kind, ⟨r.range.stop, r.range.stop⟩⟩ := by
    rw [PositionRange.endPoint, Range.endPoint, Range.of_self]
    rfl
  simp only [List.mem_cons, List.not_mem_nil, or_false] at hop
  rcases hop with rfl | rfl | rfl | rfl
  · simp only [apply, Value.isEmpty, Value.rangeWith, ofExcept_eq, bind, Except.bind, hempty]
    exact ⟨_, rfl⟩
  · simp only [apply, Value.startPoint, Value.rangeWith, ofExcept_eq, bind, Except.bind, hstart]
    exact ⟨_, rfl⟩
  · simp only [apply, Value.endPoint, Value.rangeWith, ofExcept_eq, bind, Except.bind, hend]
    exact ⟨_, rfl⟩
  · exact ⟨.text r.display, rfl⟩

/-! ## The later and the earlier composite -/

namespace Composite

variable {a b c : Composite}

/-- The later of two composites, the first one if they are the same. -/
def larger (a b : Composite) : Composite :=
  if a.order b = .lt then b else a

/-- The earlier of two composites, the first one if they are the same. -/
def smaller (a b : Composite) : Composite :=
  if b.order a = .lt then b else a

theorem Leads.refl (a : Composite) : a.Leads a :=
  ⟨(SamePlace.refl a).orderedAlike, by rw [order_eq_eq_iff.2 (SamePlace.refl a)]; nofun⟩

/-- Where the measures agree, one of two composites leads on to the other one. -/
theorem OrderedAlike.leads_of_lt (h : a.OrderedAlike b) (hlt : a.order b = .lt) : a.Leads b :=
  ⟨h, by rw [hlt]; nofun⟩

theorem OrderedAlike.leads_of_not_lt (h : a.OrderedAlike b) (hlt : a.order b ≠ .lt) :
    b.Leads a := by
  refine ⟨h.symm, ?_⟩
  rw [← order_swap, Ne, Ordering.swap_eq_gt]
  exact hlt

theorem OrderedAlike.leads_larger (h : a.OrderedAlike b) :
    a.Leads (a.larger b) ∧ b.Leads (a.larger b) := by
  unfold larger
  split
  · rename_i hlt
    exact ⟨h.leads_of_lt hlt, .refl b⟩
  · rename_i hlt
    exact ⟨.refl a, h.leads_of_not_lt hlt⟩

theorem OrderedAlike.smaller_leads (h : a.OrderedAlike b) :
    (a.smaller b).Leads a ∧ (a.smaller b).Leads b := by
  unfold smaller
  split
  · rename_i hlt
    exact ⟨h.symm.leads_of_lt hlt, .refl b⟩
  · rename_i hlt
    exact ⟨.refl a, h.symm.leads_of_not_lt hlt⟩

/-- Watched composites at the same place are equal, so it does not matter which one is chosen. -/
theorem eq_of_order_eq (ha : a.checked = true) (hb : b.checked = true) (h : a.order b = .eq) :
    a = b :=
  (order_eq_eq_iff.1 h).eq (ha.trans hb.symm)

theorem larger_comm (ha : a.checked = true) (hb : b.checked = true) : a.larger b = b.larger a := by
  rw [larger, larger, ← order_swap a b]
  cases h : a.order b with
  | lt => rfl
  | eq => exact eq_of_order_eq ha hb h
  | gt => rfl

theorem smaller_comm (ha : a.checked = true) (hb : b.checked = true) :
    a.smaller b = b.smaller a := by
  rw [smaller, smaller, ← order_swap a b]
  cases h : a.order b with
  | lt => rfl
  | eq => exact eq_of_order_eq ha hb h
  | gt => rfl

theorem checked_smaller (ha : a.checked = true) (hb : b.checked = true) :
    (a.smaller b).checked = true := by
  unfold smaller
  split
  · exact hb
  · exact ha

end Composite

/-! ## Watched ranges -/

namespace Range

variable {a b : Composite} {r s : Range Composite}

/-- A valid range between watched composites. -/
structure Watched (r : Range Composite) : Prop where
  /-- Its ends are in order. -/
  valid : r.Valid
  /-- Its start is watched. -/
  start : r.start.checked = true
  /-- Its end is watched. -/
  stop : r.stop.checked = true

theorem Watched.leads (hr : r.Watched) : r.start.Leads r.stop := by
  have halike : r.stop.OrderedAlike r.start :=
    Composite.comparable_eq_ok_iff.1 hr.valid.comparable_eq_ok (by rw [hr.stop, Bool.true_or])
  exact ⟨halike.symm, hr.valid.order_ne_gt⟩

/-- Between composites in order there is a range. -/
theorem of_leads (h : a.Leads b) : of a b = .ok ⟨a, b⟩ := by
  have hk : comparable b a = .ok () := Composite.comparable_of_orderedAlike h.alike.symm
  exact of_eq_ok_iff (k := .composite).2 ⟨rfl, h.order_ne_gt, hk⟩

theorem later_of_watched (hb : b.checked = true) :
    later a b = if a.OrderedAlike b then .ok (a.larger b)
      else .error (.violation (.ordersDiffer b a)) := by
  rw [later, Composite.test_of_watched (by rw [hb, Bool.true_or])]
  by_cases h : a.OrderedAlike b
  · rw [if_pos h.symm, if_pos h, Composite.larger, ← Composite.order_swap a b]
    cases a.order b <;> rfl
  · rw [if_neg fun h' => h h'.symm, if_neg h]
    rfl

theorem earlier_of_watched (hb : b.checked = true) :
    earlier a b = if a.OrderedAlike b then .ok (a.smaller b)
      else .error (.violation (.ordersDiffer b a)) := by
  rw [earlier, Composite.test_of_watched (by rw [hb, Bool.true_or])]
  by_cases h : a.OrderedAlike b
  · rw [if_pos h.symm, if_pos h, Composite.smaller]
    cases b.order a <;> rfl
  · rw [if_neg fun h' => h h'.symm, if_neg h]
    rfl

end Range

end Caret
