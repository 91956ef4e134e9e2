/-
  When operations on ranges between watched composites are refused.

  All of them compare ends, and watched composites whose measures disagree are not compared. What is
  chosen among ends that could be compared is in order in all measures, so that a range made of it
  is not refused for its own ends.

  * `Range.cover_of_watched`, `Range.intersect_of_watched`: what is compared, and what comes of it;
  * `Range.overlaps_of_alike`, `Range.overlaps_of_not_alike`: the same for overlaps, where the
    second comparison may not be made;
  * `refused_iff_not_comparable`: exactly which ends have to be comparable.
-/
import Caret.Proofs.Range.Watched

namespace Caret

namespace Range

variable {r s : Range Composite}

/-! ## Hull -/

/-- The earlier start leads on to the later end. -/
theorem Watched.smaller_leads_larger (hr : r.Watched) (hstart : r.start.OrderedAlike s.start)
    (hstop : r.stop.OrderedAlike s.stop) :
    (r.start.smaller s.start).Leads (r.stop.larger s.stop) :=
  hstart.smaller_leads.1.trans (hr.leads.trans hstop.leads_larger.1)

theorem cover_of_watched (hr : r.Watched) (hs : s.Watched) :
    r.cover s = if r.start.OrderedAlike s.start then
        if r.stop.OrderedAlike s.stop then
          .ok ⟨r.start.smaller s.start, r.stop.larger s.stop⟩
        else .error (.violation (.ordersDiffer s.stop r.stop))
      else .error (.violation (.ordersDiffer s.start r.start)) := by
  rw [cover, earlier_of_watched hs.start, later_of_watched hs.stop]
  by_cases hstart : r.start.OrderedAlike s.start
  · rw [if_pos hstart, if_pos hstart]
    by_cases hstop : r.stop.OrderedAlike s.stop
    · rw [if_pos hstop, if_pos hstop]
      exact of_leads (hr.smaller_leads_larger hstart hstop)
    · rw [if_neg hstop, if_neg hstop]
      rfl
  · rw [if_neg hstart, if_neg hstart]
    rfl

theorem cover_eq_error_iff (hr : r.Watched) (hs : s.Watched) {f : Fault} :
    r.cover s = .error f ↔
      ¬r.start.OrderedAlike s.start ∧ f = .violation (.ordersDiffer s.start r.start) ∨
      r.start.OrderedAlike s.start ∧ ¬r.stop.OrderedAlike s.stop ∧
        f = .violation (.ordersDiffer s.stop r.stop) := by
  rw [cover_of_watched hr hs]
  by_cases hstart : r.start.OrderedAlike s.start
  · by_cases hstop : r.stop.OrderedAlike s.stop
    · simp [hstart, hstop]
    · simp [hstart, hstop, eq_comm]
  · simp [hstart, eq_comm]

theorem violation_of_cover_eq_error (hr : r.Watched) (hs : s.Watched) {f : Fault}
    (hf : r.cover s = .error f) : ∃ v, f = .violation v := by
  rcases (cover_eq_error_iff hr hs).1 hf with ⟨-, rfl⟩ | ⟨-, -, rfl⟩
  · exact ⟨_, rfl⟩
  · exact ⟨_, rfl⟩

theorem exists_cover_violation_iff (hr : r.Watched) (hs : s.Watched) :
    (∃ v, r.cover s = .error (.violation v)) ↔
      ¬r.start.OrderedAlike s.start ∨ ¬r.stop.OrderedAlike s.stop := by
  simp only [cover_eq_error_iff hr hs, Fault.violation.injEq]
  by_cases hstart : r.start.OrderedAlike s.start
  · simp [hstart]
  · simp [hstart]

/-- The hull is never refused for its own ends. -/
theorem of_earlier_later (hr : r.Watched) (hs : s.Watched) {start stop : Composite}
    (hstart : earlier r.start s.start = .ok start) (hstop : later r.stop s.stop = .ok stop) :
    of start stop = .ok ⟨start, stop⟩ := by
  rw [earlier_of_watched hs.start] at hstart
  rw [later_of_watched hs.stop] at hstop
  split at hstart
  swap
  · cases hstart
  split at hstop
  swap
  · cases hstop
  rename_i halike halike'
  obtain rfl := Except.ok.inj hstart
  obtain rfl := Except.ok.inj hstop
  exact of_leads (hr.smaller_leads_larger halike halike')

theorem cover_toOption_comm (hr : r.Watched) (hs : s.Watched) :
    (r.cover s).toOption = (s.cover r).toOption := by
  rw [cover_of_watched hr hs, cover_of_watched hs hr, Composite.smaller_comm hr.start hs.start,
    Composite.larger_comm hr.stop hs.stop]
  have hstart : r.start.OrderedAlike s.start ↔ s.start.OrderedAlike r.start := ⟨.symm, .symm⟩
  have hstop : r.stop.OrderedAlike s.stop ↔ s.stop.OrderedAlike r.stop := ⟨.symm, .symm⟩
  rw [if_congr hstart rfl rfl, if_congr hstop rfl rfl]
  split
  · split
    · rfl
    · rfl
  · rfl

/-! ## Common part -/

theorem intersect_of_watched (hr : r.Watched) (hs : s.Watched) :
    r.intersect s = if r.start.OrderedAlike s.start then
        if r.stop.OrderedAlike s.stop then
          if (r.stop.smaller s.stop).OrderedAlike (r.start.larger s.start) then
            if (r.stop.smaller s.stop).order (r.start.larger s.start) = .lt then .ok none
            else .ok (some ⟨r.start.larger s.start, r.stop.smaller s.stop⟩)
          else .error (.violation (.ordersDiffer (r.stop.smaller s.stop) (r.start.larger s.start)))
        else .error (.violation (.ordersDiffer s.stop r.stop))
      else .error (.violation (.ordersDiffer s.start r.start)) := by
  rw [intersect, later_of_watched hs.start, earlier_of_watched hs.stop]
  by_cases hstart : r.start.OrderedAlike s.start
  swap
  · rw [if_neg hstart, if_neg hstart]
    rfl
  rw [if_pos hstart, if_pos hstart]
  by_cases hstop : r.stop.OrderedAlike s.stop
  swap
  · rw [if_neg hstop, if_neg hstop]
    rfl
  rw [if_pos hstop, if_pos hstop]
  have hwatched := Composite.checked_smaller hr.stop hs.stop
  simp only [bind, Except.bind]
  rw [Composite.test_of_watched (by rw [hwatched, Bool.true_or])]
  by_cases hends : (r.stop.smaller s.stop).OrderedAlike (r.start.larger s.start)
  swap
  · rw [if_neg hends, if_neg hends]
  rw [if_pos hends, if_pos hends]
  by_cases hlt : (r.stop.smaller s.stop).order (r.start.larger s.start) = .lt
  · rw [if_pos hlt, hlt]
    rfl
  · -- what is compared before the range is made is what would be refused then
    rw [if_neg hlt, of_leads (hends.leads_of_not_lt hlt)]
    show (if (_ == Ordering.lt) = true then _ else _) = _
    rw [if_neg (by simpa using hlt)]
    rfl

theorem intersect_eq_error_iff (hr : r.Watched) (hs : s.Watched) {f : Fault} :
    r.intersect s = .error f ↔
      ¬r.start.OrderedAlike s.start ∧ f = .violation (.ordersDiffer s.start r.start) ∨
      r.start.OrderedAlike s.start ∧ ¬r.stop.OrderedAlike s.stop ∧
        f = .violation (.ordersDiffer s.stop r.stop) ∨
      r.start.OrderedAlike s.start ∧ r.stop.OrderedAlike s.stop ∧
        ¬(r.stop.smaller s.stop).OrderedAlike (r.start.larger s.start) ∧
        f = .violation (.ordersDiffer (r.stop.smaller s.stop) (r.start.larger s.start)) := by
  rw [intersect_of_watched hr hs]
  by_cases hstart : r.start.OrderedAlike s.start
  · by_cases hstop : r.stop.OrderedAlike s.stop
    · by_cases hends : (r.stop.smaller s.stop).OrderedAlike (r.start.larger s.start)
      · simp only [hstart, hstop, hends, if_true, not_true, false_and, and_false, or_false,
          iff_false]
        split
        · nofun
        · nofun
      · simp [hstart, hstop, hends, eq_comm]
    · simp [hstart, hstop, eq_comm]
  · simp [hstart, eq_comm]

theorem violation_of_intersect_eq_error (hr : r.Watched) (hs : s.Watched) {f : Fault}
    (hf : r.intersect s = .error f) : ∃ v, f = .violation v := by
  rcases (intersect_eq_error_iff hr hs).1 hf with ⟨-, rfl⟩ | ⟨-, -, rfl⟩ | ⟨-, -, -, rfl⟩
  · exact ⟨_, rfl⟩
  · exact ⟨_, rfl⟩
  · exact ⟨_, rfl⟩

theorem exists_intersect_violation_iff (hr : r.Watched) (hs : s.Watched) :
    (∃ v, r.intersect s = .error (.violation v)) ↔
      ¬r.start.OrderedAlike s.start ∨ ¬r.stop.OrderedAlike s.stop ∨
        ¬(r.start.larger s.start).OrderedAlike (r.stop.smaller s.stop) := by
  have hends : (r.start.larger s.start).OrderedAlike (r.stop.smaller s.stop) ↔
      (r.stop.smaller s.stop).OrderedAlike (r.start.larger s.start) := ⟨.symm, .symm⟩
  simp only [intersect_eq_error_iff hr hs, Fault.violation.injEq, hends]
  by_cases hstart : r.start.OrderedAlike s.start
  · by_cases hstop : r.stop.OrderedAlike s.stop
    · simp [hstart, hstop]
    · simp [hstart, hstop]
  · simp [hstart]

theorem intersect_toOption_comm (hr : r.Watched) (hs : s.Watched) :
    (r.intersect s).toOption = (s.intersect r).toOption := by
  rw [intersect_of_watched hr hs, intersect_of_watched hs hr,
    Composite.smaller_comm hr.stop hs.stop, Composite.larger_comm hr.start hs.start]
  have hstart : r.start.OrderedAlike s.start ↔ s.start.OrderedAlike r.start := ⟨.symm, .symm⟩
  have hstop : r.stop.OrderedAlike s.stop ↔ s.stop.OrderedAlike r.stop := ⟨.symm, .symm⟩
  rw [if_congr hstart rfl rfl, if_congr hstop rfl rfl]
  split
  · split
    · rfl
    · rfl
  · rfl

/-! ## Overlap -/

theorem Watched.isEmpty_eq (hr : r.Watched) : r.isEmpty = .ok (r.start.order r.stop == .eq) :=
  Valid.isEmpty_eq (k := .composite) hr.valid

theorem Watched.isEmpty_eq_false_iff (hr : r.Watched) :
    r.isEmpty = .ok false ↔ r.start.order r.stop ≠ .eq := by
  rw [hr.isEmpty_eq]
  simp

theorem Watched.isEmpty_eq_true (hr : r.Watched) (h : r.isEmpty ≠ .ok false) :
    r.isEmpty = .ok true := by
  rw [Ne, hr.isEmpty_eq_false_iff, not_not] at h
  rw [hr.isEmpty_eq, h]
  rfl

/-- What is asked of two ranges that are not empty. -/
theorem overlaps_of_nonempty (hr : r.isEmpty = .ok false) (hs : s.isEmpty = .ok false) :
    r.overlaps s = (do
      if ← PositionKind.test .lt r.start s.stop then PositionKind.test .lt s.start r.stop
      else return false) := by
  rw [overlaps, hr, hs]
  rfl

theorem overlaps_of_empty (hr : r.Watched) (hs : s.Watched)
    (h : ¬(r.isEmpty = .ok false ∧ s.isEmpty = .ok false)) : r.overlaps s = .ok false := by
  by_cases hempty : r.isEmpty = .ok false
  · rw [overlaps, hempty, hs.isEmpty_eq_true fun hs => h ⟨hempty, hs⟩]
    rfl
  · rw [overlaps, hr.isEmpty_eq_true hempty]
    rfl

theorem overlaps_of_alike (hr : r.Watched) (hs : s.Watched) (hne : r.isEmpty = .ok false)
    (hne' : s.isEmpty = .ok false) (h : r.start.OrderedAlike s.stop)
    (h' : s.start.OrderedAlike r.stop) :
    r.overlaps s = .ok (r.start.order s.stop == .lt && s.start.order r.stop == .lt) := by
  rw [overlaps_of_nonempty hne hne', Composite.test_of_watched (by rw [hr.start, Bool.true_or]),
    Composite.test_of_watched (by rw [hs.start, Bool.true_or]), if_pos h, if_pos h']
  cases r.start.order s.stop <;> rfl

/-- A range that does not start before the end of another one is behind all of it. -/
theorem Watched.alike_of_not_lt (hr : r.Watched) (hs : s.Watched)
    (h : r.start.OrderedAlike s.stop) (hlt : r.start.order s.stop ≠ .lt) :
    s.start.OrderedAlike r.stop :=
  (hs.leads.trans ((h.leads_of_not_lt hlt).trans hr.leads)).alike

/-- The second comparison is not made where the first one says no. Then the second one could not be
    refused, so that all depends on whether there is one that is. -/
theorem overlaps_of_not_alike (hr : r.Watched) (hs : s.Watched) (hne : r.isEmpty = .ok false)
    (hne' : s.isEmpty = .ok false)
    (h : ¬(r.start.OrderedAlike s.stop ∧ s.start.OrderedAlike r.stop)) :
    ∃ v, r.overlaps s = .error (.violation v) := by
  rw [overlaps_of_nonempty hne hne', Composite.test_of_watched (by rw [hr.start, Bool.true_or]),
    Composite.test_of_watched (by rw [hs.start, Bool.true_or])]
  by_cases hfirst : r.start.OrderedAlike s.stop
  · have hsecond : ¬s.start.OrderedAlike r.stop := fun h' => h ⟨hfirst, h'⟩
    have hlt : r.start.order s.stop = .lt := by
      by_contra hlt
      exact hsecond (hr.alike_of_not_lt hs hfirst hlt)
    rw [if_pos hfirst, if_neg hsecond, hlt]
    exact ⟨_, rfl⟩
  · rw [if_neg hfirst]
    exact ⟨_, rfl⟩

theorem exists_overlaps_violation_iff (hr : r.Watched) (hs : s.Watched) :
    (∃ v, r.overlaps s = .error (.violation v)) ↔ r.isEmpty = .ok false ∧ s.isEmpty = .ok false ∧
      (¬r.start.OrderedAlike s.stop ∨ ¬s.start.OrderedAlike r.stop) := by
  rw [← not_and_or, ← and_assoc]
  constructor
  · rintro ⟨v, hv⟩
    by_cases hne : r.isEmpty = .ok false ∧ s.isEmpty = .ok false
    · refine ⟨hne, fun h => ?_⟩
      cases hv.symm.trans (overlaps_of_alike hr hs hne.1 hne.2 h.1 h.2)
    · cases hv.symm.trans (overlaps_of_empty hr hs hne)
  · rintro ⟨⟨hne, hne'⟩, h⟩
    exact overlaps_of_not_alike hr hs hne hne' h

theorem violation_of_overlaps_eq_error (hr : r.Watched) (hs : s.Watched) {f : Fault}
    (hf : r.overlaps s = .error f) : ∃ v, f = .violation v := by
  by_cases hne : r.isEmpty = .ok false ∧ s.isEmpty = .ok false
  swap
  · cases hf.symm.trans (overlaps_of_empty hr hs hne)
  by_cases h : r.start.OrderedAlike s.stop ∧ s.start.OrderedAlike r.stop
  · cases hf.symm.trans (overlaps_of_alike hr hs hne.1 hne.2 h.1 h.2)
  · obtain ⟨v, hv⟩ := overlaps_of_not_alike hr hs hne.1 hne.2 h
    exact ⟨v, Except.error.inj (hf.symm.trans hv)⟩

theorem overlaps_toOption_comm (hr : r.Watched) (hs : s.Watched) :
    (r.overlaps s).toOption = (s.overlaps r).toOption := by
  by_cases hne : r.isEmpty = .ok false ∧ s.isEmpty = .ok false
  swap
  · rw [overlaps_of_empty hr hs hne, overlaps_of_empty hs hr fun h => hne h.symm]
  obtain ⟨hne, hne'⟩ := hne
  by_cases h : r.start.OrderedAlike s.stop ∧ s.start.OrderedAlike r.stop
  · rw [overlaps_of_alike hr hs hne hne' h.1 h.2, overlaps_of_alike hs hr hne' hne h.2 h.1,
      Bool.and_comm]
  · obtain ⟨v, hv⟩ := overlaps_of_not_alike hr hs hne hne' h
    obtain ⟨w, hw⟩ := overlaps_of_not_alike hs hr hne' hne fun h' => h h'.symm
    rw [hv, hw]
    rfl

end Range

/-! ## Main statement -/

/-- **Which ends have to be comparable.** Between watched composites, the hull of two ranges is
    refused exactly if the starts or the ends cannot be compared, and never for the ends of the
    hull; the common part also if what would be its ends cannot. Whether two ranges overlap is
    refused exactly if both have something in them, and the start of one cannot be compared with the
    end of the other. There are no other refusals, and it does not matter which of the ranges comes
    first. What only looks at one range is not refused for any range. -/
theorem refused_iff_not_comparable :
    (∀ r s : Range Composite, r.Watched → s.Watched →
      (∀ f, r.cover s = .error f ∨ r.intersect s = .error f ∨ r.overlaps s = .error f →
        ∃ v, f = .violation v) ∧
      ((∃ v, r.cover s = .error (.violation v)) ↔
        ¬r.start.OrderedAlike s.start ∨ ¬r.stop.OrderedAlike s.stop) ∧
      (∀ start stop, Range.earlier r.start s.start = .ok start →
        Range.later r.stop s.stop = .ok stop → Range.of start stop = .ok ⟨start, stop⟩) ∧
      ((∃ v, r.intersect s = .error (.violation v)) ↔
        ¬r.start.OrderedAlike s.start ∨ ¬r.stop.OrderedAlike s.stop ∨
          ¬(r.start.larger s.start).OrderedAlike (r.stop.smaller s.stop)) ∧
      ((∃ v, r.overlaps s = .error (.violation v)) ↔
        r.isEmpty = .ok false ∧ s.isEmpty = .ok false ∧
          (¬r.start.OrderedAlike s.stop ∨ ¬s.start.OrderedAlike r.stop)) ∧
      (r.intersect s).toOption = (s.intersect r).toOption ∧
      (r.cover s).toOption = (s.cover r).toOption ∧
      (r.overlaps s).toOption = (s.overlaps r).toOption) ∧
    ∀ (o : Objects) (r : PositionRange), r.range.Valid →
      ∀ op ∈ [Unary.isEmpty, .startPoint, .endPoint, .display],
        ∃ v, op.apply o (.range r) = .ok v := by
  refine ⟨fun r s hr hs => ?_, fun o r hr op hop => Unary.apply_of_valid o hr hop⟩
  refine ⟨?_, Range.exists_cover_violation_iff hr hs, ?_,
    Range.exists_intersect_violation_iff hr hs, Range.exists_overlaps_violation_iff hr hs,
    Range.intersect_toOption_comm hr hs, Range.cover_toOption_comm hr hs,
    Range.overlaps_toOption_comm hr hs⟩
  · rintro f (hf | hf | hf)
    · exact Range.violation_of_cover_eq_error hr hs hf
    · exact Range.violation_of_intersect_eq_error hr hs hf
    · exact Range.violation_of_overlaps_eq_error hr hs hf
  · exact fun start stop hstart hstop => Range.of_earlier_later hr hs hstart hstop

/-- Two ranges that overlap, with ends that no text has both of. They have neither a hull nor a
    common part, whichever comes first, but each of them can be looked at. -/
theorem refused_iff_not_comparable_at_ends :
    ∃ r s : Range Composite, r.Watched ∧ s.Watched ∧ r.stop.Consistent ∧ s.stop.Consistent ∧
      (∃ v, r.cover s = .error (.violation v)) ∧ (∃ v, r.intersect s = .error (.violation v)) ∧
      (¬∃ v, r.overlaps s = .error (.violation v)) ∧ (r.cover s).toOption = (s.cover r).toOption ∧
      ∃ v, Unary.startPoint.apply .initial (.range ⟨.composite, r⟩) = .ok v := by
  let r : Range Composite := ⟨⟨⟨0⟩, ⟨0, 0⟩, ⟨0, 0⟩, true⟩, ⟨⟨4⟩, ⟨1, 2⟩, ⟨1, 2⟩, true⟩⟩
  let s : Range Composite := ⟨⟨⟨1⟩, ⟨0, 1⟩, ⟨0, 1⟩, true⟩, ⟨⟨5⟩, ⟨1, 1⟩, ⟨1, 1⟩, true⟩⟩
  have hr : r.Watched := ⟨⟨by decide, rfl⟩, rfl, rfl⟩
  have hs : s.Watched := ⟨⟨by decide, rfl⟩, rfl, rfl⟩
  obtain ⟨hranges, hlook⟩ := refused_iff_not_comparable
  obtain ⟨-, hcover, -, hintersect, hoverlaps, -, hcomm, -⟩ := hranges r s hr hs
  have hstops : ¬r.stop.OrderedAlike s.stop := by decide
  refine ⟨r, s, hr, hs, by decide, by decide, hcover.2 (.inr hstops),
    hintersect.2 (.inr (.inl hstops)), ?_, hcomm, ?_⟩
  · rintro h
    obtain ⟨-, -, hapart⟩ := hoverlaps.1 h
    exact hapart.elim (absurd (by decide)) (absurd (by decide))
  · exact hlook .initial ⟨.composite, r⟩ hr.valid .startPoint (by decide)

end Caret
