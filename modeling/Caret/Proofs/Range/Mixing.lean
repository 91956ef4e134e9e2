/-
  Positions of two kinds are never mixed without notice.

  They are different, and all else that asks for both of them is refused. What decides for ranges is
  the first comparison of ends. Whether two ranges overlap is answered before that if one of them is
  empty.

  * `Mismatched`: a computation that is refused for a value of the wrong kind;
  * `Session.Rejects`, `Session.Settles`: computations that are refused so, or answered, in every
    session, and leave no trace in it;
  * `Position.mismatched_add`, `PositionRange.mismatched_covers`, …: operations that are refused so;
  * `PositionRange.overlaps_of_isEmpty`: an empty range overlaps none, of whatever kind;
  * `Binary.rejects_positions`, `Binary.rejects_ranges`, …: the same for requests;
  * `kinds_never_mix`: everything that can be asked of two kinds.
-/
import Caret.Proofs.Range.AnyKind
import Caret.Proofs.Reporting.Values
import Caret.Script.Argument

namespace Caret

open PositionKind (order)
open Session

variable {α β : Type}

/-! ## Refusals for the kind of a value -/

/-- The computation is refused for a value of the wrong kind. -/
def Mismatched (x : Except Fault α) : Prop :=
  ∃ m, x = .error (.mismatch m)

theorem Mismatched.bind {x : Except Fault α} (h : Mismatched x) (f : α → Except Fault β) :
    Mismatched (x >>= f) := by
  obtain ⟨m, rfl⟩ := h
  exact ⟨m, rfl⟩

theorem Mismatched.map {x : Except Fault α} (h : Mismatched x) (f : α → β) :
    Mismatched (x.map f) := by
  obtain ⟨m, rfl⟩ := h
  exact ⟨m, rfl⟩

namespace Session

/-- The computation is refused for a value of the wrong kind, in whatever session, and nothing in
    the session changes, its log included. -/
def Rejects (x : SessionM α) : Prop :=
  ∀ s : Session, ∃ m, x.run.run s = (.error (.fault (.mismatch m)), s)

/-- The computation is answered by `a` in whatever session, and nothing in the session changes. -/
def Settles (x : SessionM α) (a : α) : Prop :=
  ∀ s : Session, x.run.run s = (.ok a, s)

theorem Rejects.bind {x : SessionM α} (h : Rejects x) (f : α → SessionM β) :
    Rejects (x >>= f) := by
  intro s
  obtain ⟨m, hm⟩ := h s
  exact ⟨m, run_bind_error hm f⟩

/-- A computation reports what it is refused for, which is no disagreement. -/
theorem rejects_of_lift {x : SessionM α} {y : Except Fault α} (hx : lift y = x)
    (h : Mismatched y) : Rejects x := by
  obtain ⟨m, rfl⟩ := h
  subst hx
  exact fun s => ⟨m, rfl⟩

theorem settles_of_lift {x : SessionM α} {y : Except Fault α} (hx : lift y = x) {a : α}
    (h : y = .ok a) : Settles x a := by
  subst hx h
  exact fun s => rfl

theorem rejects_withObjects {f : Objects → SessionM α} (h : ∀ o, Rejects (f o)) :
    Rejects (withObjects f) :=
  fun s => h s.objects s

theorem settles_withObjects {f : Objects → SessionM α} {a : α} (h : ∀ o, Settles (f o) a) :
    Settles (withObjects f) a :=
  fun s => h s.objects s

end Session

/-! ## Two positions -/

namespace Position

variable {p q : Position}

theorem mismatched_add (h : p.kind ≠ q.kind) : Mismatched (p.add q) := by
  rw [add, as?_eq_none_iff.2 h.symm]
  exact ⟨_, rfl⟩

theorem mismatched_saturatingSub (h : p.kind ≠ q.kind) : Mismatched (p.saturatingSub q) := by
  rw [saturatingSub, as?_eq_none_iff.2 h.symm]
  exact ⟨_, rfl⟩

theorem mismatched_sum (h : p.kind ≠ q.kind) : Mismatched (p.sum q) := by
  rw [sum, as?_eq_none_iff.2 h.symm]
  exact ⟨_, rfl⟩

theorem test_eq_of_kind_ne (h : p.kind ≠ q.kind) : p.test .eq q = .ok false :=
  test_of_kind_ne h .eq

/-- Only whether they are the same can be asked of positions of two kinds. -/
theorem mismatched_test (h : p.kind ≠ q.kind) {c : Comparison}
    (hc : c ∈ [Comparison.lt, .le, .gt, .ge]) : Mismatched (p.test c q) := by
  rw [test_of_kind_ne h]
  cases c with
  | eq => simp at hc
  | ne => simp at hc
  | _ => exact ⟨_, rfl⟩

theorem mismatched_later (h : p.kind ≠ q.kind) : Mismatched (p.later q) :=
  (mismatched_test h.symm (by simp)).bind _

theorem mismatched_earlier (h : p.kind ≠ q.kind) : Mismatched (p.earlier q) :=
  (mismatched_test h.symm (by simp)).bind _

end Position

/-! ## Ranges -/

namespace PositionRange

variable {p q : Position} {r s : PositionRange}

theorem mismatched_of (h : p.kind ≠ q.kind) : Mismatched (of p q) := by
  rw [of, Position.as?_eq_none_iff.2 h.symm]
  exact ⟨_, rfl⟩

theorem mismatched_contains (h : r.kind ≠ p.kind) : Mismatched (r.contains p) := by
  rw [contains_eq]
  exact (Position.mismatched_test (p := r.start) h (by simp)).bind _

theorem mismatched_containsInclusive (h : r.kind ≠ p.kind) :
    Mismatched (r.containsInclusive p) := by
  rw [containsInclusive_eq]
  exact (Position.mismatched_test (p := r.start) h (by simp)).bind _

theorem mismatched_covers (h : r.kind ≠ s.kind) : Mismatched (r.covers s) := by
  rw [covers_eq]
  exact (Position.mismatched_test (p := r.start) (q := s.start) h (by simp)).bind _

theorem mismatched_intersect (h : r.kind ≠ s.kind) : Mismatched (r.intersect s) := by
  rw [intersect_eq]
  exact (Position.mismatched_later (p := r.start) (q := s.start) h).bind _

theorem mismatched_cover (h : r.kind ≠ s.kind) : Mismatched (r.cover s) := by
  rw [cover_eq]
  exact (Position.mismatched_earlier (p := r.start) (q := s.start) h).bind _

theorem mismatched_coverPosition (h : r.kind ≠ p.kind) : Mismatched (r.coverPosition p) := by
  rw [coverPosition_eq]
  exact mismatched_cover (s := ⟨p.kind, ⟨p.place, p.place⟩⟩) h

/-- The starts differ, so they decide; and they have no order. -/
theorem mismatched_test (h : r.kind ≠ s.kind) {c : Comparison}
    (hc : c ∈ [Comparison.lt, .le, .gt, .ge]) : Mismatched (r.test c s) := by
  rw [test_eq, Position.test_eq_of_kind_ne (p := r.start) (q := s.start) h]
  exact Position.mismatched_test (p := r.start) (q := s.start) h hc

theorem test_eq_of_kind_ne (h : r.kind ≠ s.kind) : r.test .eq s = .ok false := by
  rw [test_eq, Position.test_eq_of_kind_ne (p := r.start) (q := s.start) h]
  rfl

theorem isEmpty_eq_true_or_false (hr : r.range.Valid) :
    r.isEmpty = .ok true ∨ r.isEmpty = .ok false := by
  have hempty : r.isEmpty = .ok _ := hr.isEmpty_eq
  cases hb : order r.range.start r.range.stop == .eq with
  | true => exact .inl (hempty.trans (congrArg Except.ok hb))
  | false => exact .inr (hempty.trans (congrArg Except.ok hb))

theorem overlaps_of_isEmpty (hr : r.range.Valid)
    (h : r.isEmpty = .ok true ∨ s.isEmpty = .ok true) : r.overlaps s = .ok false := by
  rw [overlaps_eq]
  rcases isEmpty_eq_true_or_false hr with hr | hr
  · rw [hr]
    rfl
  · rw [hr, h.resolve_left (by rw [hr]; nofun)]
    rfl

/-- Where neither range is empty, the start of the first one is compared with the end of the
    other. -/
theorem mismatched_overlaps (h : r.kind ≠ s.kind) (hr : r.range.Valid) (hs : s.range.Valid)
    (hempty : ¬(r.isEmpty = .ok true ∨ s.isEmpty = .ok true)) : Mismatched (r.overlaps s) := by
  have hr := (isEmpty_eq_true_or_false hr).resolve_left fun h => hempty (.inl h)
  have hs := (isEmpty_eq_true_or_false hs).resolve_left fun h => hempty (.inr h)
  rw [overlaps_eq, hr, hs]
  exact (Position.mismatched_test (p := r.start) (q := s.stop) h (by simp)).bind _

end PositionRange

/-! ## Requests -/

/-- Whether the first range is empty is asked twice, which makes no difference. -/
theorem Value.overlaps_range (r s : PositionRange) :
    Value.overlaps (.range r) (.range s) = r.overlaps s := by
  show (do if ← r.isEmpty then return false else r.overlaps s) = r.overlaps s
  rw [PositionRange.overlaps_eq]
  rcases r.isEmpty with f | empty
  · rfl
  · cases empty <;> rfl

namespace Binary

variable {p q : Position} {r s : PositionRange} {op : Binary}

theorem rejects_positions (h : p.kind ≠ q.kind)
    (hop : op ∈ [add, saturatingSub, sum, test .lt, test .le, test .gt, test .ge]) :
    Rejects (withObjects (op.apply · (.position p) (.position q) SessionM)) := by
  refine rejects_withObjects fun o => rejects_of_lift (op.lift_apply o _ _) ?_
  cases op with
  | add => exact (Position.mismatched_add h).map Value.position
  | saturatingSub => exact (Position.mismatched_saturatingSub h).map Value.position
  | sum => exact (Position.mismatched_sum h).map Value.position
  | test c =>
    cases c with
    | eq | ne => simp at hop
    | lt | le | gt | ge => exact (Position.mismatched_test h (by simp)).bind _
  | _ => simp at hop

theorem settles_positions (h : p.kind ≠ q.kind) :
    Settles (withObjects (apply · (test .eq) (.position p) (.position q) SessionM))
      (.bool false) := by
  refine settles_withObjects fun o => settles_of_lift ((test .eq).lift_apply o _ _) ?_
  show (do return Value.bool (← p.test .eq q)) = _
  rw [Position.test_eq_of_kind_ne h]
  rfl

theorem rejects_range_position (h : r.kind ≠ p.kind)
    (hop : op ∈ [contains, containsInclusive, coverPosition]) :
    Rejects (withObjects (op.apply · (.range r) (.position p) SessionM)) := by
  refine rejects_withObjects fun o => rejects_of_lift (op.lift_apply o _ _) ?_
  cases op with
  | contains => exact (PositionRange.mismatched_contains h).bind _
  | containsInclusive => exact (PositionRange.mismatched_containsInclusive h).bind _
  | coverPosition => exact (PositionRange.mismatched_coverPosition h).bind _
  | _ => simp at hop

theorem rejects_ranges (h : r.kind ≠ s.kind)
    (hop : op ∈ [covers, intersect, cover, test .lt, test .le, test .gt, test .ge]) :
    Rejects (withObjects (op.apply · (.range r) (.range s) SessionM)) := by
  refine rejects_withObjects fun o => rejects_of_lift (op.lift_apply o _ _) ?_
  cases op with
  | covers => exact (PositionRange.mismatched_covers h).bind _
  | intersect => exact (PositionRange.mismatched_intersect h).bind _
  | cover => exact (PositionRange.mismatched_cover h).bind _
  | test c =>
    cases c with
    | eq | ne => simp at hop
    | lt | le | gt | ge => exact (PositionRange.mismatched_test h (by simp)).bind _
  | _ => simp at hop

theorem settles_ranges (h : r.kind ≠ s.kind) :
    Settles (withObjects (apply · (test .eq) (.range r) (.range s) SessionM)) (.bool false) := by
  refine settles_withObjects fun o => settles_of_lift ((test .eq).lift_apply o _ _) ?_
  show (do return Value.bool (← r.test .eq s)) = _
  rw [PositionRange.test_eq_of_kind_ne h]
  rfl

end Binary

theorem Builder.rejects_range {p q : Position} (h : p.kind ≠ q.kind) :
    Rejects (Builder.range.build [.position p, .position q]) := by
  have hrange : Mismatched (Value.rangeOf (.position p) (.position q)) :=
    PositionRange.mismatched_of h
  exact (rejects_of_lift (Value.lift_rangeOf _ _) hrange).bind _

/-! ## Main statement -/

/-- **Kinds never mix.** Take positions of two kinds, watched or not. They are different; to add,
    subtract or order them is refused, and so is a range between them. To ask whether a range of one
    kind holds a position of the other is refused, and so is to extend it by one. Ranges of two
    kinds are different; to order them is refused, and so is to ask what they share or cover. To ask
    whether valid ones overlap is refused unless one of them is empty, and then they do not. All
    these refusals are for a value of the wrong kind, in whatever session, and leave it as it is,
    with its log: no disagreement of measures is found on the way. -/
theorem kinds_never_mix :
    (∀ p q : Position, p.kind ≠ q.kind →
      (∀ op ∈ [Binary.add, .saturatingSub, .sum, .test .lt, .test .le, .test .gt, .test .ge],
        Rejects (withObjects (op.apply · (.position p) (.position q) SessionM))) ∧
      Rejects (Builder.range.build [.position p, .position q]) ∧
      Settles (withObjects (Binary.apply · (.test .eq) (.position p) (.position q) SessionM))
        (.bool false)) ∧
    (∀ (r : PositionRange) (p : Position), r.kind ≠ p.kind →
      ∀ op ∈ [Binary.contains, .containsInclusive, .coverPosition],
        Rejects (withObjects (op.apply · (.range r) (.position p) SessionM))) ∧
    ∀ r s : PositionRange, r.kind ≠ s.kind →
      (∀ op ∈ [Binary.covers, .intersect, .cover, .test .lt, .test .le, .test .gt, .test .ge],
        Rejects (withObjects (op.apply · (.range r) (.range s) SessionM))) ∧
      Settles (withObjects (Binary.apply · (.test .eq) (.range r) (.range s) SessionM))
        (.bool false) ∧
      (r.range.Valid → s.range.Valid →
        let overlaps := withObjects (Binary.apply · .overlaps (.range r) (.range s) SessionM)
        let someEmpty := r.isEmpty = .ok true ∨ s.isEmpty = .ok true
        (someEmpty → Settles overlaps (.bool false)) ∧ (¬someEmpty → Rejects overlaps)) := by
  refine ⟨fun p q h => ?_, fun r p h op hop => Binary.rejects_range_position h hop,
    fun r s h => ?_⟩
  · exact ⟨fun op hop => Binary.rejects_positions h hop, Builder.rejects_range h,
      Binary.settles_positions h⟩
  · refine ⟨fun op hop => Binary.rejects_ranges h hop, Binary.settles_ranges h, fun hr hs => ?_⟩
    refine ⟨fun hempty => settles_withObjects fun o => ?_,
      fun hempty => rejects_withObjects fun o => ?_⟩
    · refine settles_of_lift (Binary.overlaps.lift_apply o _ _) ?_
      show (do return Value.bool (← Value.overlaps (.range r) (.range s))) = _
      rw [Value.overlaps_range, PositionRange.overlaps_of_isEmpty hr hempty]
      rfl
    · refine rejects_of_lift (Binary.overlaps.lift_apply o _ _) ?_
      show Mismatched (do return Value.bool (← Value.overlaps (.range r) (.range s)))
      rw [Value.overlaps_range]
      exact (PositionRange.mismatched_overlaps h hr hs hempty).bind _

/-- Rows and columns with the same numbers in both units, ranges between such, and a watched
    composite whose measures disagree, at which there is an empty range nevertheless. -/
theorem kinds_never_mix_same_numbers :
    ∃ (p q c : Position) (r s e : PositionRange),
      q.display = p.display ∧ c.display = p.display ∧
      r.range.Valid ∧ s.range.Valid ∧ e.range.Valid ∧
      Rejects (withObjects (Binary.apply · .sum (.position p) (.position q) SessionM)) ∧
      Settles (withObjects (Binary.apply · (.test .eq) (.position p) (.position q) SessionM))
        (.bool false) ∧
      Rejects (withObjects (Binary.apply · (.test .lt) (.position c) (.position p) SessionM)) ∧
      Rejects (withObjects (Binary.apply · .coverPosition (.range r) (.position c) SessionM)) ∧
      Rejects (withObjects (Binary.apply · .intersect (.range e) (.range s) SessionM)) ∧
      Rejects (withObjects (Binary.apply · .overlaps (.range r) (.range s) SessionM)) ∧
      Settles (withObjects (Binary.apply · .overlaps (.range r) (.range e) SessionM))
        (.bool false) := by
  let p : Position := ⟨.rowColumn .utf8, ⟨1, 2⟩⟩
  let q : Position := ⟨.rowColumn .utf16, ⟨1, 2⟩⟩
  let disagreeing : Composite := ⟨⟨0⟩, ⟨1, 2⟩, ⟨0, 9⟩, true⟩
  let c : Position := ⟨.composite, disagreeing⟩
  let r : PositionRange := ⟨.rowColumn .utf8, ⟨⟨0, 0⟩, ⟨1, 2⟩⟩⟩
  let s : PositionRange := ⟨.rowColumn .utf16, ⟨⟨0, 0⟩, ⟨1, 2⟩⟩⟩
  let e : PositionRange := ⟨.composite, ⟨disagreeing, disagreeing⟩⟩
  have hr : r.range.Valid := ⟨by decide, rfl⟩
  have hs : s.range.Valid := ⟨by decide, rfl⟩
  have he : e.range.Valid := ⟨by decide, rfl⟩
  obtain ⟨hpositions, hposition, hranges⟩ := kinds_never_mix
  obtain ⟨hpq, -, hdiffer⟩ := hpositions p q nofun
  have hcp := (hpositions c p nofun).1
  have hoverlaps := (hranges r s nofun).2.2 hr hs
  refine ⟨p, q, c, r, s, e, rfl, rfl, hr, hs, he, hpq _ (by simp), hdiffer,
    hcp _ (by simp), hposition r c nofun _ (by simp), (hranges e s nofun).1 _ (by simp),
    hoverlaps.2 ?_, ((hranges r e nofun).2.2 hr he).1 (.inr rfl)⟩
  rintro (h | h) <;> cases h

end Caret
