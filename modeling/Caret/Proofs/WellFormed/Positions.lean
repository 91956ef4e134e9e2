/-
  What operations answer is well-formed: composites that are watched are consistent, and ranges are
  valid.

  Every operation makes positions and ranges anew, and looks at them then. So it does not matter
  which of its arguments were watched.

  * `Kind.Sound`: a position that is consistent if it is watched;
  * `Kind.ensures_add`, `Kind.ensures_saturatingSub`: sums and differences are such positions, and
    watched if one of the two positions is;
  * `Range.Sound`: a valid range between such positions;
  * `Range.ensures_of`: ranges are made between ends in order, and of nothing else;
  * `Position.Sound`, `PositionRange.Sound`: the same for callers that do not know the kind.
-/
import Caret.Position.Any
import Caret.Proofs.Range.Valid
import Caret.Proofs.WellFormed.Ensures

namespace Caret

open PositionKind (comparable order)

/-! ## Positions of a kind -/

namespace Kind

/-- A position that is consistent if it is watched. Only composites can be. -/
def Sound : (k : Kind) → k.Place → Prop
  | .byteIndex, _ => True
  | .rowColumn _, _ => True
  | .composite, c => Composite.checked c = true → Composite.Consistent c

/-- Whether a position is watched. Only composites can be. -/
def watched : (k : Kind) → k.Place → Bool
  | .byteIndex, _ => false
  | .rowColumn _, _ => false
  | .composite, c => Composite.checked c

theorem sound_zero : (k : Kind) → k.Sound PositionKind.zero
  | .byteIndex => trivial
  | .rowColumn _ => trivial
  | .composite => nofun

/-- What `p` and `q` are combined to: a sound position, watched if one of the two is. -/
structure Combines (k : Kind) (p q s : k.Place) : Prop where
  /-- It is consistent if it is watched. -/
  sound : k.Sound s
  /-- It is watched if one of the two is. -/
  watched_eq : k.watched s = (k.watched p || k.watched q)

theorem ensures_add : (k : Kind) → (p q : k.Place) → Ensures (k.Combines p q) (PositionKind.add p q)
  | .byteIndex, _, _ => fun _ _ => ⟨trivial, rfl⟩
  | .rowColumn _, _, _ => fun _ _ => ⟨trivial, rfl⟩
  | .composite, _, _ => fun _ hs => by
    obtain ⟨-, -, -, hk, hcons⟩ := Composite.add_eq_ok_iff.1 hs
    exact ⟨hcons, hk⟩

theorem ensures_saturatingSub :
    (k : Kind) → (p q : k.Place) → Ensures (k.Combines p q) (PositionKind.saturatingSub p q)
  | .byteIndex, _, _ => fun _ _ => ⟨trivial, rfl⟩
  | .rowColumn _, _, _ => fun _ _ => ⟨trivial, rfl⟩
  | .composite, _, _ => fun _ hd => by
    obtain ⟨-, rfl, hcons⟩ := Composite.saturatingSub_eq_ok_iff.1 hd
    exact ⟨hcons, rfl⟩

end Kind

theorem Composite.ensures_withChecked (c : Composite) (checked : Bool) :
    Ensures Kind.composite.Sound (c.withChecked checked) := by
  intro d hd
  obtain ⟨rfl, hcons⟩ := of_eq_ok_iff.1 hd
  exact hcons

/-! ## Ranges of a kind -/

namespace Range

/-- A valid range between positions that are consistent if they are watched. -/
structure Sound {k : Kind} (r : Range k.Place) : Prop where
  /-- The start is consistent if it is watched. -/
  start : k.Sound r.start
  /-- The end is, too. -/
  stop : k.Sound r.stop
  /-- The ends are in order, and may be compared. -/
  valid : r.Valid

variable {k : Kind} {p q : k.Place} {r s : Range k.Place}

/-- A range is made only of ends that may be compared, and are in order then. -/
theorem ensures_of (hp : k.Sound p) (hq : k.Sound q) : Ensures Sound (of p q) := by
  intro r hr
  obtain ⟨rfl, hvalid⟩ := of_eq_ok_iff.1 hr
  exact ⟨hp, hq, hvalid⟩

theorem ensures_empty (hp : k.Sound p) : Ensures Sound (empty p) :=
  ensures_of hp hp

theorem ensures_later (hp : k.Sound p) (hq : k.Sound q) : Ensures k.Sound (later p q) :=
  .next fun _ => .ite (.ok hq) (.ok hp)

theorem ensures_earlier (hp : k.Sound p) (hq : k.Sound q) : Ensures k.Sound (earlier p q) :=
  .next fun _ => .ite (.ok hq) (.ok hp)

theorem ensures_intersect (hr : r.Sound) (hs : s.Sound) :
    Ensures (fun u => ∀ t ∈ u, t.Sound) (r.intersect s) := by
  refine (ensures_later hr.start hs.start).bind fun start hstart => ?_
  refine (ensures_earlier hr.stop hs.stop).bind fun stop hstop => .next fun apart => ?_
  refine .ite (.ok nofun) ((ensures_of hstart hstop).bind fun t ht => .ok ?_)
  rintro _ ⟨⟩
  exact ht

theorem ensures_cover (hr : r.Sound) (hs : s.Sound) : Ensures Sound (r.cover s) :=
  (ensures_earlier hr.start hs.start).bind fun _ hstart =>
    (ensures_later hr.stop hs.stop).bind fun _ hstop => ensures_of hstart hstop

theorem ensures_coverPosition (hr : r.Sound) (hp : k.Sound p) :
    Ensures Sound (r.coverPosition p) :=
  (ensures_empty hp).bind fun _ he => ensures_cover hr he

end Range

/-! ## Positions of any kind -/

namespace Position

/-- A position that is consistent if it is watched. -/
def Sound (p : Position) : Prop :=
  p.kind.Sound p.place

variable {p q s : Position}

theorem Sound.of_as? {k : Kind} {place : k.Place} (h : p.Sound) (hp : p.as? k = some place) :
    k.Sound place := by
  obtain ⟨k', p⟩ := p
  by_cases hk : k' = k
  · subst hk
    rw [as?_mk] at hp
    obtain rfl := Option.some.inj hp
    exact h
  · rw [as?_eq_none_iff.2 hk] at hp
    cases hp

theorem sound_zero (k : Kind) : (zero k).Sound :=
  k.sound_zero

/-- The positions `p` and `q` are of one kind, and `s` is what they are combined to. -/
def Combines (p q s : Position) : Prop :=
  ∃ (k : Kind) (a b c : k.Place), p = ⟨k, a⟩ ∧ q = ⟨k, b⟩ ∧ s = ⟨k, c⟩ ∧ k.Combines a b c

theorem Combines.sound (h : p.Combines q s) : s.Sound := by
  obtain ⟨k, a, b, c, rfl, rfl, rfl, hc⟩ := h
  exact hc.sound

/-- An operation on positions of one kind, for callers that do not know the kind. -/
theorem ensures_combines {x : p.kind.Place → Except Fault p.kind.Place} (f : Fault)
    (h : ∀ b, Ensures (p.kind.Combines p.place b) (x b)) :
    Ensures (Combines p q) (match q.as? p.kind with
      | some b => (x b).map (⟨p.kind, ·⟩)
      | none => .error f) := by
  obtain ⟨k, a⟩ := p
  obtain ⟨k', b⟩ := q
  by_cases hk : k' = k
  · subst hk
    rw [as?_mk]
    exact (h b).map fun c hc => ⟨k', a, b, c, rfl, rfl, rfl, hc⟩
  · rw [as?_eq_none_iff.2 hk]
    exact .error f

theorem ensures_add (p q : Position) : Ensures (Combines p q) (p.add q) :=
  ensures_combines _ (p.kind.ensures_add p.place)

theorem ensures_sum (p q : Position) : Ensures (Combines p q) (p.sum q) :=
  ensures_combines _ (p.kind.ensures_add p.place)

theorem ensures_saturatingSub (p q : Position) : Ensures (Combines p q) (p.saturatingSub q) :=
  ensures_combines _ (p.kind.ensures_saturatingSub p.place)

end Position

/-! ## Ranges of any kind -/

namespace PositionRange

/-- A valid range between positions that are consistent if they are watched. -/
def Sound (r : PositionRange) : Prop :=
  r.range.Sound

variable {p q : Position} {r s : PositionRange}

theorem Sound.of_as? {k : Kind} {range : Range k.Place} (h : r.Sound) (hr : r.as? k = some range) :
    range.Sound := by
  obtain ⟨k', r⟩ := r
  by_cases hk : k' = k
  · subst hk
    rw [as?_mk] at hr
    obtain rfl := Option.some.inj hr
    exact h
  · simp [as?, hk] at hr

theorem ensures_of (hp : p.Sound) (hq : q.Sound) : Ensures Sound (of p q) := by
  rw [of]
  cases hb : q.as? p.kind with
  | none => exact .error _
  | some b => exact (Range.ensures_of hp (hq.of_as? hb)).map fun _ h => h

theorem ensures_empty (hp : p.Sound) : Ensures Sound (empty p) :=
  (Range.ensures_empty hp).map fun _ h => h

theorem ensures_zero (k : Kind) : Ensures Sound (zero k) :=
  ensures_empty (Position.sound_zero k)

theorem ensures_upTo (hp : p.Sound) : Ensures Sound (upTo p) :=
  (Range.ensures_of p.kind.sound_zero hp).map fun _ h => h

theorem ensures_startPoint (hr : r.Sound) : Ensures Sound r.startPoint :=
  (Range.ensures_empty hr.start).map fun _ h => h

theorem ensures_endPoint (hr : r.Sound) : Ensures Sound r.endPoint :=
  (Range.ensures_empty hr.stop).map fun _ h => h

theorem ensures_len (r : PositionRange) : Ensures Position.Sound r.len :=
  (r.kind.ensures_saturatingSub r.range.stop r.range.start).map fun _ h => h.sound

theorem ensures_intersect (hr : r.Sound) (hs : s.Sound) :
    Ensures (fun u => ∀ t ∈ u, t.Sound) (r.intersect s) := by
  rw [intersect]
  cases hb : s.as? r.kind with
  | none => exact .error _
  | some b =>
    refine (Range.ensures_intersect hr (hs.of_as? hb)).map fun u hu => ?_
    rintro t ht
    obtain ⟨range, hrange, rfl⟩ := Option.mem_map.1 ht
    exact hu range hrange

theorem ensures_cover (hr : r.Sound) (hs : s.Sound) : Ensures Sound (r.cover s) := by
  rw [cover]
  cases hb : s.as? r.kind with
  | none => exact .error _
  | some b => exact (Range.ensures_cover hr (hs.of_as? hb)).map fun _ h => h

theorem ensures_coverPosition (hr : r.Sound) (hp : p.Sound) :
    Ensures Sound (r.coverPosition p) := by
  rw [coverPosition]
  cases hb : p.as? r.kind with
  | none => exact .error _
  | some b => exact (Range.ensures_coverPosition hr (hp.of_as? hb)).map fun _ h => h

end PositionRange

end Caret
