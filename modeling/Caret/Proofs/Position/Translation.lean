/-
  Positions seen from another one.

  To put a text in front of two positions moves them alike in every measure: it changes neither
  their order nor how far they are apart, nor whether the measures agree on it. To put a text behind
  them is another matter, as its rows discard their columns.

  * `Concur`: two computations answer alike, or are refused together because measures disagree;
  * `Kind.Moves`: a position seen from another one, and not watched for that;
  * `Composite.order_add_left`, `Composite.orderedAlike_add_left`, `Composite.monus_add_left`: the
    measures are moved one by one;
  * `Moves.order_eq`, `Moves.concur_comparable`, `Moves.injective`: what is moved keeps its order;
  * `Moves.concur_bind`, `Moves.concur_test`: comparisons of what is moved;
  * `Moves.concur_sub`: differences of what is moved;
  * `order_add_right_ne_gt`: what is put behind two positions does not exchange them.
-/
import Caret.Proofs.Position.Residual
import Caret.Proofs.WellFormed.Positions

namespace Caret

open PositionKind (add comparable order saturatingSub test)

/-! ## Answering alike -/

/-- Two computations come to answers related by `R`, or both are refused because measures disagree,
    in whatever words. -/
inductive Concur {α β : Type} (R : α → β → Prop) : Except Fault α → Except Fault β → Prop
  /-- Both answer. -/
  | ok {a : α} {b : β} (h : R a b) : Concur R (.ok a) (.ok b)
  /-- Both are refused. -/
  | violation (v w : Violation) : Concur R (.error (.violation v)) (.error (.violation w))

namespace Concur

variable {α β γ δ : Type} {R : α → β → Prop} {S : γ → δ → Prop} {x : Except Fault α}
  {y : Except Fault β}

theorem bind {f : α → Except Fault γ} {g : β → Except Fault δ} (h : Concur R x y)
    (hf : ∀ a b, R a b → Concur S (f a) (g b)) : Concur S (x >>= f) (y >>= g) := by
  cases h with
  | ok h => exact hf _ _ h
  | violation v w => exact .violation v w

theorem map {f : α → γ} {g : β → δ} (h : Concur R x y) (hf : ∀ a b, R a b → S (f a) (g b)) :
    Concur S (x.map f) (y.map g) :=
  h.bind (f := fun a => .ok (f a)) (g := fun b => .ok (g b)) fun a b hab => .ok (hf a b hab)

theorem mono {T : α → β → Prop} (h : Concur R x y) (hT : ∀ a b, R a b → T a b) :
    Concur T x y := by
  cases h with
  | ok h => exact .ok (hT _ _ h)
  | violation v w => exact .violation v w

theorem exists_of_ok {a : α} (h : Concur R (.ok a) y) : ∃ b, y = .ok b ∧ R a b := by
  cases h with
  | ok h => exact ⟨_, rfl, h⟩

theorem exists_of_error {f : Fault} (h : Concur R (.error f) y) :
    ∃ v w, f = .violation v ∧ y = .error (.violation w) := by
  cases h with
  | violation v w => exact ⟨v, w, rfl, rfl⟩

/-- What is answered is what the first computation answers. -/
theorem with_ok (h : Concur R x y) : Concur (fun a b => R a b ∧ x = .ok a) x y := by
  cases h with
  | ok h => exact .ok ⟨h, rfl⟩
  | violation v w => exact .violation v w

theorem ite {c : Prop} [Decidable c] {x' : Except Fault α} {y' : Except Fault β}
    (h : c → Concur R x y) (h' : ¬c → Concur R x' y') :
    Concur R (if c then x else x') (if c then y else y') := by
  by_cases hc : c
  · rw [if_pos hc, if_pos hc]
    exact h hc
  · rw [if_neg hc, if_neg hc]
    exact h' hc

theorem eq_ok_iff {x y : Except Fault α} {a : α} (h : Concur Eq x y) : x = .ok a ↔ y = .ok a := by
  cases h with
  | ok h => rw [h]
  | violation v w => exact iff_of_false nofun nofun

end Concur

/-! ## One measure -/

theorem ByteIndex.order_add_right_ne_gt {a b c x y : ByteIndex} (hx : a.add c = .ok x)
    (hy : b.add c = .ok y) (h : a.order b ≠ .gt) : x.order y ≠ .gt := by
  rw [add_eq_ok_iff] at hx hy
  rw [order_ne_gt_iff] at h ⊢
  omega

/-- On rows and columns what is put behind may make two positions one. -/
theorem RowColumn.order_add_right_ne_gt {u : ColumnUnit} {a b c x y : RowColumn u}
    (hx : a.add c = .ok x) (hy : b.add c = .ok y) (h : a.order b ≠ .gt) : x.order y ≠ .gt := by
  rw [add_eq_ok_iff] at hx hy
  rw [order_ne_gt_iff] at h ⊢
  split_ifs at * <;> omega

theorem ByteIndex.monus_add_left {p a b x y : ByteIndex} (hx : p.add a = .ok x)
    (hy : p.add b = .ok y) : y.monus x = b.monus a := by
  rw [← monus_monus hx, monus_of_add hy]

theorem RowColumn.monus_add_left {u : ColumnUnit} {p a b x y : RowColumn u}
    (hx : p.add a = .ok x) (hy : p.add b = .ok y) : y.monus x = b.monus a := by
  rw [← monus_monus hx, monus_of_add hy]

/-! ## Composites -/

namespace Composite

variable {p a b x y : Composite}

theorem order_add_left (hx : p.add a = .ok x) (hy : p.add b = .ok y) : x.order y = a.order b := by
  obtain ⟨hindex, h8, h16, -⟩ := add_eq_ok_iff.1 hx
  obtain ⟨hindex', h8', h16', -⟩ := add_eq_ok_iff.1 hy
  rw [order, order, ByteIndex.order_add_left hindex hindex', RowColumn.order_add_left h8 h8',
    RowColumn.order_add_left h16 h16']

theorem orderedAlike_add_left (hx : p.add a = .ok x) (hy : p.add b = .ok y) :
    x.OrderedAlike y ↔ a.OrderedAlike b := by
  obtain ⟨hindex, h8, h16, -⟩ := add_eq_ok_iff.1 hx
  obtain ⟨hindex', h8', h16', -⟩ := add_eq_ok_iff.1 hy
  rw [OrderedAlike, OrderedAlike, ByteIndex.order_add_left hindex hindex',
    RowColumn.order_add_left h8 h8', RowColumn.order_add_left h16 h16']

theorem monus_add_left (hx : p.add a = .ok x) (hy : p.add b = .ok y) :
    y.index.monus x.index = b.index.monus a.index ∧ y.utf8.monus x.utf8 = b.utf8.monus a.utf8 ∧
      y.utf16.monus x.utf16 = b.utf16.monus a.utf16 := by
  obtain ⟨hindex, h8, h16, -⟩ := add_eq_ok_iff.1 hx
  obtain ⟨hindex', h8', h16', -⟩ := add_eq_ok_iff.1 hy
  exact ⟨ByteIndex.monus_add_left hindex hindex', RowColumn.monus_add_left h8 h8',
    RowColumn.monus_add_left h16 h16'⟩

theorem concur_comparable (halike : a.OrderedAlike b ↔ x.OrderedAlike y)
    (hk : (a.checked || b.checked) = (x.checked || y.checked)) :
    Concur Eq (comparable a b) (comparable x y) := by
  rw [comparable, comparable, checkComparable, checkComparable, hk, if_congr halike rfl rfl]
  refine .ite (fun _ => ?_) fun _ => .ok rfl
  exact .ite (fun _ => .ok rfl) fun _ => .violation _ _

/-- Differences are refused for disagreement only. -/
theorem concur_saturatingSub (hx : p.add a = .ok x) (hy : p.add b = .ok y)
    (ha : x.checked = a.checked) (hb : y.checked = b.checked) :
    Concur Eq (b.saturatingSub a) (y.saturatingSub x) := by
  obtain ⟨hindex, h8, h16⟩ := monus_add_left hx hy
  have hk : (b.checked || a.checked) = (y.checked || x.checked) := by rw [ha, hb]
  rw [saturatingSub, saturatingSub, hindex, h8, h16, ← hk]
  refine (concur_comparable (orderedAlike_add_left hy hx).symm hk).bind fun _ _ _ => ?_
  cases h : of (b.index.monus a.index) (b.utf8.monus a.utf8) (b.utf16.monus a.utf16)
      (b.checked || a.checked) with
  | ok d => exact .ok rfl
  | error f =>
    obtain ⟨-, v, -, rfl⟩ := of_eq_error_iff.1 h
    exact .violation v v

end Composite

/-! ## Every kind -/

namespace Kind

variable {k : Kind} {p a b c x y : k.Place}

/-- Seen from `p`, the position `a` is `x`. A position `p` that is watched takes only such positions
    with it as are watched themselves, so that what is not watched does not become so. -/
structure Moves (k : Kind) (p a x : k.Place) : Prop where
  /-- It is behind `p` as `a` is behind the start. -/
  add_eq : add p a = .ok x
  /-- It is not watched for being seen from `p`. -/
  watched : k.watched p = true → k.watched a = true

theorem Moves.watched_eq (h : k.Moves p a x) : k.watched x = k.watched a := by
  rw [(k.ensures_add p a x h.add_eq).watched_eq]
  cases hp : k.watched p with
  | false => exact Bool.false_or _
  | true => rw [h.watched hp, Bool.or_self]

theorem Moves.order_eq : {k : Kind} → {p a b x y : k.Place} → k.Moves p a x → k.Moves p b y →
    order a b = order x y
  | .byteIndex, _, _, _, _, _, ha, hb => (ByteIndex.order_add_left ha.add_eq hb.add_eq).symm
  | .rowColumn _, _, _, _, _, _, ha, hb => (RowColumn.order_add_left ha.add_eq hb.add_eq).symm
  | .composite, _, _, _, _, _, ha, hb => (Composite.order_add_left ha.add_eq hb.add_eq).symm

theorem Moves.concur_comparable : {k : Kind} → {p a b x y : k.Place} → k.Moves p a x →
    k.Moves p b y → Concur Eq (comparable a b) (comparable x y)
  | .byteIndex, _, _, _, _, _, _, _ => .ok rfl
  | .rowColumn _, _, _, _, _, _, _, _ => .ok rfl
  | .composite, _, _, _, _, _, ha, hb =>
    Composite.concur_comparable (Composite.orderedAlike_add_left ha.add_eq hb.add_eq).symm
      (congrArg₂ or ha.watched_eq.symm hb.watched_eq.symm)

/-- Both comparisons are answered by the order of `a` and `b`, or both are refused. -/
theorem Moves.concur_holds (ha : k.Moves p a x) (hb : k.Moves p b y) (cmp : Comparison) :
    Concur (fun answer answer' => answer = cmp.holds (order a b) ∧ answer' = cmp.holds (order a b))
      (test cmp a b) (test cmp x y) := by
  rw [PositionKind.test_eq, PositionKind.test_eq, ← ha.order_eq hb]
  exact (ha.concur_comparable hb).map fun _ _ _ => ⟨rfl, rfl⟩

theorem Moves.concur_test (ha : k.Moves p a x) (hb : k.Moves p b y) (cmp : Comparison) :
    Concur Eq (test cmp a b) (test cmp x y) :=
  (ha.concur_holds hb cmp).mono fun _ _ h => h.1.trans h.2.symm

/-- What is done after a comparison. -/
theorem Moves.concur_bind {α β : Type} {R : α → β → Prop} (ha : k.Moves p a x)
    (hb : k.Moves p b y) {cmp : Comparison} {f : Bool → Except Fault α} {g : Bool → Except Fault β}
    (h : Concur R (f (cmp.holds (order a b))) (g (cmp.holds (order a b)))) :
    Concur R (test cmp a b >>= f) (test cmp x y >>= g) := by
  refine (ha.concur_holds hb cmp).bind ?_
  rintro _ _ ⟨rfl, rfl⟩
  exact h

theorem Moves.concur_sub : {k : Kind} → {p a b x y : k.Place} → k.Moves p a x → k.Moves p b y →
    Concur Eq (saturatingSub b a) (saturatingSub y x)
  | .byteIndex, _, _, _, _, _, ha, hb => .ok (ByteIndex.monus_add_left ha.add_eq hb.add_eq).symm
  | .rowColumn _, _, _, _, _, _, ha, hb => .ok (RowColumn.monus_add_left ha.add_eq hb.add_eq).symm
  | .composite, _, _, _, _, _, ha, hb =>
    Composite.concur_saturatingSub ha.add_eq hb.add_eq ha.watched_eq hb.watched_eq

theorem Moves.injective : {k : Kind} → {p a b x : k.Place} → k.Moves p a x → k.Moves p b x → a = b
  | .byteIndex, _, _, _, _, ha, hb => SingleMeasure.add_left_cancel ha.add_eq hb.add_eq
  | .rowColumn _, _, _, _, _, ha, hb => SingleMeasure.add_left_cancel ha.add_eq hb.add_eq
  | .composite, _, _, _, x, ha, hb => by
    have heq : Composite.order x x = .eq := Composite.order_eq_eq_iff.2 (.refl x)
    have hplace := Composite.order_eq_eq_iff.1 ((ha.order_eq hb).trans heq)
    exact hplace.eq (ha.watched_eq.symm.trans hb.watched_eq)

end Kind

end Caret
