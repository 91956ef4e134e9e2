/-
  The six comparisons of composites.

  They are refused together, where measures that are watched disagree on the order, and otherwise
  follow the order of the numbers. What is watched is compared in all measures, and what is not only
  by its numbers, so that two answers need not lead to a third one.

  * `Kind.test_eq_between`: comparisons of any kind follow the numbers, if they are not refused;
  * `Composite.test_of_watched`: comparisons where one of two composites is watched;
  * `Composite.test_eq_byTwo`: two of the comparisons are enough to make the others;
  * `Composite.Leads`: the measures agree that a composite is not behind another one;
  * `Leads.trans`: so they agree along a chain;
  * `Composite.test_le_eq_ok_true_iff`: what this has to do with comparisons;
  * `comparisons_agree`: how the comparisons belong together, and how far they are transitive.
-/
import Caret.Proofs.Position.Numbers

namespace Caret

open PositionKind (comparable order test)

/-! ## Comparisons and numbers -/

theorem Comparison.holds_of_compares {α : Type} [LinearOrder α] (c : Comparison) {o : Ordering}
    {x y : α} (h : o.Compares x y) : c.holds o = c.between x y := by
  rw [← (compare_iff x y).2 h, c.holds_compare]

theorem Kind.test_eq_between (k : Kind) (c : Comparison) (p q : k.Place) :
    test c p q = (comparable p q).map fun _ => c.between (k.numbers p) (k.numbers q) := by
  rw [PositionKind.test_eq, c.holds_of_compares (k.order_compares p q)]

/-- Of two members of a linear order one is the smaller one, or they are equal. -/
theorem Comparison.count_between {α : Type} [LinearOrder α] (x y : α) :
    [lt.between x y, eq.between x y, gt.between x y].count true = 1 := by
  rcases lt_trichotomy x y with h | rfl | h
  · simp [between, h, h.ne, h.le]
  · simp [between]
  · simp [between, h, h.ne', h.le]

/-- The other three comparisons are combined of those. -/
theorem Comparison.between_combined {α : Type} [LinearOrder α] (x y : α) :
    le.between x y = (lt.between x y || eq.between x y) ∧
      ge.between x y = (gt.between x y || eq.between x y) ∧ ne.between x y = !eq.between x y := by
  simp only [between, ← Bool.decide_or, ← decide_not, decide_eq_decide]
  exact ⟨le_iff_lt_or_eq, le_iff_lt_or_eq.trans (or_congr_right eq_comm), trivial⟩

/-! ## Chains -/

/-- Along a chain the first step that leads on decides. -/
theorem order_eq_then {α : Type} {cmp : α → α → Ordering} [Std.TransCmp cmp] {x y z : α}
    (hxy : cmp x y ≠ .gt) (hyz : cmp y z ≠ .gt) : cmp x z = (cmp x y).then (cmp y z) := by
  cases h : cmp x y with
  | lt => exact Std.TransCmp.lt_of_lt_of_isLE h (Ordering.isLE_iff_ne_gt.2 hyz)
  | eq => exact Std.TransCmp.congr_left h
  | gt => exact absurd h hxy

instance : Std.TransCmp ByteIndex.order :=
  inferInstanceAs (Std.TransCmp (compareOn fun a : ByteIndex => a.index.val))

instance (u : ColumnUnit) : Std.TransCmp (RowColumn.order (u := u)) :=
  inferInstanceAs (Std.TransCmp (compareLex (compareOn fun a : RowColumn u => a.row.val)
    (compareOn fun a : RowColumn u => a.column.val)))

namespace Composite

variable {a b c : Composite}

/-! ## Watched composites -/

/-- If one of two composites is watched, they are compared only if the measures agree. -/
theorem test_of_watched (h : (a.checked || b.checked) = true) (cmp : Comparison) :
    test cmp a b = if a.OrderedAlike b then .ok (cmp.holds (a.order b))
      else .error (.violation (.ordersDiffer a b)) := by
  rw [PositionKind.test_eq, show PositionKind.comparable a b = comparable a b from rfl, comparable,
    if_pos h, checkComparable]
  split
  · rfl
  · rfl

/-- The comparisons made of two of them. What is asked second is asked only if the first answer
    leaves it open, and either can be refused. -/
def byTwo (a b : Composite) : Comparison → Except Fault Bool
  | .eq => test .eq a b
  | .lt => test .lt a b
  | .ne => do return !(← test .eq a b)
  | .ge => do return !(← test .lt a b)
  | .le => do if ← test .lt a b then return true else test .eq a b
  | .gt => do if ← test .lt a b then return false else return !(← test .eq a b)

theorem test_eq_byTwo (cmp : Comparison) (a b : Composite) : test cmp a b = byTwo a b cmp := by
  cases cmp with
  | eq | lt => rfl
  | ne | le | gt | ge =>
    simp only [byTwo, PositionKind.test_eq]
    cases PositionKind.comparable a b with
    | error f => rfl
    | ok u => cases PositionKind.order a b <;> rfl

/-! ## Leading on in all measures -/

/-- The measures agree on the order of two composites, and the first is not behind. -/
structure Leads (a b : Composite) : Prop where
  /-- They agree. -/
  alike : a.OrderedAlike b
  /-- The first is not behind. -/
  order_ne_gt : a.order b ≠ .gt

theorem Leads.index_ne_gt (h : a.Leads b) : a.index.order b.index ≠ .gt := by
  rw [← h.alike.order_eq]
  exact h.order_ne_gt

theorem Leads.trans (h : a.Leads b) (k : b.Leads c) : a.Leads c := by
  obtain ⟨h8, h16⟩ := h.alike
  obtain ⟨k8, k16⟩ := k.alike
  have hi := h.index_ne_gt
  have ki := k.index_ne_gt
  have hindex : a.index.order c.index =
      (a.index.order b.index).then (b.index.order c.index) := order_eq_then hi ki
  have halike : a.OrderedAlike c := by
    constructor
    · rw [hindex, ← h8, ← k8]
      rw [← h8] at hi
      rw [← k8] at ki
      exact order_eq_then hi ki
    · rw [hindex, ← h16, ← k16]
      rw [← h16] at hi
      rw [← k16] at ki
      exact order_eq_then hi ki
  refine ⟨halike, ?_⟩
  rw [halike.order_eq, hindex, Ne, Ordering.then_eq_gt]
  rintro (hgt | ⟨-, hgt⟩)
  · exact hi hgt
  · exact ki hgt

theorem order_trans (hab : a.order b ≠ .gt) (hbc : b.order c ≠ .gt) : a.order c ≠ .gt :=
  Kind.order_ne_gt_trans (k := .composite) hab hbc

/-- To be answered with yes is to lead on, in all measures if one of the two is watched. -/
theorem test_le_eq_ok_true_iff :
    test .le a b = .ok true ↔
      ((a.checked || b.checked) = true → a.OrderedAlike b) ∧ a.order b ≠ .gt := by
  rw [PositionKind.test_eq_ok_true_iff]
  refine and_congr comparable_eq_ok_iff ?_
  rw [show PositionKind.order a b = a.order b from rfl]
  simp [Comparison.holds]

/-- Two answers do not lead to a third one only if what is watched stands at one end alone. -/
theorem unwatched_of_test_le (hab : test .le a b = .ok true) (hbc : test .le b c = .ok true)
    {f : Fault} (hac : test .le a c = .error f) : b.checked = false ∧ a.checked ≠ c.checked := by
  rw [test_le_eq_ok_true_iff] at hab hbc
  obtain ⟨hab, hle⟩ := hab
  obtain ⟨hbc, hle'⟩ := hbc
  -- the third comparison is refused, so that one end is watched, and not both steps are
  have hno : ¬((a.checked || c.checked) = true → a.OrderedAlike c) := by
    intro h
    cases hac.symm.trans (test_le_eq_ok_true_iff.2 ⟨h, order_trans hle hle'⟩)
  have hstep : ¬((a.checked || b.checked) = true ∧ (b.checked || c.checked) = true) := by
    rintro ⟨h, h'⟩
    exact hno fun _ => (Leads.trans ⟨hab h, hle⟩ ⟨hbc h', hle'⟩).alike
  constructor
  · cases hb : b.checked with
    | false => rfl
    | true => exact absurd (by simp [hb]) hstep
  · intro heq
    cases ha : a.checked with
    | false => exact hno (by simp [← heq, ha])
    | true => exact hstep (by simp [← heq, ha])

end Composite

/-! ## Main statement -/

/-- **How the comparisons of composites belong together.** All six come of two of them. If one of
    two composites is watched and the measures disagree on their order, all are refused in the same
    words. Otherwise all are answered by the lexicographic order of the numbers. Of three composites
    in ascending order the last is not before the first; to ask for it is refused only if the one in
    the middle is not watched, and of the others one is. -/
theorem comparisons_agree (a b c : Composite) :
    (∀ cmp, test cmp a b = Composite.byTwo a b cmp) ∧
    ((a.checked || b.checked) = true → ¬a.OrderedAlike b →
      ∃ f : Fault, f.report? = some ⟨.violation,
          Text.join ["measures disagree on the order of ", a.written, " and ", b.written],
          some "compare positions taken from the same document"⟩ ∧
        ∀ cmp, test cmp a b = .error f) ∧
    (((a.checked || b.checked) = true → a.OrderedAlike b) →
      (∀ cmp, test cmp a b =
        .ok (cmp.between (Kind.composite.numbers a) (Kind.composite.numbers b))) ∧
      ∃ before same after : Bool, [before, same, after].count true = 1 ∧
        test .lt a b = .ok before ∧ test .eq a b = .ok same ∧ test .gt a b = .ok after ∧
        test .le a b = .ok (before || same) ∧ test .ge a b = .ok (after || same) ∧
        test .ne a b = .ok !same) ∧
    (test .le a b = .ok true → test .le b c = .ok true →
      (test .le a c = .ok true ∨ ∃ v, test .le a c = .error (.violation v)) ∧
      ∀ f, test .le a c = .error f → b.checked = false ∧ a.checked ≠ c.checked) := by
  refine ⟨fun cmp => Composite.test_eq_byTwo cmp a b, ?_, ?_, ?_⟩
  · intro hwatched hapart
    refine ⟨.violation (.ordersDiffer a b), rfl, fun cmp => ?_⟩
    rw [Composite.test_of_watched hwatched, if_neg hapart]
  · intro halike
    have hall (cmp : Comparison) : test cmp a b =
        .ok (cmp.between (Kind.composite.numbers a) (Kind.composite.numbers b)) := by
      rw [Kind.composite.test_eq_between cmp a b,
        show comparable a b = .ok () from Composite.comparable_eq_ok_iff.2 halike]
      rfl
    obtain ⟨hle, hge, hne⟩ := Comparison.between_combined (Kind.composite.numbers a)
      (Kind.composite.numbers b)
    refine ⟨hall, _, _, _, Comparison.count_between _ _, hall .lt, hall .eq, hall .gt, ?_⟩
    rw [← hle, ← hge, ← hne]
    exact ⟨hall .le, hall .ge, hall .ne⟩
  · intro hab hbc
    refine ⟨?_, fun f => Composite.unwatched_of_test_le hab hbc⟩
    have hle := Composite.order_trans (Composite.test_le_eq_ok_true_iff.1 hab).2
      (Composite.test_le_eq_ok_true_iff.1 hbc).2
    by_cases hac : (a.checked || c.checked) = true → a.OrderedAlike c
    · exact .inl (Composite.test_le_eq_ok_true_iff.2 ⟨hac, hle⟩)
    · obtain ⟨hwatched, hapart⟩ := Classical.not_imp.1 hac
      refine .inr ⟨.ordersDiffer a c, ?_⟩
      rw [Composite.test_of_watched hwatched, if_neg hapart]

/-- A watched composite, one behind it, and one that is behind that by its index only. The first and
    the last of them cannot be compared. -/
theorem comparisons_agree_along_unwatched_chain :
    ∃ a b c : Composite, a.checked = true ∧ a.Consistent ∧ b.checked = false ∧ c.checked = false ∧
      (∀ cmp, test cmp a b = .ok (cmp.between [4, 1, 2, 1, 2] [5, 1, 3, 1, 3])) ∧
      test .le a b = .ok true ∧ test .le b c = .ok true ∧
      ∃ f : Fault, f.kind? = some .violation ∧ (∀ cmp, test cmp a c = .error f) ∧
        b.checked = false ∧ a.checked ≠ c.checked := by
  let a : Composite := ⟨⟨4⟩, ⟨1, 2⟩, ⟨1, 2⟩, true⟩
  let b : Composite := ⟨⟨5⟩, ⟨1, 3⟩, ⟨1, 3⟩, false⟩
  let c : Composite := ⟨⟨6⟩, ⟨1, 2⟩, ⟨1, 2⟩, false⟩
  obtain ⟨-, -, hanswer, hchain⟩ := comparisons_agree a b c
  obtain ⟨-, hrefuse, -, -⟩ := comparisons_agree a c c
  obtain ⟨hall, -⟩ := hanswer fun _ => by decide
  obtain ⟨f, hreport, hf⟩ := hrefuse rfl (by decide)
  have hab : test .le a b = .ok true := hall .le
  have hbc : test .le b c = .ok true := rfl
  exact ⟨a, b, c, rfl, by decide, rfl, rfl, hall, hab, hbc, f, congrArg (Option.map _) hreport, hf,
    (hchain hab hbc).2 f (hf .le)⟩

end Caret
