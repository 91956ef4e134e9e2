/-
  Subtraction of watched composites succeeds on places of one text, and on no others.

  * `Composite.Watched`: the composites that were accepted to be watched;
  * `Composite.Follows`: one place is behind another one in some text;
  * `Watched.follows_iff`: this is to be reached by adding something consistent;
  * `Watched.sub_eq_ok_iff`: what a place that is not behind adds up with to the other one is the
    difference, if there is such a thing;
  * `saturatingSub_exact`: when there is a difference, what it is, and what is said otherwise.
-/
import Caret.Proofs.Measure.Concatenation
import Caret.Proofs.Measure.Consistency
import Caret.Proofs.Position.Difference

namespace Caret.Composite

open PositionKind (test)

variable {a b d e s : Composite}

/-- A composite that is watched, and was not refused for it. -/
structure Watched (c : Composite) : Prop where
  /-- It is watched. -/
  checked_eq : c.checked = true
  /-- Its measures agree. -/
  consistent : c.Consistent

theorem watched_iff_exists_of :
    d.Watched ↔ ∃ index utf8 utf16, of index utf8 utf16 true = .ok d := by
  simp only [of_eq_ok_iff, forall_const]
  constructor
  · rintro ⟨hk, hd⟩
    exact ⟨d.index, d.utf8, d.utf16, by rw [← hk], hd⟩
  · rintro ⟨_, _, _, rfl, hd⟩
    exact ⟨rfl, hd⟩

/-- Some text goes on from the place `b` to the place `a`. -/
def Follows (a b : Composite) : Prop :=
  ∃ x y : Text, x.Encodable ∧ y.Encodable ∧ x.measure true = .ok b ∧ (x ++ y).measure true = .ok a

theorem le_iff_of_checked (hb : b.checked = true) :
    test .le b a = .ok true ↔ b.OrderedAlike a ∧ b.order a ≠ .gt := by
  rw [PositionKind.test_eq_ok_true_iff]
  refine and_congr ?_ ?_
  · rw [show PositionKind.comparable b a = comparable b a from rfl, comparable_eq_ok_iff, hb,
      Bool.true_or, forall_prop_of_true rfl]
  · simp only [Comparison.holds, bne_iff_ne]
    exact Iff.rfl

/-- What a text goes on with has an end of its own, which leads from one place to the other. -/
theorem Watched.exists_between {x y : Text} (ha : a.Watched) (hb : b.Watched)
    (hx : x.measure true = .ok b) (hxy : (x ++ y).measure true = .ok a) :
    ∃ d, y.measure true = .ok d ∧ d.Watched ∧ b.add d = .ok a := by
  have hxb := (Text.measure_eq_ok_iff.1 hx).1
  have hxya := (Text.measure_eq_ok_iff.1 hxy).1
  obtain ⟨d, hd, hk⟩ := hxya.exists_of_infix ⟨x, [], List.append_nil _⟩ true
  refine ⟨d, Text.measure_eq_ok_iff.2 ⟨hd, hk⟩, ⟨hk, hd.consistent⟩,
    (hxb.add_eq_ok_iff hd).2 ⟨hxya, ?_⟩⟩
  rw [ha.checked_eq, hb.checked_eq, Bool.true_or]

/-- To follow is to be reached by the measure of what comes between. -/
theorem Watched.follows_iff (ha : a.Watched) (hb : b.Watched) :
    a.Follows b ↔ ∃ d, d.Watched ∧ b.add d = .ok a := by
  constructor
  · rintro ⟨x, y, -, -, hx, hxy⟩
    obtain ⟨d, -, hd, hadd⟩ := ha.exists_between hb hx hxy
    exact ⟨d, hd, hadd⟩
  · rintro ⟨d, hd, hadd⟩
    have hx := hb.consistent.endsAt_sample
    have hy := hd.consistent.endsAt_sample
    exact ⟨b.sample, d.sample, hx.encodable, hy.encodable,
      Text.measure_eq_ok_iff.2 ⟨hx, hb.checked_eq⟩,
      Text.measure_eq_ok_iff.2 ⟨((hx.add_eq_ok_iff hy).1 hadd).1, ha.checked_eq⟩⟩

/-- A difference is what has to be added, and that nothing can be added shows as a disagreement. -/
theorem Watched.sub_eq_ok_iff (ha : a.Watched) (hb : b.Watched) :
    (test .le b a = .ok true ∧ a.saturatingSub b = .ok d) ↔ d.Watched ∧ b.add d = .ok a := by
  have hk : (a.checked || b.checked) = true := by rw [ha.checked_eq, Bool.true_or]
  rw [le_iff_of_checked hb.checked_eq, saturatingSub_eq_ok_iff, comparable_eq_ok_iff, hk]
  simp only [forall_const]
  constructor
  · rintro ⟨⟨halike, hle⟩, -, rfl, hd⟩
    refine ⟨⟨rfl, hd⟩, add_eq_ok_iff.2 ⟨?_, ?_, ?_, ?_, fun _ => ha.consistent⟩⟩
    · exact ByteIndex.add_monus (halike.order_eq ▸ hle)
    · exact RowColumn.add_monus (halike.1 ▸ halike.order_eq ▸ hle)
    · exact RowColumn.add_monus (halike.2 ▸ halike.order_eq ▸ hle)
    · rw [ha.checked_eq, Bool.or_true]
  · rintro ⟨hd, hadd⟩
    have halike := hd.consistent.orderedAlike_of_add hadd
    obtain ⟨hi, h8, h16⟩ := SamePlace.of_add_monus hadd (SamePlace.refl a)
    refine ⟨halike, halike.1.symm, Composite.ext hi h8 h16 hd.checked_eq, hd.consistent⟩

theorem saturatingSub_of_le (hk : a.checked = true) (h : test .le a b = .ok true) :
    a.saturatingSub b = .ok { zero with checked := true } := by
  obtain ⟨halike, hle⟩ := (le_iff_of_checked hk).1 h
  have hle8 : a.utf8.order b.utf8 ≠ .gt := halike.1 ▸ halike.order_eq ▸ hle
  have hle16 : a.utf16.order b.utf16 ≠ .gt := halike.2 ▸ halike.order_eq ▸ hle
  rw [halike.order_eq] at hle
  rw [saturatingSub_eq_ok_iff, ByteIndex.monus_eq_zero hle, RowColumn.monus_eq_zero hle8,
    RowColumn.monus_eq_zero hle16, hk, Bool.true_or]
  exact ⟨comparable_of_orderedAlike halike, rfl, fun _ => by decide⟩

/-- **Watched subtraction is exact.** From a place that is not behind, there is a difference if and
    only if some text goes on from there; it is then the only consistent composite that leads there,
    and the measure of what comes between in every such text. If there is none, a disagreement is
    reported. From a place that is not in front, the difference is the start. -/
theorem saturatingSub_exact (a b : Composite) (ha : a.Watched) (hb : b.Watched) :
    ((test .le b a = .ok true ∧ ∃ d, a.saturatingSub b = .ok d) ↔ a.Follows b) ∧
    (∀ d, test .le b a = .ok true → a.saturatingSub b = .ok d →
      (d.Consistent ∧ ∃ s, b.add d = .ok s ∧ test .eq s a = .ok true) ∧
      (∀ e s, e.Consistent → b.add e = .ok s → test .eq s a = .ok true → e.SamePlace d) ∧
      ∀ x y : Text, x.measure true = .ok b → (x ++ y).measure true = .ok a →
        y.measure true = .ok d) ∧
    (test .le b a = .ok true → ¬a.Follows b → ∃ v, a.saturatingSub b = .error (.violation v)) ∧
    (test .le a b = .ok true → a.saturatingSub b = .ok { zero with checked := true }) := by
  have hfollows : (test .le b a = .ok true ∧ ∃ d, a.saturatingSub b = .ok d) ↔ a.Follows b := by
    rw [ha.follows_iff hb, ← exists_and_left]
    exact exists_congr fun d => ha.sub_eq_ok_iff hb
  refine ⟨hfollows, fun d hle hsub => ?_, fun hle hno => ?_, saturatingSub_of_le ha.checked_eq⟩
  · obtain ⟨hd, hadd⟩ := (ha.sub_eq_ok_iff hb).1 ⟨hle, hsub⟩
    obtain ⟨hi, h8, h16⟩ := SamePlace.of_add_monus hadd (SamePlace.refl a)
    have hunique : ∀ e s, b.add e = .ok s → s.SamePlace a → e.SamePlace d := by
      intro e s he hs
      obtain ⟨hi', h8', h16'⟩ := SamePlace.of_add_monus he hs
      exact ⟨hi'.trans hi.symm, h8'.trans h8.symm, h16'.trans h16.symm⟩
    refine ⟨⟨hd.consistent, a, hadd, (SamePlace.refl a).test_eq⟩, fun e s _ he hs => ?_,
      fun x y hx hxy => ?_⟩
    · exact hunique e s he (samePlace_of_test_eq hs)
    · obtain ⟨d', hy, hd', hadd'⟩ := ha.exists_between hb hx hxy
      have hdd' : d' = d :=
        (hunique d' a hadd' (SamePlace.refl a)).eq (hd'.checked_eq.trans hd.checked_eq.symm)
      rw [hy, hdd']
  · cases hsub : a.saturatingSub b with
    | ok d => exact absurd (hfollows.1 ⟨hle, d, hsub⟩) hno
    | error f =>
      obtain ⟨v, rfl⟩ := saturatingSub_eq_error hsub
      exact ⟨v, rfl⟩

/-- On the second line of a text: from its start to a place five bytes behind there is a difference.
    From a byte behind that start there is none, if the index did not move with the columns. -/
theorem saturatingSub_exact_on_second_line :
    ∃ a b c : Composite, a.Watched ∧ b.Watched ∧ c.Watched ∧
      (test .le b a = .ok true ∧ a.Follows b ∧ ∃ d, a.saturatingSub b = .ok d) ∧
      test .le c a = .ok true ∧ ¬a.Follows c ∧ ∃ v, a.saturatingSub c = .error (.violation v) := by
  let a : Composite := ⟨⟨⟨9, by decide⟩⟩, ⟨⟨1, by decide⟩, ⟨5, by decide⟩⟩,
    ⟨⟨1, by decide⟩, ⟨3, by decide⟩⟩, true⟩
  let b : Composite := ⟨⟨⟨4, by decide⟩⟩, ⟨⟨1, by decide⟩, ⟨0, by decide⟩⟩,
    ⟨⟨1, by decide⟩, ⟨0, by decide⟩⟩, true⟩
  let c : Composite := ⟨⟨⟨4, by decide⟩⟩, ⟨⟨1, by decide⟩, ⟨1, by decide⟩⟩,
    ⟨⟨1, by decide⟩, ⟨1, by decide⟩⟩, true⟩
  have ha : a.Watched := ⟨rfl, by decide⟩
  have hb : b.Watched := ⟨rfl, by decide⟩
  have hc : c.Watched := ⟨rfl, by decide⟩
  have hab := saturatingSub_exact a b ha hb
  have hac := saturatingSub_exact a c ha hc
  have hno : ¬a.Follows c := fun h => by
    obtain ⟨-, d, hd⟩ := hac.1.2 h
    cases hd
  exact ⟨a, b, c, ha, hb, hc, ⟨rfl, hab.1.1 ⟨rfl, _, rfl⟩, _, rfl⟩, rfl, hno,
    hac.2.2.1 rfl hno⟩
end Caret.Composite
