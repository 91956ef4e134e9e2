/-
  Sums of consistent composites are consistent.

  A consistent composite is the end of a text, and sums are the ends of concatenations. What holds
  of texts carries over: rows and columns fit where the bytes do, and it does not matter how three
  texts are bracketed.

  * `EndsAt.add_add_iff`, `EndsAt.add_add_iff'`: the sum of three ends, bracketed in either way;
  * `Consistent.exists_add_iff`, `Consistent.add_eq_error`: a sum is refused for its index only;
  * `Consistent.add`: it is consistent;
  * `add_of_consistent`: so consistent composites add up exactly as far as their indices do.
-/
import Caret.Proofs.Measure.Concatenation
import Caret.Proofs.Measure.Consistency

namespace Caret

namespace Text

variable {x y z : Text} {a b c s : Composite}

theorem EndsAt.add_add_iff (hx : x.EndsAt a) (hy : y.EndsAt b) (hz : z.EndsAt c) :
    (a.add b >>= (·.add c)) = .ok s ↔
      (x ++ y ++ z).EndsAt s ∧ s.checked = (a.checked || b.checked || c.checked) := by
  rw [Except.bind_eq_ok_iff]
  constructor
  · rintro ⟨ab, hab, hs⟩
    obtain ⟨hxy, hk⟩ := (hx.add_eq_ok_iff hy).1 hab
    rw [← hk]
    exact (hxy.add_eq_ok_iff hz).1 hs
  · rintro ⟨hs, hk⟩
    obtain ⟨ab, hxy, hk'⟩ := hs.exists_of_infix ⟨[], z, rfl⟩ (a.checked || b.checked)
    refine ⟨ab, (hx.add_eq_ok_iff hy).2 ⟨hxy, hk'⟩, (hxy.add_eq_ok_iff hz).2 ⟨hs, ?_⟩⟩
    rw [hk, hk']

theorem EndsAt.add_add_iff' (hx : x.EndsAt a) (hy : y.EndsAt b) (hz : z.EndsAt c) :
    (b.add c >>= a.add) = .ok s ↔
      (x ++ y ++ z).EndsAt s ∧ s.checked = (a.checked || b.checked || c.checked) := by
  rw [Except.bind_eq_ok_iff, List.append_assoc, Bool.or_assoc]
  constructor
  · rintro ⟨bc, hbc, hs⟩
    obtain ⟨hyz, hk⟩ := (hy.add_eq_ok_iff hz).1 hbc
    rw [← hk]
    exact (hx.add_eq_ok_iff hyz).1 hs
  · rintro ⟨hs, hk⟩
    obtain ⟨bc, hyz, hk'⟩ :=
      hs.exists_of_infix ⟨x, [], List.append_nil _⟩ (b.checked || c.checked)
    refine ⟨bc, (hy.add_eq_ok_iff hz).2 ⟨hyz, hk'⟩, (hx.add_eq_ok_iff hyz).2 ⟨hs, ?_⟩⟩
    rw [hk, hk']

end Text

namespace Composite

open PositionKind (test)

variable {a b c s : Composite} {f : Fault}

theorem Consistent.exists_add_iff (ha : a.Consistent) (hb : b.Consistent) :
    (∃ s, a.add b = .ok s) ↔ a.index.index.val + b.index.index.val ≤ Coordinate.limit := by
  have hx := ha.endsAt_sample
  have hy := hb.endsAt_sample
  rw [hx.index_eq, hy.index_eq, ← Text.bytes_append]
  constructor
  · rintro ⟨s, hs⟩
    exact ((hx.add_eq_ok_iff hy).1 hs).1.bytes_le
  · intro hle
    have hxy := Text.encodable_append.2 ⟨hx.encodable, hy.encodable⟩
    obtain ⟨s, hs⟩ := Text.exists_endsAt hxy hle (a.checked || b.checked)
    exact ⟨s, (hx.add_eq_ok_iff hy).2 hs⟩

theorem Consistent.add (ha : a.Consistent) (hb : b.Consistent) (hs : a.add b = .ok s) :
    s.Consistent :=
  ((ha.endsAt_sample.add_eq_ok_iff hb.endsAt_sample).1 hs).1.consistent

theorem Consistent.add_eq_error (ha : a.Consistent) (hb : b.Consistent) (hf : a.add b = .error f) :
    Coordinate.limit < a.index.index.val + b.index.index.val ∧
      f = .sumTooLarge "index" a.index.index.decimal b.index.index.decimal := by
  have hlt : Coordinate.limit < a.index.index.val + b.index.index.val := by
    by_contra hle
    obtain ⟨s, hs⟩ := (ha.exists_add_iff hb).2 (Nat.le_of_not_lt hle)
    cases hs.symm.trans hf
  refine ⟨hlt, ?_⟩
  rw [add_of_index_lt hlt] at hf
  exact (Except.error.inj hf).symm

theorem Consistent.kind?_of_add (ha : a.Consistent) (hb : b.Consistent) (hf : a.add b = .error f) :
    f.kind? = some .overflow := by
  obtain ⟨-, rfl⟩ := ha.add_eq_error hb hf
  rfl

/-! ## Three summands -/

theorem Consistent.add_assoc (ha : a.Consistent) (hb : b.Consistent) (hc : c.Consistent) :
    (a.add b >>= (·.add c)) = .ok s ↔ (b.add c >>= a.add) = .ok s := by
  have hx := ha.endsAt_sample
  have hy := hb.endsAt_sample
  have hz := hc.endsAt_sample
  rw [hx.add_add_iff hy hz, hx.add_add_iff' hy hz]

theorem Consistent.exists_add_add_iff (ha : a.Consistent) (hb : b.Consistent)
    (hc : c.Consistent) :
    (∃ s, (a.add b >>= (·.add c)) = .ok s) ↔
      a.index.index.val + b.index.index.val + c.index.index.val ≤ Coordinate.limit := by
  have hindex {s : Composite} (hs : a.add b = .ok s) :
      s.index.index.val = a.index.index.val + b.index.index.val :=
    ByteIndex.add_eq_ok_iff.1 (add_eq_ok_iff.1 hs).1
  simp only [Except.bind_eq_ok_iff]
  constructor
  · rintro ⟨s, ab, hab, hs⟩
    rw [← hindex hab]
    exact ((ha.add hb hab).exists_add_iff hc).1 ⟨s, hs⟩
  · intro hle
    obtain ⟨ab, hab⟩ := (ha.exists_add_iff hb).2 (by omega)
    rw [← hindex hab] at hle
    obtain ⟨s, hs⟩ := ((ha.add hb hab).exists_add_iff hc).2 hle
    exact ⟨s, ab, hab, hs⟩

theorem Consistent.kind?_of_add_add (ha : a.Consistent) (hb : b.Consistent) (hc : c.Consistent)
    (hf : (a.add b >>= (·.add c)) = .error f) : f.kind? = some .overflow := by
  rcases Except.bind_eq_error_iff.1 hf with hab | ⟨ab, hab, hs⟩
  · exact ha.kind?_of_add hb hab
  · exact (ha.add hb hab).kind?_of_add hc hs

theorem Consistent.kind?_of_add_add' (ha : a.Consistent) (hb : b.Consistent) (hc : c.Consistent)
    (hf : (b.add c >>= a.add) = .error f) : f.kind? = some .overflow := by
  rcases Except.bind_eq_error_iff.1 hf with hbc | ⟨bc, hbc, hs⟩
  · exact hb.kind?_of_add hc hbc
  · exact ha.kind?_of_add (hb.add hc hbc) hs

/-- **Consistent composites are closed under sums.** The index alone decides whether a sum is
    refused, and is what is reported then. Any other sum is consistent again, and watched if a
    summand is. So three summands add up to the same in both ways, exactly if their indices fit. -/
theorem add_of_consistent (a b c : Composite) (ha : a.Consistent) (hb : b.Consistent)
    (hc : c.Consistent) :
    ((∃ f, a.add b = .error f ∧ f.kind? = some .overflow) ↔
      Coordinate.limit < a.index.index.val + b.index.index.val) ∧
    (∀ f, a.add b = .error f →
      f = .sumTooLarge "index" a.index.index.decimal b.index.index.decimal) ∧
    (a.index.index.val + b.index.index.val ≤ Coordinate.limit →
      ∃ s, a.add b = .ok s ∧ s.Consistent ∧ s.checked = (a.checked || b.checked)) ∧
    ((∃ s t, (a.add b >>= (·.add c)) = .ok s ∧ (b.add c >>= a.add) = .ok t ∧ s = t ∧
        test .eq s t = .ok true) ↔
      a.index.index.val + b.index.index.val + c.index.index.val ≤ Coordinate.limit) ∧
    ((∃ f g, (a.add b >>= (·.add c)) = .error f ∧ (b.add c >>= a.add) = .error g ∧
        f.kind? = some .overflow ∧ g.kind? = some .overflow) ↔
      Coordinate.limit < a.index.index.val + b.index.index.val + c.index.index.val) := by
  refine ⟨⟨?_, ?_⟩, ?_, ?_, ⟨?_, ?_⟩, ⟨?_, ?_⟩⟩
  · rintro ⟨f, hf, -⟩
    exact (ha.add_eq_error hb hf).1
  · intro hlt
    exact ⟨_, add_of_index_lt hlt, rfl⟩
  · intro f hf
    exact (ha.add_eq_error hb hf).2
  · intro hle
    obtain ⟨s, hs⟩ := (ha.exists_add_iff hb).2 hle
    exact ⟨s, hs, ha.add hb hs, (add_eq_ok_iff.1 hs).2.2.2.1⟩
  · rintro ⟨s, t, hs, -⟩
    exact (ha.exists_add_add_iff hb hc).1 ⟨s, hs⟩
  · intro hle
    obtain ⟨s, hs⟩ := (ha.exists_add_add_iff hb hc).2 hle
    exact ⟨s, s, hs, (ha.add_assoc hb hc).1 hs, rfl, (SamePlace.refl s).test_eq⟩
  · rintro ⟨f, g, hf, -⟩
    by_contra hle
    obtain ⟨s, hs⟩ := (ha.exists_add_add_iff hb hc).2 (Nat.le_of_not_lt hle)
    cases hs.symm.trans hf
  · intro hlt
    have hno : ¬∃ s, (a.add b >>= (·.add c)) = .ok s := by
      rw [ha.exists_add_add_iff hb hc]
      exact Nat.not_le_of_lt hlt
    cases hleft : a.add b >>= (·.add c) with
    | ok s => exact absurd ⟨s, hleft⟩ hno
    | error f =>
      cases hright : b.add c >>= a.add with
      | ok s => exact absurd ⟨s, (ha.add_assoc hb hc).2 hright⟩ hno
      | error g =>
        exact ⟨f, g, rfl, rfl, ha.kind?_of_add_add hb hc hleft, ha.kind?_of_add_add' hb hc hright⟩

/-- A full line and a line end with a last line that fill the limit, and one more byte. -/
theorem add_of_consistent_at_limit :
    ∃ a b c s : Composite, a.Consistent ∧ b.Consistent ∧ c.Consistent ∧
      a.add b = .ok s ∧ s.Consistent ∧ s.checked = true ∧ s.index.index.val = Coordinate.limit ∧
      ∃ f g, (a.add b >>= (·.add c)) = .error f ∧ (b.add c >>= a.add) = .error g ∧
        f.kind? = some .overflow ∧ g.kind? = some .overflow := by
  let a : Composite := ⟨⟨4294967290⟩, ⟨0, 4294967290⟩, ⟨0, 4294967290⟩, false⟩
  let b : Composite := ⟨⟨5⟩, ⟨1, 3⟩, ⟨1, 1⟩, true⟩
  let c : Composite := ⟨⟨1⟩, ⟨0, 1⟩, ⟨0, 1⟩, false⟩
  have ha : a.Consistent := by decide
  have hb : b.Consistent := by decide
  have hc : c.Consistent := by decide
  obtain ⟨-, -, hfits, -, hoverflow⟩ := add_of_consistent a b c ha hb hc
  obtain ⟨s, hs, hcons, hk⟩ := hfits (by decide)
  exact ⟨a, b, c, s, ha, hb, hc, hs, hcons, hk,
    ByteIndex.add_eq_ok_iff.1 (add_eq_ok_iff.1 hs).1, hoverflow.2 (by decide)⟩

end Composite

end Caret
