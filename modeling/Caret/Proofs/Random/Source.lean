/-
  What is drawn from a source of random numbers, whatever numbers it gives.

  * `RandomSource.choose_mem`: one of some items is drawn;
  * `isPrefix_times`: to draw more often adds to what was drawn;
  * `length_times`, `forall_mem_times`: how much is drawn, and what.
-/
import Caret.Random.Source

namespace Caret.RandomSource

variable {σ α : Type}

theorem choose_mem (source : RandomSource σ) {items : List α} (h : items ≠ []) (g : σ) :
    (source.choose items h g).1 ∈ items :=
  List.getElem_mem _

variable {draw : σ → α × σ} {n m : Nat}

theorem times_succ (draw : σ → α × σ) (n : Nat) (g : σ) :
    (times draw (n + 1) g).1 = (draw g).1 :: (times draw n (draw g).2).1 := rfl

theorem length_times (draw : σ → α × σ) (n : Nat) (g : σ) : (times draw n g).1.length = n := by
  induction n generalizing g with
  | zero => rfl
  | succ n ih => rw [times_succ, List.length_cons, ih]

/-- The draws go on from one state to the next, so how many follow does not matter for the first. -/
theorem isPrefix_times (h : n ≤ m) (g : σ) : (times draw n g).1 <+: (times draw m g).1 := by
  induction n generalizing m g with
  | zero => exact List.nil_prefix
  | succ n ih =>
    obtain ⟨m, rfl⟩ := Nat.exists_eq_succ_of_ne_zero (Nat.ne_zero_of_lt h)
    rw [times_succ, times_succ, List.cons_prefix_cons]
    exact ⟨rfl, ih (Nat.le_of_succ_le_succ h) _⟩

theorem forall_mem_times {p : α → Prop} (h : ∀ g, p (draw g).1) (g : σ) :
    ∀ a ∈ (times draw n g).1, p a := by
  induction n generalizing g with
  | zero => nofun
  | succ n ih =>
    rw [times_succ, List.forall_mem_cons]
    exact ⟨h g, ih _⟩

end Caret.RandomSource
