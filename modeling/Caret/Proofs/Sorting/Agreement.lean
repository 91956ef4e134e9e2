/-
  Sorting by comparisons that agree, in one monad and in another.

  * `Agreement`: how computations of two monads agree, so that it goes step by step;
  * `Sorting.sort_agrees`: if comparisons agree, sorting by them does. Whatever becomes of a sort is
    decided by its comparisons, one after the other.
-/
import Caret.Sorting

namespace Caret

/-- How computations of two monads agree, if it is enough that their steps do. -/
structure Agreement (m n : Type → Type) [Monad m] [Monad n] where
  /-- Two computations agree. -/
  Rel {α : Type} : m α → n α → Prop
  /-- Equal answers agree. -/
  pure {α : Type} (a : α) : Rel (pure a) (pure a)
  /-- Computations agree if their first steps do, and what follows these. -/
  bind {α β : Type} {x : m α} {y : n α} {f : α → m β} {g : α → n β} :
    Rel x y → (∀ a, Rel (f a) (g a)) → Rel (x >>= f) (y >>= g)

/-- Computations agree if they do in both cases of a condition. -/
theorem Agreement.ite {m n : Type → Type} [Monad m] [Monad n] (R : Agreement m n) {α : Type}
    {c : Prop} [Decidable c] {x x' : m α} {y y' : n α} (hx : R.Rel x y) (hx' : R.Rel x' y') :
    R.Rel (if c then x else x') (if c then y else y') := by
  split
  · exact hx
  · exact hx'

namespace Sorting

variable {m n : Type → Type} [Monad m] [Monad n] (R : Agreement m n) {α : Type}
  {less : α → α → m Bool} {less' : α → α → n Bool}

/-! ## Runs -/

section

variable (h : ∀ a b, R.Rel (less a b) (less' a b))
include h

theorem followers_agree (falling : Bool) (last : α) (taken items : List α) :
    R.Rel (followers less falling last taken items) (followers less' falling last taken items) := by
  induction items generalizing last taken with
  | nil => exact R.pure _
  | cons a rest ih =>
    exact R.bind (h a last) fun falls => R.ite (ih a (a :: taken)) (R.pure _)

theorem run_agrees (items : List α) : R.Rel (run less items) (run less' items) := by
  match items with
  | [] => exact R.pure _
  | [a] => exact R.pure _
  | a :: b :: rest =>
    refine R.bind (h b a) fun falling => ?_
    exact R.bind (followers_agree R h falling b [b, a] rest) fun _ => R.pure _

theorem insert_agrees (a : α) (sorted : List α) :
    R.Rel (insert less a sorted) (insert less' a sorted) := by
  fun_induction insert less a sorted with
  | case1 sorted hd =>
    rw [insert.eq_def less']
    split
    · exact R.pure _
    · simp_all
  | case2 sorted b back hd _ ih₁ ih₂ =>
    rw [insert.eq_def less']
    split
    · simp_all
    · -- both insertions compare with the same item, the one in the middle
      rename_i b' back' hd'
      obtain ⟨rfl, rfl⟩ := List.cons.inj (hd.symm.trans hd')
      refine R.bind (h a b) fun before => R.ite ?_ ?_
      · exact R.bind ih₁ fun _ => R.pure _
      · exact R.bind ih₂ fun _ => R.pure _

theorem extend_agrees (sorted more : List α) :
    R.Rel (extend less sorted more) (extend less' sorted more) := by
  induction more generalizing sorted with
  | nil => exact R.pure _
  | cons a more ih =>
    rw [extend, extend, List.foldlM_cons, List.foldlM_cons]
    exact R.bind (insert_agrees R h a sorted) ih

end

/-! ## Galloping -/

section

variable {holds : Nat → m Bool} {holds' : Nat → n Bool} (h : ∀ i, R.Rel (holds i) (holds' i))
include h

theorem leap_agrees (most near far : Nat) :
    R.Rel (leap holds most near far) (leap holds' most near far) := by
  fun_induction leap holds most near far with
  | case1 near far hlt ih =>
    rw [leap.eq_def holds', dif_pos hlt]
    exact R.bind (h far) fun goes => R.ite ih (R.pure _)
  | case2 near far hlt =>
    rw [leap.eq_def holds', dif_neg hlt]
    exact R.pure _

theorem between_agrees (low high : Nat) :
    R.Rel (between holds low high) (between holds' low high) := by
  fun_induction between holds low high with
  | case1 low high hlt ih₁ ih₂ =>
    rw [between.eq_def holds', dif_pos hlt]
    exact R.bind (h _) fun before => R.ite ih₁ ih₂
  | case2 low high hlt =>
    rw [between.eq_def holds', dif_neg hlt]
    exact R.pure _

theorem gallop_agrees (n hint : Nat) : R.Rel (gallop holds n hint) (gallop holds' n hint) := by
  refine R.bind (h hint) fun before => R.ite ?_ ?_
  · exact R.bind (leap_agrees R (fun d => h (hint + d)) _ _ _) fun _ =>
      between_agrees R h _ _
  · exact R.bind (leap_agrees R (fun d => R.bind (h (hint - d)) fun _ => R.pure _) _ _ _) fun _ =>
      between_agrees R h _ _

end

/-! ## Merging -/

section

variable (h : ∀ a b, R.Rel (less a b) (less' a b))
include h

namespace Merging

theorem secondLess_agrees (s : Merging α) : R.Rel (s.secondLess less) (s.secondLess less') := by
  unfold secondLess
  split
  · exact h _ _
  · exact R.pure _

theorem oneByOne_agrees (patience steps firstWins secondWins : Nat) (s : Merging α) :
    R.Rel (oneByOne less patience steps firstWins secondWins s)
      (oneByOne less' patience steps firstWins secondWins s) := by
  induction steps generalizing firstWins secondWins s with
  | zero => exact R.pure s
  | succ steps ih =>
    exact R.bind (secondLess_agrees R h s) fun less => R.ite (R.pure _) (ih _ _ _)

theorem firstStretch_agrees (s : Merging α) :
    R.Rel (s.firstStretch less) (s.firstStretch less') := by
  unfold firstStretch
  split
  · exact R.pure _
  · refine R.bind (gallop_agrees R (fun i => ?_) _ _) fun _ => R.pure _
    split
    · exact R.bind (h _ _) fun _ => R.pure _
    · exact R.pure _

theorem secondStretch_agrees (s : Merging α) :
    R.Rel (s.secondStretch less) (s.secondStretch less') := by
  unfold secondStretch
  split
  · exact R.pure _
  · refine R.bind (gallop_agrees R (fun i => ?_) _ _) fun _ => R.pure _
    split
    · exact h _ _
    · exact R.pure _

theorem byStretches_agree (turns patience : Nat) (s : Merging α) :
    R.Rel (byStretches less turns patience s) (byStretches less' turns patience s) := by
  induction turns generalizing patience s with
  | zero => exact R.pure _
  | succ turns ih =>
    refine R.bind (firstStretch_agrees R h s) fun k => ?_
    refine R.ite (R.pure _) (R.ite (R.pure _) ?_)
    refine R.bind (secondStretch_agrees R h _) fun l => ?_
    exact R.ite (R.pure _) (R.ite (R.pure _) (R.ite (ih _ _) (R.pure _)))

theorem finish_agrees (steps patience : Nat) (s : Merging α) :
    R.Rel (finish less steps patience s) (finish less' steps patience s) := by
  induction steps generalizing patience s with
  | zero => exact R.pure _
  | succ steps ih =>
    refine R.ite (R.pure _) ?_
    refine R.bind (oneByOne_agrees R h _ _ _ _ s) fun s => R.ite (R.pure _) ?_
    exact R.bind (byStretches_agree R h _ _ s) fun (s, patience) => ih patience s

end Merging

theorem notAbove_agrees (items : Array α) (b : α) :
    R.Rel (notAbove less items b) (notAbove less' items b) := by
  unfold notAbove
  refine gallop_agrees R (fun i => ?_) _ _
  split
  · exact R.bind (h _ _) fun _ => R.pure _
  · exact R.pure _

theorem below_agrees (items : Array α) (a : α) :
    R.Rel (below less items a) (below less' items a) := by
  unfold below
  refine gallop_agrees R (fun i => ?_) _ _
  split
  · exact h _ _
  · exact R.pure _

theorem merge_agrees (patience : Nat) (first second : Array α) :
    R.Rel (merge less patience first second) (merge less' patience first second) := by
  unfold merge
  split
  · refine R.bind (notAbove_agrees R h first _) fun start => R.ite (R.pure _) ?_
    refine R.bind (below_agrees R h second _) fun stop => R.ite (R.pure _) ?_
    exact R.bind (Merging.finish_agrees R h _ _ _) fun _ => R.pure _
  · exact R.pure _

/-! ## Sorting -/

theorem Pending.merge_agrees (patience : Nat) (first second : Pending α) :
    R.Rel (first.merge less patience second) (first.merge less' patience second) :=
  R.bind (Sorting.merge_agrees R h patience first.items second.items) fun _ => R.pure _

theorem settle_agrees (power patience : Nat) (pending : List (Pending α)) :
    R.Rel (settle less power patience pending) (settle less' power patience pending) := by
  fun_induction settle less power patience pending with
  | case1 patience last previous rest hlt ih =>
    rw [settle, if_pos hlt]
    exact R.bind (Pending.merge_agrees R h patience previous last) fun (merged, patience) =>
      ih merged patience
  | case2 patience last previous rest hlt =>
    rw [settle, if_neg hlt]
    exact R.pure _
  | case3 patience pending hshort =>
    -- fewer than two runs are pending, which leaves nothing to merge
    rw [settle.eq_def]
    split
    · exact (hshort _ _ _ rfl).elim
    · exact R.pure _

theorem collapse_agrees (patience : Nat) (pending : List (Pending α)) :
    R.Rel (collapse less patience pending) (collapse less' patience pending) := by
  fun_induction collapse less patience pending with
  | case1 patience last previous third rest hlt ih =>
    rw [collapse, if_pos hlt]
    exact R.bind (Pending.merge_agrees R h patience third previous) fun (merged, patience) =>
      ih merged patience
  | case2 patience last previous third rest hlt ih =>
    rw [collapse, if_neg hlt]
    exact R.bind (Pending.merge_agrees R h patience previous last) fun (merged, patience) =>
      ih merged patience
  | case3 patience last previous =>
    rw [collapse]
    exact R.bind (Pending.merge_agrees R h patience previous last) fun _ => R.pure _
  | case4 patience last =>
    rw [collapse]
    exact R.pure _
  | case5 patience =>
    rw [collapse]
    exact R.pure _

theorem place_agrees (n k patience : Nat) (pending : List (Pending α)) :
    R.Rel (place less n k patience pending) (place less' n k patience pending) := by
  unfold place
  split
  · exact R.pure _
  · refine R.bind (settle_agrees R h _ _ _) fun settled => ?_
    split <;> exact R.pure _

theorem sortFrom_agrees (n steps start patience : Nat) (pending : List (Pending α))
    (items : List α) :
    R.Rel (sortFrom less n steps start patience pending items)
      (sortFrom less' n steps start patience pending items) := by
  induction steps generalizing start patience pending items with
  | zero => exact collapse_agrees R h patience pending
  | succ steps ih =>
    cases items with
    | nil => exact collapse_agrees R h patience pending
    | cons a items =>
      refine R.bind (run_agrees R h _) fun (found, left) => ?_
      refine R.bind (extend_agrees R h _ _) fun items => ?_
      exact R.bind (place_agrees R h _ _ _ _) fun (pending, patience) => ih _ _ _ _

/-- **Sorting follows its comparisons.** If they agree, in the sense of `R`, sorting does. -/
theorem sort_agrees (items : List α) : R.Rel (sort less items) (sort less' items) :=
  R.bind (sortFrom_agrees R h _ _ _ _ _ _) fun _ => R.pure _

end

end Sorting

end Caret
