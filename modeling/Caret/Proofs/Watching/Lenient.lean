/-
  Computations that differ only in that one of them is refused where measures disagree.

  * `Lenient`: a computation does what another one does, unless that is refused for a disagreement;
  * `Lenient.bind`, `Lenient.agreement`: step by step, this is so of the whole.
-/
import Caret.Fault
import Caret.Proofs.Sorting.Agreement

namespace Caret

variable {α β γ δ : Type}

/-- `x` comes to what `y` comes to, with `e` applied to answers, unless `y` is refused because
    measures disagree. Then `x` may come to anything. -/
def Lenient (e : β → α) (x : Except Fault α) (y : Except Fault β) : Prop :=
  (∃ v, y = .error (.violation v)) ∨ x = y.map e

namespace Lenient

variable {e : β → α} {e' : δ → γ} {x : Except Fault α} {y : Except Fault β}

theorem ok (e : β → α) (b : β) : Lenient e (.ok (e b)) (.ok b) :=
  .inr rfl

theorem error (e : β → α) (f : Fault) : Lenient e (.error f) (.error f) :=
  .inr rfl

theorem violation (v : Violation) : Lenient e x (.error (.violation v)) :=
  .inl ⟨v, rfl⟩

theorem refl (x : Except Fault α) : Lenient id x x :=
  .inr (by cases x <;> rfl)

theorem ite {c : Prop} [Decidable c] {x' : Except Fault α} {y' : Except Fault β}
    (h : Lenient e x y) (h' : Lenient e x' y') :
    Lenient e (if c then x else x') (if c then y else y') := by
  split
  · exact h
  · exact h'

theorem bind {f : α → Except Fault γ} {g : β → Except Fault δ} (h : Lenient e x y)
    (hf : ∀ b, Lenient e' (f (e b)) (g b)) : Lenient e' (x >>= f) (y >>= g) := by
  rcases h with ⟨v, rfl⟩ | rfl
  · exact .violation v
  · cases y with
    | error err => exact .error e' err
    | ok b => exact hf b

/-- An answer that watching does not affect, and what is done with it. -/
theorem next {x y : Except Fault α} {f : α → Except Fault γ} {g : α → Except Fault δ}
    (h : Lenient id x y) (hf : ∀ a, Lenient e' (f a) (g a)) : Lenient e' (x >>= f) (y >>= g) :=
  h.bind hf

theorem map {f : α → γ} {g : β → δ} (h : Lenient e x y) (hf : ∀ b, f (e b) = e' (g b)) :
    Lenient e' (x.map f) (y.map g) := by
  rcases h with ⟨v, rfl⟩ | rfl
  · exact .violation v
  · cases y with
    | error err => exact .error e' err
    | ok b => exact .inr (congrArg Except.ok (hf b))

/-- Without a difference between answers, being lenient goes step by step. -/
def agreement : Agreement (Except Fault) (Except Fault) where
  Rel := Lenient id
  pure := .ok id
  bind := .next

end Lenient

end Caret
