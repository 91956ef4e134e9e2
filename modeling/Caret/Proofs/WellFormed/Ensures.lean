/-
  What all answers of a computation have in common.

  * `Ensures`: everything that a computation can answer has a property;
  * `Ensures.bind`, `Ensures.map`: a property of the whole, step by step.
-/
import Caret.Fault

namespace Caret

variable {α β : Type}

/-- Everything that `x` can answer has the property `P`. -/
def Ensures (P : α → Prop) (x : Except Fault α) : Prop :=
  ∀ a, x = .ok a → P a

namespace Ensures

variable {P : α → Prop} {Q : β → Prop} {x y : Except Fault α}

theorem ok {a : α} (h : P a) : Ensures P (.ok a) := by
  rintro _ ⟨⟩
  exact h

theorem error (f : Fault) : Ensures P (.error f) :=
  nofun

theorem bind {f : α → Except Fault β} (h : Ensures P x) (hf : ∀ a, P a → Ensures Q (f a)) :
    Ensures Q (x >>= f) := by
  cases x with
  | error fault => exact .error fault
  | ok a => exact hf a (h a rfl)

protected theorem trivial (x : Except Fault α) : Ensures (fun _ => True) x :=
  fun _ _ => trivial

/-- Nothing need be known about what the first step answers. -/
theorem next {f : α → Except Fault β} (hf : ∀ a, Ensures Q (f a)) : Ensures Q (x >>= f) :=
  (Ensures.trivial x).bind fun a _ => hf a

theorem map {f : α → β} (h : Ensures P x) (hf : ∀ a, P a → Q (f a)) : Ensures Q (x.map f) := by
  cases x with
  | error fault => exact .error fault
  | ok a => exact .ok (hf a (h a rfl))

theorem ite {c : Prop} [Decidable c] (h : Ensures P x) (h' : Ensures P y) :
    Ensures P (if c then x else y) := by
  split
  · exact h
  · exact h'

end Ensures

end Caret
