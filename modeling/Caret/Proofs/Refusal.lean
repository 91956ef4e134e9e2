/-
  Computations that can be refused, taken apart.

  * `Except.pure_eq_ok`, `Except.functor_map_eq`: how `Except` is a monad;
  * `Except.bind_eq_ok_iff`, `Except.map_eq_ok_iff`: what succeeds did so step by step;
  * `Except.bind_eq_error_iff`: what is refused was so at one of its steps;
  * `Except.map_bind_congr`: what agrees after a step agrees with it;
  * `Except.toOption_eq_some_iff`: success, where answers can be compared and refusals need not be;
  * `Fault.kind?`: the kind under which a fault is reported;
  * `Fault.showing_of_lt`: integers with few enough digits are shown in what is reported.
-/
import Caret.Fault
import Mathlib.Data.Nat.Digits.Defs

namespace Except

variable {ε α β : Type}

@[simp]
theorem pure_eq_ok (a : α) : (pure a : Except ε α) = .ok a := rfl

@[simp]
theorem functor_map_eq (f : α → β) (x : Except ε α) : f <$> x = x.map f := rfl

theorem bind_eq_ok_iff {x : Except ε α} {f : α → Except ε β} {b : β} :
    (x >>= f) = .ok b ↔ ∃ a, x = .ok a ∧ f a = .ok b := by
  cases x with
  | error e => simp [bind, Except.bind]
  | ok a => simp [bind, Except.bind]

theorem bind_eq_error_iff {x : Except ε α} {f : α → Except ε β} {e : ε} :
    (x >>= f) = .error e ↔ x = .error e ∨ ∃ a, x = .ok a ∧ f a = .error e := by
  cases x with
  | error e' => simp [bind, Except.bind]
  | ok a => simp [bind, Except.bind]

theorem map_eq_ok_iff {x : Except ε α} {f : α → β} {b : β} :
    x.map f = .ok b ↔ ∃ a, x = .ok a ∧ f a = b := by
  cases x with
  | error e => simp [Except.map]
  | ok a => simp [Except.map]

theorem map_bind_congr {γ : Type} {x : Except ε α} {f g : α → Except ε β} {h : β → γ}
    (hfg : ∀ a, (f a).map h = (g a).map h) : (x >>= f).map h = (x >>= g).map h := by
  cases x with
  | error e => rfl
  | ok a => exact hfg a

theorem toOption_eq_some_iff {x : Except ε α} {a : α} : x.toOption = some a ↔ x = .ok a := by
  cases x with
  | error e => simp [Except.toOption]
  | ok b => simp [Except.toOption]

end Except

namespace Caret.Fault

/-- The kind under which a fault is reported, for faults that are about positions and ranges. -/
def kind? (f : Fault) : Option ReportKind :=
  f.report?.map Report.kind

theorem showing_of_lt {n : Int} (h : n.natAbs < 10 ^ Text.digitLimit) (f : Fault) :
    f.showing n = f := by
  have hlength : (Text.decimal n.natAbs).length ≤ Text.digitLimit := by
    rw [Text.decimal, List.length_map]
    exact Nat.toDigits_length 10 n.natAbs Text.digitLimit (by decide) h
  rw [showing, Text.signed?, if_pos hlength]

end Caret.Fault
