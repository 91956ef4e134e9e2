/-
  Sources of random numbers, as far as their users look.

  * `RandomSource`: draws numbers below a bound, one after the other.
-/

namespace Caret

/-- A source of random numbers with states in `σ`. A draw gives a number and the next state. -/
structure RandomSource (σ : Type) where
  /-- Draws one of the numbers below `n`. -/
  below : (n : Nat) → 0 < n → σ → Fin n × σ

namespace RandomSource

variable {σ α : Type}

/-- Draws one of some items. -/
def choose (source : RandomSource σ) (items : List α) (h : items ≠ []) (g : σ) : α × σ :=
  let (i, g) := source.below items.length (List.length_pos_iff.2 h) g
  (items[i], g)

/-- Repeats a draw `n` times. -/
def times (draw : σ → α × σ) : Nat → σ → List α × σ
  | 0, g => ([], g)
  | n + 1, g =>
    let (a, g) := draw g
    let (rest, g) := times draw n g
    (a :: rest, g)

end RandomSource

end Caret
