/-
  Galloping: looking for the place of an item in a run, first by leaps that become longer and
  longer, and then by halving what is left.

  * `Sorting.leap`: the two distances between which something ends to hold;
  * `Sorting.between`: the place between two bounds;
  * `Sorting.gallop`: the number of items in front of the place.
-/

namespace Caret.Sorting

variable {m : Type → Type} [Monad m]

/-- The last distance tried for which `holds`, and the first for which it does not: from `far` on,
    each distance is twice the one before and one more, but none is more than `most`. -/
@[specialize]
def leap (holds : Nat → m Bool) (most near far : Nat) : m (Nat × Nat) :=
  if _h : far < most then do
    if ← holds far then leap holds most far (2 * far + 1) else return (near, far)
  else return (near, most)
termination_by most - far

/-- The first place from `low` on that is not `before`, where `high` is none. -/
@[specialize]
def between (before : Nat → m Bool) (low high : Nat) : m Nat :=
  if _h : low < high then do
    if ← before (low + (high - low) / 2) then between before (low + (high - low) / 2 + 1) high
    else between before low (low + (high - low) / 2)
  else return high
termination_by high - low

/-- How many of `n` places come before a certain one. The search starts at `hint` and goes in the
    direction that the comparison there tells. -/
@[specialize]
def gallop (before : Nat → m Bool) (n hint : Nat) : m Nat := do
  if ← before hint then
    let (near, far) ← leap (fun d => before (hint + d)) (n - hint) 0 1
    between before (hint + near + 1) (hint + far)
  else
    let (near, far) ← leap (fun d => return !(← before (hint - d))) (hint + 1) 0 1
    between before (hint + 1 - far) (hint - near)

end Caret.Sorting
