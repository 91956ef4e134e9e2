/-
  Sorting: items in ascending order, where items of which neither is less keep theirs.

  The items are split into runs from left to right. Each run is merged with others as soon as the
  boundary between them is known to lie deep enough in a balanced splitting of all items, and the
  rest when all runs are found.

  * `Sorting.boundaryPower`: how deep a boundary lies;
  * `Sorting.Pending`: a run that waits to be merged;
  * `Sorting.sort`: the items in ascending order.
-/
import Caret.Sorting.Merge
import Caret.Sorting.Run

namespace Caret.Sorting

/-- The number of halvings of `n` places after which two middles, given as twice their place, first
    lie on two sides; at most `most`. -/
def boundaryPower (n : Nat) : (most : Nat) → (left right : Nat) → Nat
  | 0, _, _ => 0
  | most + 1, left, right =>
    if n ≤ left then boundaryPower n most (2 * (left - n)) (2 * (right - n)) + 1
    else if n ≤ right then 1
    else boundaryPower n most (2 * left) (2 * right) + 1

/-- A run that waits to be merged. -/
structure Pending (α : Type) where
  /-- The place of its first item. -/
  start : Nat
  /-- Its items, in ascending order. -/
  items : Array α
  /-- How deep the boundary behind it lies. -/
  power : Nat

variable {m : Type → Type} [Monad m] {α : Type}

/-- Two neighbours merged into one run, which is where the first was. -/
@[specialize]
def Pending.merge (less : α → α → m Bool) (patience : Nat) (first second : Pending α) :
    m (Pending α × Nat) := do
  let (items, patience) ← Sorting.merge less patience first.items second.items
  return ({ first with items := items }, patience)

/-- Merges the last runs, given the last one first, as long as the boundary in front of the last one
    is deeper than `power`. -/
@[specialize]
def settle (less : α → α → m Bool) (power : Nat) (patience : Nat) :
    List (Pending α) → m (List (Pending α) × Nat)
  | last :: previous :: rest => do
    if power < previous.power then
      let (merged, patience) ← previous.merge less patience last
      settle less power patience (merged :: rest)
    else return (last :: previous :: rest, patience)
  | pending => return (pending, patience)
termination_by pending => pending.length

/-- Merges all runs, given the last one first: the last two, unless the one in front of these is
    shorter than the last. -/
@[specialize]
def collapse (less : α → α → m Bool) (patience : Nat) : List (Pending α) → m (Array α)
  | last :: previous :: third :: rest => do
    if third.items.size < last.items.size then
      let (merged, patience) ← third.merge less patience previous
      collapse less patience (last :: merged :: rest)
    else
      let (merged, patience) ← previous.merge less patience last
      collapse less patience (merged :: third :: rest)
  | [last, previous] => return (← previous.merge less patience last).1.items
  | [last] => return last.items
  | [] => return #[]
termination_by pending => pending.length

/-- Makes place for a run of `k` items behind the pending runs of `n` items, given the last one
    first: the boundary between is given its power, after what lies deeper was merged. -/
@[specialize]
def place (less : α → α → m Bool) (n k : Nat) (patience : Nat) (pending : List (Pending α)) :
    m (List (Pending α) × Nat) := do
  match pending with
  | [] => return ([], patience)
  | last :: _ =>
    let left := 2 * last.start + last.items.size
    let power := boundaryPower n n left (left + last.items.size + k)
    match ← settle less power patience pending with
    | (last :: rest, patience) => return ({ last with power := power } :: rest, patience)
    | ([], patience) => return ([], patience)

/-- Sorts the items from place `start` on, with the runs in front of them pending. -/
@[specialize]
def sortFrom (less : α → α → m Bool) (n : Nat) :
    (steps : Nat) → (start patience : Nat) → List (Pending α) → List α → m (Array α)
  | 0, _, patience, pending, _ | _, _, patience, pending, [] => collapse less patience pending
  | steps + 1, start, patience, pending, items => do
    let (found, left) ← run less items
    let missing := leastLength n 0 - found.length
    let items ← extend less found (left.take missing)
    let (pending, patience) ← place less n items.length patience pending
    sortFrom less n steps (start + items.length) patience
      (⟨start, items.toArray, 0⟩ :: pending) (left.drop missing)

/-- The items in ascending order. -/
@[specialize]
def sort (less : α → α → m Bool) (items : List α) : m (List α) := do
  return (← sortFrom less items.length items.length 0 Merging.longStretch [] items).toList

end Caret.Sorting
