/-
  Runs: items that stand in order already, and how short ones are made longer.

  Comparisons are computations in a monad, so that one of them can end the whole; which items are
  compared, and in which order, is part of what the functions do.

  * `Sorting.run`: the longest run in front of some items, in ascending order;
  * `Sorting.insert`: an item put in its place by halving;
  * `Sorting.leastLength`: the length to which runs are extended.
-/

namespace Caret.Sorting

variable {m : Type → Type} [Monad m] {α : Type}

/-- The items that follow `last` as long as each is less than the one before if `falling`, and as
    long as none is otherwise, put in front of those taken already; and the items behind these. -/
@[specialize]
def followers (less : α → α → m Bool) (falling : Bool) (last : α) (taken : List α) :
    List α → m (List α × List α)
  | [] => return (taken, [])
  | a :: rest => do
    if (← less a last) = falling then followers less falling a (a :: taken) rest
    else return (taken, a :: rest)

/-- The longest run in front, in ascending order, and the items behind it. The items of a run either
    never fall, or fall each time; the latter are turned round. -/
@[specialize]
def run (less : α → α → m Bool) : List α → m (List α × List α)
  | a :: b :: rest => do
    let falling ← less b a
    let (taken, left) ← followers less falling b [b, a] rest
    return (if falling then taken else taken.reverse, left)
  | items => return (items, [])

/-- An item placed behind the items that it is not less than, in sorted items: it is compared with
    the one in the middle, and then placed in the half where it belongs. -/
@[specialize]
def insert (less : α → α → m Bool) (a : α) (sorted : List α) : m (List α) :=
  match h : sorted.drop (sorted.length / 2) with
  | [] => return [a]
  | b :: back => do
    have : (b :: back).length ≤ sorted.length := h ▸ (List.length_drop ▸ Nat.sub_le ..)
    if ← less a b then
      return (← insert less a (sorted.take (sorted.length / 2))) ++ b :: back
    else return sorted.take (sorted.length / 2) ++ b :: (← insert less a back)
termination_by sorted.length
decreasing_by
  · have := congrArg List.length h
    simp only [List.length_drop, List.length_cons] at this
    simp only [List.length_take]
    omega
  · simp only [List.length_cons] at this
    omega

/-- A run with some more items, each put in its place. -/
@[specialize]
def extend (less : α → α → m Bool) (sorted more : List α) : m (List α) :=
  more.foldlM (fun sorted a => insert less a sorted) sorted

/-- The length to which the runs of `n` items are extended: the number of items halved, and rounded
    up in the end, until it is less than 64. -/
def leastLength (n : Nat) (above : Nat) : Nat :=
  if n < 64 then n + above else leastLength (n / 2) (max above (n % 2))

end Caret.Sorting
