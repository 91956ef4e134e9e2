/-
  Choosing among the items of a value: the greatest, the least, their order, and the distinct ones.

  * `Value.items?`: the items of a value;
  * `Value.greatest`, `Value.least`: the item that comparisons leave;
  * `Value.sorted`, `Value.sort`: items in ascending order, and the items of a value in it;
  * `Value.alike`, `Value.distinct`: agreement of values whether watched or not, and the number of
    values up to it.
-/
import Caret.Sorting
import Caret.Value.Comparing

namespace Caret.Value

variable {m : Type → Type} [Monad m] [Reporting m]

/-- The items that a value consists of: those of a sequence, the code points of a text, and the keys
    of an object. -/
def items? : Value → Except Fault (List Value)
  | list _ items => .ok items
  | tuple items => .ok items
  | text t => .ok (t.map fun c => text [c])
  | object entries => .ok (entries.map fun entry => text entry.1)
  | v => .error (.mismatch (.notItems v.kindName))

/-! ## Choosing -/

/-- The best of the items, where a later one is better only if it compares as said with the best so
    far. -/
def best (o : Objects) (c : Comparison) : Value → List Value → m Value
  | a, [] => return a
  | a, b :: rest => do if ← test o c b a m then best o c b rest else best o c a rest

/-- The greatest item, the first of several. -/
def greatest (o : Objects) (v : Value) (m : Type → Type := Except Fault) [Monad m] [Reporting m] :
    m Value := do
  match ← ofExcept v.items? with
  | [] => refuse (.badValue (.noItems "max"))
  | a :: rest => best o .gt a rest

/-- The least item, the first of several. -/
def least (o : Objects) (v : Value) (m : Type → Type := Except Fault) [Monad m] [Reporting m] :
    m Value := do
  match ← ofExcept v.items? with
  | [] => refuse (.badValue (.noItems "min"))
  | a :: rest => best o .lt a rest

/-! ## Sorting -/

/-- Whether the item at one place is less than that at another one. -/
def lessAt (o : Objects) (items : Array Value) (i j : Nat) : m Bool :=
  match items[i]?, items[j]? with
  | some a, some b => test o .lt a b m
  | _, _ => return false

/-- Items in ascending order. It is their places that are sorted. -/
def sorted (o : Objects) (items : List Value)
    (m : Type → Type := Except Fault) [Monad m] [Reporting m] : m (List Value) := do
  let items := items.toArray
  let places ← Sorting.sort (lessAt o items) (List.range items.size)
  return places.filterMap (items[·]?)

/-- The items of a value in ascending order. -/
def sort (o : Objects) (v : Value) (m : Type → Type := Except Fault) [Monad m] [Reporting m] :
    m Value := do
  return list none (← sorted o (← ofExcept v.items?) m)

/-! ## Distinct values -/

mutual

/-- The kind of a part for which values are not counted, if there is one. -/
def uncountable? : Value → Option Text
  | list _ _ => some "list"
  | object _ => some "dict"
  | report _ kind => some kind.name
  | tuple items => uncountableItem? items
  | config _ checked level => (uncountable? checked).or (uncountable? level)
  | _ => none

/-- The first such kind among some items. -/
def uncountableItem? : List Value → Option Text
  | [] => none
  | item :: rest => (uncountable? item).or (uncountableItem? rest)

end

mutual

/-- Whether two values agree in kind and in all numbers, watched or not. -/
def looksAlike : Value → Value → Bool
  | null, null => true
  | text a, text b => a == b
  | tuple as, tuple bs => looksAlikeItems as bs
  | cls a, cls b => a == b
  | position p, position q => p.alike q
  | range r, range s => r.start.alike s.start && r.stop.alike s.stop
  | config _ a l, config _ b m =>
    (a.isSelf b || looksAlike a b) && (l.isSelf m || looksAlike l m)
  | logger a, logger b => a == b
  | a, b =>
    match a.number?, b.number? with
    | some m, some n => m.test .eq n
    | _, _ => false

/-- Whether two sequences agree item by item. -/
def looksAlikeItems : List Value → List Value → Bool
  | [], [] => true
  | a :: as, b :: bs => (a.isSelf b || looksAlike a b) && looksAlikeItems as bs
  | _, _ => false

end

/-- Whether two values are one, or agree in kind and in all numbers. -/
def alike (a b : Value) : Bool :=
  a.isSelf b || looksAlike a b

/-- The items without those that are alike an earlier one, the last in front. -/
def representatives (items : List Value) : List Value :=
  items.foldl (fun found a => if found.any a.alike then found else a :: found) []

/-- The number of distinct items. -/
def distinct (v : Value) : Except Fault Value := do
  let items ← v.items?
  match uncountableItem? items with
  | some kind => throw (.mismatch (.unhashable kind))
  | none => return int (representatives items).length

end Caret.Value
