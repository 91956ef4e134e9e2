/-
  Merging two runs, where items of the second come before those of the first only if they are less.

  The items are compared one by one until one run wins too often in a row; then whole stretches are
  taken, as long as they are long. How often is too often is the patience, which grows and shrinks
  with the use of that.

  * `Sorting.Part`: what is left of a run;
  * `Sorting.Merging`: two runs on the way to be merged, from the front or from the back;
  * `Sorting.merge`: the merged runs, and the patience after that.
-/
import Caret.Sorting.Gallop

namespace Caret.Sorting

/-- The items of a run from `start` to `stop`. -/
structure Part (α : Type) where
  /-- The items of the run. -/
  items : Array α
  /-- Where the part starts. -/
  start : Nat
  /-- Where the part ends, which is behind its last item. -/
  stop : Nat

/-- The end of the runs at which they are merged. -/
inductive Edge
  /-- The least items come first. -/
  | front
  /-- The greatest items come first. -/
  | back
  deriving DecidableEq

namespace Part

variable {α : Type}

/-- The number of items. -/
def size (p : Part α) : Nat :=
  p.stop - p.start

/-- The item at a place in the part. -/
def item? (p : Part α) (i : Nat) : Option α :=
  p.items[p.start + i]?

/-- The items in order. -/
def toList (p : Part α) : List α :=
  (p.items.extract p.start p.stop).toList

/-- The place of the outermost item. -/
def outermost (p : Part α) : Edge → Nat
  | .front => 0
  | .back => p.size - 1

/-- The part without some of its outermost items. -/
def drop (p : Part α) (k : Nat) : Edge → Part α
  | .front => { p with start := p.start + k }
  | .back => { p with stop := p.stop - k }

/-- Some of the outermost items, the outermost last. -/
def outer (p : Part α) (k : Nat) : Edge → List α
  | .front => (p.items.extract p.start (p.start + k)).toList.reverse
  | .back => (p.items.extract (p.stop - k) p.stop).toList

end Part

/-- Two runs on the way to be merged. -/
structure Merging (α : Type) where
  /-- Where they are merged. -/
  edge : Edge
  /-- What is left of the first run. -/
  first : Part α
  /-- What is left of the second run. -/
  second : Part α
  /-- The items taken so far, the last one in front. -/
  taken : List α

namespace Merging

variable {m : Type → Type} [Monad m] {α : Type}

/-- Takes outermost items of the first run. -/
def takeFirst (s : Merging α) (k : Nat) : Merging α :=
  { s with first := s.first.drop k s.edge, taken := s.first.outer k s.edge ++ s.taken }

/-- Takes outermost items of the second run. -/
def takeSecond (s : Merging α) (k : Nat) : Merging α :=
  { s with second := s.second.drop k s.edge, taken := s.second.outer k s.edge ++ s.taken }

/-- Whether nothing is left to compare: one run has ended, or the other one is down to an item of
    which it is known that it comes last. -/
def done (s : Merging α) : Bool :=
  match s.edge with
  | .front => s.second.size == 0 || s.first.size ≤ 1
  | .back => s.first.size == 0 || s.second.size ≤ 1

/-- The items of both runs, when nothing is left to compare. -/
def result (s : Merging α) : List α :=
  match s.edge with
  | .front => s.taken.reverse ++ s.second.toList ++ s.first.toList
  | .back => s.second.toList ++ s.first.toList ++ s.taken

/-- Whether the outermost item of the second run is less than that of the first. -/
@[specialize]
def secondLess (less : α → α → m Bool) (s : Merging α) : m Bool :=
  match s.second.item? (s.second.outermost s.edge), s.first.item? (s.first.outermost s.edge) with
  | some b, some a => less b a
  | _, _ => return false

/-- Takes items one by one until one run has won `patience` times in a row, or nothing is left to
    compare. The numbers count the last wins of each run. -/
@[specialize]
def oneByOne (less : α → α → m Bool) (patience : Nat) :
    (steps : Nat) → (firstWins secondWins : Nat) → Merging α → m (Merging α)
  | 0, _, _, s => return s
  | n + 1, firstWins, secondWins, s => do
    let fromSecond := (← s.secondLess less) == (s.edge == .front)
    let s := if fromSecond then s.takeSecond 1 else s.takeFirst 1
    let firstWins := if fromSecond then 0 else firstWins + 1
    let secondWins := if fromSecond then secondWins + 1 else 0
    if s.done || firstWins ≥ patience || secondWins ≥ patience then return s
    else oneByOne less patience n firstWins secondWins s

/-- How many outermost items of the first run go beyond the outermost one of the second. -/
@[specialize]
def firstStretch (less : α → α → m Bool) (s : Merging α) : m Nat :=
  match s.second.item? (s.second.outermost s.edge) with
  | none => return 0
  | some b => do
    let before (i : Nat) : m Bool :=
      match s.first.item? i with
      | some a => return !(← less b a)
      | none => return false
    let k ← gallop before s.first.size (s.first.outermost s.edge)
    return match s.edge with
      | .front => k
      | .back => s.first.size - k

/-- How many outermost items of the second run go beyond the outermost one of the first. -/
@[specialize]
def secondStretch (less : α → α → m Bool) (s : Merging α) : m Nat :=
  match s.first.item? (s.first.outermost s.edge) with
  | none => return 0
  | some a => do
    let before (i : Nat) : m Bool :=
      match s.second.item? i with
      | some b => less b a
      | none => return false
    let k ← gallop before s.second.size (s.second.outermost s.edge)
    return match s.edge with
      | .front => k
      | .back => s.second.size - k

/-- The length from which on stretches are long. -/
def longStretch : Nat := 7

/-- Takes stretches of both runs in turn, as long as one of two is long or until nothing is left to
    compare. Each turn after the first makes one less patient, and the end more patient. -/
@[specialize]
def byStretches (less : α → α → m Bool) :
    (turns : Nat) → (patience : Nat) → Merging α → m (Merging α × Nat)
  | 0, patience, s => return (s, patience)
  | n + 1, patience, s => do
    let k ← s.firstStretch less
    let s := s.takeFirst k
    if s.done then return (s, patience)
    let s := s.takeSecond 1
    if s.done then return (s, patience)
    let l ← s.secondStretch less
    let s := s.takeSecond l
    if s.done then return (s, patience)
    let s := s.takeFirst 1
    if s.done then return (s, patience)
    if k ≥ longStretch || l ≥ longStretch then byStretches less n (max 1 (patience - 1)) s
    else return (s, patience + 1)

/-- Takes items until nothing is left to compare: one by one, then by stretches, and so on. -/
@[specialize]
def finish (less : α → α → m Bool) :
    (steps : Nat) → (patience : Nat) → Merging α → m (Merging α × Nat)
  | 0, patience, s => return (s, patience)
  | n + 1, patience, s => do
    if s.done then return (s, patience)
    let left := s.first.size + s.second.size
    let s ← oneByOne less patience left 0 0 s
    if s.done then return (s, patience)
    let (s, patience) ← byStretches less left patience s
    finish less n patience s

end Merging

variable {m : Type → Type} [Monad m] {α : Type}

/-- How many items of a run are not greater than `b`, looked for from the front. -/
@[specialize]
def notAbove (less : α → α → m Bool) (items : Array α) (b : α) : m Nat :=
  let before (i : Nat) : m Bool :=
    match items[i]? with
    | some a => return !(← less b a)
    | none => return false
  gallop before items.size 0

/-- How many items of a run are less than `a`, looked for from the back. -/
@[specialize]
def below (less : α → α → m Bool) (items : Array α) (a : α) : m Nat :=
  let before (i : Nat) : m Bool :=
    match items[i]? with
    | some b => less b a
    | none => return false
  gallop before items.size (items.size - 1)

/-- Two runs merged, and the patience after that. Items that are in place already are left out; of
    the others, the shorter part is the one that is known to end last. -/
@[specialize]
def merge (less : α → α → m Bool) (patience : Nat) (first second : Array α) :
    m (Array α × Nat) :=
  match second[0]?, first.back? with
  | some b, some a => do
    let start ← notAbove less first b
    if start = first.size then return (first ++ second, patience)
    let stop ← below less second a
    if stop = 0 then return (first ++ second, patience)
    let edge := if first.size - start ≤ stop then Edge.front else .back
    let s : Merging α := ⟨edge, ⟨first, start, first.size⟩, ⟨second, 0, stop⟩, []⟩
    let s := if edge = .front then s.takeSecond 1 else s.takeFirst 1
    let (s, patience) ← s.finish less (first.size + second.size) patience
    return (first.extract 0 start ++ s.result.toArray ++ second.extract stop second.size, patience)
  | _, _ => return (first ++ second, patience)

end Caret.Sorting
