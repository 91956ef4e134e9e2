/-
  Comparing values: whether they are the same, and which is less.

  * `Value.same`, `Value.ordered`: whether two values are the same, and how they are ordered;
  * `Value.test`: the six comparisons.
-/
import Caret.Value.Objects

namespace Caret.Value

variable {m : Type → Type} [Monad m] [Reporting m]

/-- A way to tell whether two error objects of one kind are the same, by their marks. -/
abbrev ReportComparer (m : Type → Type) := Nat → Nat → m Bool

mutual

/-- Whether two values are the same, given that for error objects. Positions and ranges of two kinds
    are not, and neither are lists of two lengths, whatever their items. -/
def sameWith (reports : ReportComparer m) : Value → Value → m Bool
  | null, null => return true
  | text a, text b => return (a == b)
  | list _ as, list _ bs =>
    if as.length = bs.length then sameItems reports as bs else return false
  | tuple as, tuple bs => sameItems reports as bs
  | object as, object bs =>
    if as.length = bs.length then sameEntries reports as bs else return false
  | cls a, cls b => return (a == b)
  | position p, position q => p.test .eq q m
  | range r, range s => r.test .eq s m
  | config _ a l, config _ b k => do
    if ← (if a.isSelf b then return true else sameWith reports a b) then
      if l.isSelf k then return true else sameWith reports l k
    else return false
  | report i k, report j k' => if k = k' then reports i j else return false
  | logger a, logger b => return (a == b)
  | a, b =>
    match a.number?, b.number? with
    | some x, some y => return (x.test .eq y)
    | _, _ => return false

/-- Whether two sequences are the same, item by item. Nothing is asked about an item that is one
    with the other. -/
def sameItems (reports : ReportComparer m) : List Value → List Value → m Bool
  | [], [] => return true
  | a :: as, b :: bs => do
    if ← (if a.isSelf b then return true else sameWith reports a b) then sameItems reports as bs
    else return false
  | _, _ => return false

/-- Whether the entries of one object are all in another one. -/
def sameEntries (reports : ReportComparer m) :
    List (Text × Value) → List (Text × Value) → m Bool
  | [], _ => return true
  | (key, a) :: rest, bs =>
    match bs.lookup key with
    | some b => do if ← sameWith reports a b then sameEntries reports rest bs else return false
    | none => return false

end

/-- Whether two error objects of one kind say the same, where error objects in what they say are
    compared at most `depth` times one inside the other. -/
def sameReports (o : Objects) : (depth : Nat) → ReportComparer m
  | 0, _, _ => refuse (.endless .comparison)
  | depth + 1, i, j =>
    let c := o.contents i
    let d := o.contents j
    sameItems (sameReports o depth) [c.message, c.hint] [d.message, d.hint]

/-- Whether two values are the same. The comparison of objects that hold themselves need not end: it
    does not, if it comes to the same two error objects again, and there are only so many pairs. -/
def same (o : Objects) (a b : Value) (m : Type → Type := Except Fault) [Monad m] [Reporting m] :
    m Bool :=
  sameWith (sameReports o (o.reports.length * o.reports.length)) a b

mutual

/-- An order of two values: texts and sequences go by the first place where they differ, and
    positions and ranges of one kind as they are ordered. -/
def ordered (o : Objects) (c : Comparison) : Value → Value → m Bool
  | position p, position q => p.test c q m
  | range r, range s => r.test c s m
  | text a, text b => return (c.holds (List.compareLex (compareOn CodePoint.val) a b))
  | list _ as, list _ bs => orderedItems o c as bs
  | tuple as, tuple bs => orderedItems o c as bs
  | a, b =>
    match a.number?, b.number? with
    | some x, some y => return (x.test c y)
    | _, _ => refuse (.mismatch (.unordered c a.kindName b.kindName))

/-- An order of two sequences. -/
def orderedItems (o : Objects) (c : Comparison) : List Value → List Value → m Bool
  | a :: as, b :: bs => do
    if ← (if a.isSelf b then return true else same o a b m) then orderedItems o c as bs
    else ordered o c a b
  | as, bs => return (c.holds (compare as.length bs.length))

end

/-- The comparison of two values. -/
def test (o : Objects) (c : Comparison) (a b : Value)
    (m : Type → Type := Except Fault) [Monad m] [Reporting m] : m Bool :=
  match c with
  | .eq => same o a b m
  | .ne => return !(← same o a b m)
  | c => ordered o c a b

end Caret.Value
