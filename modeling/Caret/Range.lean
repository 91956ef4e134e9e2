/-
  Ranges between two positions of one kind, the first included and the last not.

  * `Range.of`: the range between two positions in order;
  * `Range.Valid`: the ends are in order;
  * `isEmpty`, `contains`, `containsInclusive`, `covers`, `overlaps`: what lies in a range;
  * `intersect`, `cover`, `coverPosition`: the common part and the hull;
  * `len`: how far the end is behind the start;
  * `test`: ranges compare as pairs of positions.
-/
import Caret.Position.Kind

namespace Caret

open PositionKind

/-- A range from `start` up to `stop`. -/
@[ext]
structure Range (P : Type) where
  /-- The first position in the range. -/
  start : P
  /-- The first position behind it. -/
  stop : P
  deriving DecidableEq

namespace Range

variable {P : Type} [PositionKind P]

/-- The name of all ranges. -/
def kindName : Text := "TextRange"

/-- The ends of the range are in order, and may be compared. -/
structure Valid (r : Range P) : Prop where
  /-- The end is not before the start. -/
  order_ne_gt : order r.start r.stop ≠ .gt
  /-- The comparison of the end with the start is not refused. -/
  comparable_eq_ok : comparable r.stop r.start = .ok ()

/-! ## Making ranges -/

/-- The range between two positions, unless the second is before the first. -/
def of (start stop : P) (m : Type → Type := Except Fault) [Monad m] [Reporting m] :
    m (Range P) := do
  if ← test .lt stop start m then
    refuse (.inverted (display start) (display stop))
  else
    return ⟨start, stop⟩

/-- The empty range at a position. -/
def empty (p : P) (m : Type → Type := Except Fault) [Monad m] [Reporting m] : m (Range P) :=
  of p p m

/-- The range from the start of the text to a position. -/
def upTo (p : P) (m : Type → Type := Except Fault) [Monad m] [Reporting m] : m (Range P) :=
  of zero p m

/-- The empty range at the start of a range. -/
def startPoint (r : Range P) (m : Type → Type := Except Fault) [Monad m] [Reporting m] :
    m (Range P) :=
  of r.start r.start m

/-- The empty range at the end of a range. -/
def endPoint (r : Range P) (m : Type → Type := Except Fault) [Monad m] [Reporting m] :
    m (Range P) :=
  of r.stop r.stop m

/-! ## What lies in a range -/

/-- How far the end is behind the start. -/
def len (r : Range P) (m : Type → Type := Except Fault) [Monad m] [Reporting m] : m P :=
  saturatingSub r.stop r.start m

/-- Whether the ends are the same place. -/
def isEmpty (r : Range P) (m : Type → Type := Except Fault) [Monad m] [Reporting m] : m Bool :=
  test .eq r.start r.stop m

/-- Whether `p` is in the range, its end excluded. -/
def contains (r : Range P) (p : P) (m : Type → Type := Except Fault) [Monad m] [Reporting m] :
    m Bool := do
  if ← test .le r.start p m then test .lt p r.stop m else return false

/-- Whether `p` is in the range or at its end. -/
def containsInclusive (r : Range P) (p : P)
    (m : Type → Type := Except Fault) [Monad m] [Reporting m] : m Bool := do
  if ← test .le r.start p m then test .le p r.stop m else return false

/-- Whether all of `s` is in `r`. -/
def covers (r s : Range P) (m : Type → Type := Except Fault) [Monad m] [Reporting m] : m Bool := do
  if ← test .le r.start s.start m then test .le s.stop r.stop m else return false

/-- Whether some position is in both ranges. An empty range holds none, and what it is compared with
    does not matter then. -/
def overlaps (r s : Range P) (m : Type → Type := Except Fault) [Monad m] [Reporting m] :
    m Bool := do
  if ← r.isEmpty m then return false
  else if ← s.isEmpty m then return false
  else if ← test .lt r.start s.stop m then test .lt s.start r.stop m
  else return false

/-! ## Common part and hull -/

/-- The later of two positions, the first one if they are the same. -/
def later (a b : P) (m : Type → Type := Except Fault) [Monad m] [Reporting m] : m P := do
  if ← test .gt b a m then return b else return a

/-- The earlier of two positions, the first one if they are the same. -/
def earlier (a b : P) (m : Type → Type := Except Fault) [Monad m] [Reporting m] : m P := do
  if ← test .lt b a m then return b else return a

/-- The common part of two ranges, empty where they only touch; none if they are apart. -/
def intersect (r s : Range P) (m : Type → Type := Except Fault) [Monad m] [Reporting m] :
    m (Option (Range P)) := do
  let start ← later r.start s.start m
  let stop ← earlier r.stop s.stop m
  if ← test .lt stop start m then return none else return some (← of start stop m)

/-- The smallest range that covers both ranges. -/
def cover (r s : Range P) (m : Type → Type := Except Fault) [Monad m] [Reporting m] :
    m (Range P) := do
  let start ← earlier r.start s.start m
  let stop ← later r.stop s.stop m
  of start stop m

/-- The smallest range that covers a range and a position. -/
def coverPosition (r : Range P) (p : P) (m : Type → Type := Except Fault) [Monad m] [Reporting m] :
    m (Range P) := do
  r.cover (← empty p m) m

/-! ## Comparing and showing ranges -/

/-- The comparison of two ranges: the first ends that differ decide. -/
def test (c : Comparison) (r s : Range P)
    (m : Type → Type := Except Fault) [Monad m] [Reporting m] : m Bool := do
  if ← eq r.start s.start m then
    if ← eq r.stop s.stop m then return c.holds .eq else PositionKind.test c r.stop s.stop m
  else PositionKind.test c r.start s.start m

/-- Rows and columns from one, joined by points and a dash, where the positions have them; the
    displays of the ends otherwise. -/
def display (r : Range P) : Text :=
  match rowColumn? r.start, rowColumn? r.stop with
  | some (startRow, startColumn), some (stopRow, stopColumn) =>
    Text.join [Text.decimal (startRow.val + 1), ".", Text.decimal (startColumn.val + 1), "-",
      Text.decimal (stopRow.val + 1), ".", Text.decimal (stopColumn.val + 1)]
  | _, _ => Text.join [PositionKind.display r.start, "..", PositionKind.display r.stop]

/-- The full form with the ends by name. -/
def written (r : Range P) : Text :=
  Text.join [kindName, "(start=", PositionKind.written r.start, ", end=",
    PositionKind.written r.stop, ")"]

end Range

end Caret
