/-
  What the kinds of position have in common: an origin, an order, arithmetic and a display.

  * `PositionKind`: the class of kinds of position;
  * `PositionKind.test`: the six comparisons of two positions of one kind, in the order in which
    they ask; each is refused exactly if the positions are not comparable, and otherwise holds as
    the order says (`test_eq`);
  * `Kind`, `Kind.Place`: the kinds as values, and the positions of each.
-/
import Caret.Position.Composite

namespace Caret

/-- A kind of position. Positions are ordered by their numbers; `comparable` refuses two positions
    on whose order these numbers are watched and do not agree. -/
class PositionKind (P : Type) where
  /-- The name of the kind. -/
  kindName : Text
  /-- The start of a text. -/
  zero : P
  /-- The order of positions. -/
  order : P → P → Ordering
  /-- Refuses positions that must not be compared. -/
  comparable (a b : P) (m : Type → Type := Except Fault) [Monad m] [Reporting m] : m Unit
  /-- The position `b` seen from `a`. -/
  add (a b : P) (m : Type → Type := Except Fault) [Monad m] [Reporting m] : m P
  /-- How far `a` is behind `b`. -/
  saturatingSub (a b : P) (m : Type → Type := Except Fault) [Monad m] [Reporting m] : m P
  /-- The short form. -/
  display : P → Text
  /-- The full form. -/
  written : P → Text
  /-- Row and column, for kinds that have them. -/
  rowColumn? : P → Option (Coordinate × Coordinate)

instance : PositionKind ByteIndex where
  kindName := ByteIndex.kindName
  zero := .zero
  order := ByteIndex.order
  comparable _ _ _ := pure ()
  add a b _ := ofExcept (a.add b)
  saturatingSub a b _ := pure (a.monus b)
  display := ByteIndex.display
  written := ByteIndex.written
  rowColumn? _ := none

instance (u : ColumnUnit) : PositionKind (RowColumn u) where
  kindName := RowColumn.kindName u
  zero := .zero
  order := RowColumn.order
  comparable _ _ _ := pure ()
  add a b _ := ofExcept (a.add b)
  saturatingSub a b _ := pure (a.monus b)
  display := RowColumn.display
  written := RowColumn.written
  rowColumn? a := some (a.row, a.column)

instance : PositionKind Composite where
  kindName := Composite.kindName
  zero := .zero
  order := Composite.order
  comparable a b m := Composite.comparable a b m
  add a b m := Composite.add a b m
  saturatingSub a b m := Composite.saturatingSub a b m
  display := Composite.display
  written := Composite.written
  rowColumn? a := some (a.utf8.row, a.utf8.column)

/-! ## Comparisons -/

namespace PositionKind

variable {P : Type} [PositionKind P]

/-- Whether two positions are the same place. -/
def eq (a b : P) (m : Type → Type := Except Fault) [Monad m] [Reporting m] : m Bool := do
  comparable a b m
  return order a b == .eq

/-- Whether `a` is before `b`. -/
def lt (a b : P) (m : Type → Type := Except Fault) [Monad m] [Reporting m] : m Bool := do
  comparable a b m
  return order a b == .lt

/-- The comparison of two positions. All but two ask whether the first is before the second, and
    only then, where that leaves the answer open, whether they are the same. -/
def test (c : Comparison) (a b : P) (m : Type → Type := Except Fault) [Monad m] [Reporting m] :
    m Bool :=
  match c with
  | .eq => eq a b m
  | .ne => return !(← eq a b m)
  | .lt => lt a b m
  | .le => do if ← lt a b m then return true else eq a b m
  | .gt => do if ← lt a b m then return false else return !(← eq a b m)
  | .ge => return !(← lt a b m)

/-- **Comparisons follow the order.** Whatever they ask and in which order, all six are refused
    alike, and otherwise say what the order of the positions does. -/
theorem test_eq (c : Comparison) (a b : P) :
    test c a b = (comparable a b).map fun _ => c.holds (order a b) := by
  cases h : comparable a b with
  | error f => cases c <;> simp [test, eq, lt, h, bind, Except.bind, Except.map]
  | ok u =>
    cases c <;> cases ho : order a b <;>
      simp [test, eq, lt, h, ho, bind, Except.bind, Except.map, pure, Except.pure, Comparison.holds]

end PositionKind

/-! ## The kinds as values -/

/-- The kinds of position. -/
inductive Kind
  /-- Bytes from the start. -/
  | byteIndex
  /-- Rows and columns. -/
  | rowColumn (u : ColumnUnit)
  /-- All measures at once. -/
  | composite
  deriving DecidableEq

/-- The positions of a kind. -/
abbrev Kind.Place : Kind → Type
  | .byteIndex => ByteIndex
  | .rowColumn u => RowColumn u
  | .composite => Composite

instance : (k : Kind) → PositionKind k.Place
  | .byteIndex => inferInstanceAs (PositionKind ByteIndex)
  | .rowColumn u => inferInstanceAs (PositionKind (RowColumn u))
  | .composite => inferInstanceAs (PositionKind Composite)

/-- The name of a kind. -/
def Kind.name (k : Kind) : Text :=
  PositionKind.kindName k.Place

end Caret
