/-
  Arithmetic of positions: going on by a text is adding its length, and texts are placed one behind
  the other or taken off the front. What fits is taken as it is, what does not is refused by name.

  * `Coordinate.ofInt`, `Coordinate.ofLength`, `Coordinate.add`: an integer and the length of a text
    as coordinates, and the sum of two;
  * `ByteIndex.ofInt`, `ByteIndex.ofLength`, `RowColumn.ofInts`: positions from numbers;
  * `ByteIndex.add`, `RowColumn.add`: the end of one text placed behind another; a text that ends a
    line starts the columns anew;
  * `ByteIndex.monus`, `RowColumn.monus`: how far one position is behind another.
-/
import Caret.Fault

namespace Caret

/-! ## Coordinates -/

namespace Coordinate

/-- The integer `n` as the field of a given name. -/
def ofInt (field : Text) (n : Int) : Except Fault Coordinate :=
  if n < 0 then .error (.showing n (.negative field n))
  else if h : n ≤ limit then .ok ⟨n.toNat, by omega⟩
  else .error (.showing n (.tooLarge field n))

theorem ofInt_eq_ok_iff {field : Text} {n : Int} {a : Coordinate} :
    ofInt field n = .ok a ↔ n = a.val := by
  have := a.le_limit
  unfold ofInt
  split
  · simp; omega
  split
  · simp [Coordinate.ext_iff]; omega
  · simp; omega

/-- The length of a text as the field of a given name. What is held in memory is never so long that
    its length has too many digits to be written. -/
def ofLength (field : Text) (n : Nat) : Except Fault Coordinate :=
  if h : n ≤ limit then .ok ⟨n, h⟩ else .error (.tooLarge field n)

theorem ofLength_eq_ok_iff {field : Text} {n : Nat} {a : Coordinate} :
    ofLength field n = .ok a ↔ n = a.val := by
  have := a.le_limit
  unfold ofLength
  split
  · simp [Coordinate.ext_iff]
  · simp; omega

/-- The sum of two coordinates as the field of a given name. -/
def add (field : Text) (a b : Coordinate) : Except Fault Coordinate :=
  if h : a.val + b.val ≤ limit then .ok ⟨a.val + b.val, h⟩
  else .error (.sumTooLarge field a.decimal b.decimal)

theorem add_eq_ok_iff {field : Text} {a b c : Coordinate} :
    add field a b = .ok c ↔ c.val = a.val + b.val := by
  have := c.le_limit
  unfold add
  split
  · simp [Coordinate.ext_iff, eq_comm]
  · simp; omega

end Coordinate

/-! ## Bytes from the start -/

namespace ByteIndex

/-- The position behind `n` bytes. -/
def ofInt (n : Int) : Except Fault ByteIndex :=
  (Coordinate.ofInt "index" n).map ByteIndex.mk

/-- The position behind a text of `n` bytes. -/
def ofLength (n : Nat) : Except Fault ByteIndex :=
  (Coordinate.ofLength "index" n).map ByteIndex.mk

/-- The position `b` seen from `a`. -/
def add (a b : ByteIndex) : Except Fault ByteIndex :=
  (Coordinate.add "index" a.index b.index).map ByteIndex.mk

/-- How far `a` is behind `b`; the start if it is not. -/
def monus (a b : ByteIndex) : ByteIndex :=
  ⟨a.index.monus b.index⟩

end ByteIndex

/-! ## Rows and columns -/

namespace RowColumn

variable {u : ColumnUnit}

/-- The position behind `row` line terminators and `column` further units. -/
def ofInts (row column : Int) : Except Fault (RowColumn u) := do
  let row ← Coordinate.ofInt "row" row
  let column ← Coordinate.ofInt "column" column
  return ⟨row, column⟩

/-- The position `b` seen from `a`: on the same row the columns add up, on a later row the column
    counts from the start of that row already. -/
def add (a b : RowColumn u) : Except Fault (RowColumn u) :=
  if b.row = .zero then (Coordinate.add "column" a.column b.column).map (⟨a.row, ·⟩)
  else (Coordinate.add "row" a.row b.row).map (⟨·, b.column⟩)

/-- How far `a` is behind `b`; the start if it is not. What remains behind a position on an earlier
    row keeps its whole last line. -/
def monus (a b : RowColumn u) : RowColumn u :=
  if a.row.val < b.row.val then .zero
  else if a.row = b.row then ⟨.zero, a.column.monus b.column⟩
  else ⟨a.row.monus b.row, a.column⟩

end RowColumn

end Caret
