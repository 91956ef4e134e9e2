/-
  Positions in a text, in the measures that are in use: bytes from the start, rows and columns, and
  all of them at once.

  * `Coordinate`: a number inside a position, at most `Coordinate.limit`; numerals up to that are
    coordinates;
  * `ByteIndex`: how many bytes of UTF-8 precede the position;
  * `RowColumn`: how many lines precede it and how far it is into its line, in the code units of
    UTF-8 or of UTF-16;
  * `Composite`: the same place in all three measures;
  * `order`: positions compare by their numbers, the most significant one first;
  * `display`, `written`: the short form of a position, and the full one with names.
-/
import Caret.Text

namespace Caret

/-! ## Coordinates -/

/-- The largest number that a position holds. -/
abbrev Coordinate.limit : Nat := 4294967295

/-- A number inside a position: a count of bytes, rows or columns that fits in 32 bits. -/
@[ext]
structure Coordinate where
  /-- The count. -/
  val : Nat
  /-- Counts beyond the limit are refused, never wrapped. -/
  le_limit : val ≤ Coordinate.limit
  deriving DecidableEq

namespace Coordinate

/-- A count goes beyond the limit by so much. One is added, since among numerals instances are found
    for successors. -/
class Excess (n more : Nat) : Prop where
  /-- How much it is. -/
  eq : n - limit + 1 = more

instance (n : Nat) : Excess n (n - limit + 1) := ⟨rfl⟩

/-- A numeral is the coordinate of that count. There is none beyond the limit. -/
instance (n : Nat) [h : Excess n 1] : OfNat Coordinate n where
  ofNat := ⟨n, Nat.le_of_sub_eq_zero (Nat.succ.inj h.eq)⟩

/-- The count of nothing. -/
def zero : Coordinate := ⟨0, by decide⟩

/-- What `a` has more than `b`; nothing if it has less. -/
def monus (a b : Coordinate) : Coordinate :=
  ⟨a.val - b.val, by have := a.le_limit; omega⟩

/-- The decimal numeral of a coordinate. -/
def decimal (a : Coordinate) : Text :=
  Text.decimal a.val

end Coordinate

/-! ## Bytes from the start -/

/-- A position as the number of UTF-8 bytes in front of it. -/
@[ext]
structure ByteIndex where
  /-- The number of bytes. -/
  index : Coordinate
  deriving DecidableEq

namespace ByteIndex

/-- The name of the kind. -/
def kindName : Text := "ByteIndex"

/-- The start of a text. -/
def zero : ByteIndex := ⟨.zero⟩

/-- Byte indices compare as numbers. -/
def order (a b : ByteIndex) : Ordering :=
  compare a.index.val b.index.val

/-- The number alone. -/
def display (a : ByteIndex) : Text :=
  a.index.decimal

/-- The kind with its field by name. -/
def written (a : ByteIndex) : Text :=
  Text.join [kindName, "(index=", a.index.decimal, ")"]

end ByteIndex

/-! ## Rows and columns -/

/-- What a column counts. -/
inductive ColumnUnit
  /-- Bytes of UTF-8. -/
  | utf8
  /-- Code units of UTF-16. -/
  | utf16
  deriving DecidableEq

/-- A position as the number of lines in front of it and the distance from the start of its line.
    It is the end of a text of `row` line terminators and `column` further units. -/
@[ext]
structure RowColumn (u : ColumnUnit) where
  /-- The number of line terminators in front of the position. -/
  row : Coordinate
  /-- The number of code units between the last of them and the position. -/
  column : Coordinate
  deriving DecidableEq

namespace RowColumn

/-- The name of the kind. -/
def kindName : ColumnUnit → Text
  | .utf8 => "Utf8Position"
  | .utf16 => "Utf16Position"

variable {u : ColumnUnit}

/-- The start of a text. -/
def zero : RowColumn u := ⟨.zero, .zero⟩

/-- Rows come first, columns decide within a row. -/
def order (a b : RowColumn u) : Ordering :=
  (compare a.row.val b.row.val).then (compare a.column.val b.column.val)

/-- Row and column as people count them, from one. -/
def display (a : RowColumn u) : Text :=
  Text.join [Text.decimal (a.row.val + 1), ":", Text.decimal (a.column.val + 1)]

/-- The kind with its fields by name. -/
def written (a : RowColumn u) : Text :=
  Text.join [kindName u, "(row=", a.row.decimal, ", column=", a.column.decimal, ")"]

end RowColumn

/-! ## All measures at once -/

/-- One place in three measures, and whether they are watched for agreement. Nothing in the numbers
    says that they agree: with `checked` every operation makes sure of it, without it the caller
    has to. -/
@[ext]
structure Composite where
  /-- The place in bytes from the start. -/
  index : ByteIndex
  /-- The place in rows and columns of bytes. -/
  utf8 : RowColumn .utf8
  /-- The place in rows and columns of UTF-16 code units. -/
  utf16 : RowColumn .utf16
  /-- Whether the three are watched for agreement. -/
  checked : Bool
  deriving DecidableEq

namespace Composite

/-- The name of the kind. -/
def kindName : Text := "CompositePosition"

/-- The start of a text. It is not checked: there is nothing to disagree about. -/
def zero : Composite := ⟨.zero, .zero, .zero, false⟩

/-- The index decides first, then the UTF-8 measure, then the UTF-16 measure. -/
def order (a b : Composite) : Ordering :=
  ((a.index.order b.index).then (a.utf8.order b.utf8)).then (a.utf16.order b.utf16)

/-- Row and column in bytes. -/
def display (a : Composite) : Text :=
  a.utf8.display

/-- The kind with its parts by name. -/
def written (a : Composite) : Text :=
  Text.join [kindName, "(index=", a.index.written, ", utf8=", a.utf8.written, ", utf16=",
    a.utf16.written, ")"]

end Composite

end Caret
