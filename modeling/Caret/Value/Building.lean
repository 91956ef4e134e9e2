/-
  Positions and ranges from values, with a refusal for whatever is none.

  * `Value.field`: a value as a field of a position;
  * `Value.byteIndexOf`, `Value.rowColumnOf`, `Value.partsOf`: positions from the values of their
    fields;
  * `Value.rangeOf`: the range between two values;
  * `Value.editorPosition`, `Value.editorRange`: the objects by which editors speak of positions and
    ranges, read;
  * `Value.ofEditorPosition`, `Value.ofEditorRange`: the same objects, made.
-/
import Caret.Value.Parts

namespace Caret.Value

/-! ## Positions -/

/-- A value as the field of a given name: an integer that fits. A truth value is none. -/
def field (name : Text) : Value → Except Fault Coordinate
  | int n => Coordinate.ofInt name n
  | v => .error (.notANumber name v.kindName)

/-- The byte index with a value as its number. -/
def byteIndexOf (index : Value) : Except Fault ByteIndex :=
  (field "index" index).map ByteIndex.mk

/-- The position with values as its row and its column. -/
def rowColumnOf (u : ColumnUnit) (row column : Value) : Except Fault (RowColumn u) := do
  let row ← field "row" row
  let column ← field "column" column
  return ⟨row, column⟩

/-- A value as the part of a composite of a given name and kind. -/
def partOf (name : Text) (k : Kind) (v : Value) : Except Fault k.Place :=
  let refused := .error (.mismatch (.part name k.name v.kindName))
  match v with
  | position p =>
    match p.as? k with
    | some place => .ok place
    | none => refused
  | _ => refused

/-- The composite, not watched, with values as its parts. -/
def partsOf (index utf8 utf16 : Value) : Except Fault Composite := do
  let index ← partOf "index" .byteIndex index
  let utf8 ← partOf "utf8" (.rowColumn .utf8) utf8
  let utf16 ← partOf "utf16" (.rowColumn .utf16) utf16
  return ⟨index, utf8, utf16, false⟩

/-- The composite, not watched, with values as its index, its row and its columns. -/
def numbersOf (index row column8 column16 : Value) : Except Fault Composite := do
  let index ← byteIndexOf index
  let utf8 ← rowColumnOf .utf8 row column8
  let utf16 ← rowColumnOf .utf16 row column16
  return ⟨index, utf8, utf16, false⟩

theorem numbersOf_int (index row column8 column16 : Int) :
    numbersOf (int index) (int row) (int column8) (int column16) =
      Composite.ofInts index row column8 column16 false := rfl

/-- A choice of checking, or nothing to leave it open. -/
def choiceOf : Value → Except Fault (Option Bool)
  | null => .ok none
  | bool checked => .ok (some checked)
  | v => .error (.mismatch (.flag v.kindName))

/-! ## Ranges -/

/-- Whether a value is a position. The class of a kind counts too: it offers what a position does,
    the order apart. -/
def isPosition : Value → Bool
  | position _ | cls (.kind _) => true
  | _ => false

/-- The range between two values. -/
def rangeOf (start stop : Value) (m : Type → Type := Except Fault) [Monad m] [Reporting m] :
    m PositionRange :=
  match start, stop with
  | position p, position q => PositionRange.of p q m
  | _, _ =>
    if start.kindName ≠ stop.kindName then
      refuse (.mismatch (.rangeEnds start.kindName stop.kindName))
    else if start.isPosition then
      refuse (.mismatch (.unordered .lt stop.kindName start.kindName))
    else refuse (.mismatch (.notAPosition start.kindName))

/-- The empty range at the start of a text, for the class of a kind of position. -/
def zeroRange (v : Value) (m : Type → Type := Except Fault) [Monad m] [Reporting m] :
    m PositionRange :=
  match v with
  | cls (.kind k) => PositionRange.zero k m
  | cls c => refuse (.mismatch (.noOrigin c.name))
  | _ => refuse (.mismatch .notAClass)

/-- The range from the start of the text to a value. -/
def rangeUpTo (v : Value) (m : Type → Type := Except Fault) [Monad m] [Reporting m] :
    m PositionRange :=
  match v with
  | position p => PositionRange.upTo p m
  | v => refuse (.missingClassAttribute v.kindName "ZERO")

/-! ## Objects for editors -/

/-- The position of an object with the row and the column in UTF-16 code units. -/
def editorPosition (v : Value) : Except Fault (RowColumn .utf16) := do
  let line ← v.entry "line"
  let character ← v.entry "character"
  rowColumnOf .utf16 line character

/-- The range of an object with the positions of both ends. -/
def editorRange (v : Value) (m : Type → Type := Except Fault) [Monad m] [Reporting m] :
    m (Range (RowColumn .utf16)) := do
  let start ← ofExcept (← ofExcept (v.entry "start")).editorPosition
  let stop ← ofExcept (← ofExcept (v.entry "end")).editorPosition
  Range.of start stop m

/-- The object for a position. -/
def ofEditorPosition (p : RowColumn .utf16) : Value :=
  object [("line", ofCoordinate p.row), ("character", ofCoordinate p.column)]

/-- The object for a range. -/
def ofEditorRange (r : Range (RowColumn .utf16)) : Value :=
  object [("start", ofEditorPosition r.start), ("end", ofEditorPosition r.stop)]

end Caret.Value
