/-
  Scripts: runs of requests, each on given data and on what earlier requests answered.

  * `Expr`: given data, the value of an earlier request, or something built from such;
  * `Unary`, `Binary`: the operations on one and on two values;
  * `Step`: a request.
-/
import Caret.Value

namespace Caret

/-! ## Expressions -/

/-- The parts of a composite position. -/
inductive CompositePart
  /-- The byte index. -/
  | index
  /-- Rows and columns of bytes. -/
  | utf8
  /-- Rows and columns of UTF-16 code units. -/
  | utf16
  /-- The choice of checking. -/
  | checked
  deriving DecidableEq

/-- What can be built from values. Numbers that are not given are zero. -/
inductive Builder
  /-- A byte index from its number. -/
  | byteIndex
  /-- A position from its row and its column. -/
  | rowColumn (u : ColumnUnit)
  /-- Rows and columns without a unit, which nothing can be. -/
  | noUnit
  /-- A composite from its index, its row, both columns and the choice of checking. -/
  | numbers
  /-- A composite from some of its parts; the others are those at the start of a text. -/
  | parts (given : List CompositePart)
  /-- A range from its ends. -/
  | range
  /-- A record of settings. -/
  | config
  /-- An error object from its message and its hint. -/
  | report (k : ReportKind)

/-- An argument of a request. -/
inductive Expr
  /-- Given data. -/
  | data (d : Datum)
  /-- A list of arguments. -/
  | list (items : List Expr)
  /-- The value that a request answered, by its number from zero. -/
  | ref (step : Int)
  /-- Something built from arguments. -/
  | build (b : Builder) (args : List Expr)

/-! ## Requests -/

/-- Operations on one value. -/
inductive Unary
  /-- The value itself. -/
  | value
  /-- The short form. -/
  | display
  /-- The full form. -/
  | written
  /-- The number that it stands for. -/
  | toInt
  /-- The greatest of its items. -/
  | greatest
  /-- The least of its items. -/
  | least
  /-- Its items in ascending order. -/
  | sort
  /-- The number of its distinct items. -/
  | distinct
  /-- Whether it is a position. -/
  | isPosition
  /-- The origin of a kind of position. -/
  | zero
  /-- The byte index with it as its number. -/
  | byteIndex
  /-- The position of an object made by an editor. -/
  | editorPosition
  /-- The range of an object made by an editor. -/
  | editorRange
  /-- The object by which editors speak of it. -/
  | toEditor
  /-- The empty range at the start of a text. -/
  | zeroRange
  /-- The empty range at a position. -/
  | emptyRange
  /-- The range from the start of the text to a position. -/
  | rangeUpTo
  /-- Row and column as a pair, where they are all there is. -/
  | asTuple
  /-- Row and column as a pair, in bytes if there is a choice. -/
  | gnuRowColumn
  /-- Refuses a composite whose measures disagree. -/
  | checkConsistency
  /-- How far the end of a range is behind its start. -/
  | len
  /-- Whether a range is empty. -/
  | isEmpty
  /-- The empty range at the start of a range. -/
  | startPoint
  /-- The empty range at the end of a range. -/
  | endPoint
  deriving DecidableEq

/-- Operations on two values. -/
inductive Binary
  /-- Their sum. -/
  | sum
  /-- A comparison. -/
  | test (c : Comparison)
  /-- The attribute of the first that the second names. -/
  | get
  /-- The second as a field that the first names. -/
  | field
  /-- Refuses values of two kinds. -/
  | requireSameKind
  /-- The second position seen from the first. -/
  | add
  /-- How far the first position is behind the second. -/
  | saturatingSub
  /-- Refuses composites that the measures order differently. -/
  | checkComparable
  /-- Whether a position is in a range. -/
  | contains
  /-- Whether a position is in a range or at its end. -/
  | containsInclusive
  /-- Whether all of the second range is in the first. -/
  | covers
  /-- Whether some position is in both ranges. -/
  | overlaps
  /-- The common part of two ranges. -/
  | intersect
  /-- The smallest range that covers both ranges. -/
  | cover
  /-- The smallest range that covers a range and a position. -/
  | coverPosition
  /-- Whether an error can be caught under a name. -/
  | isError
  deriving DecidableEq

/-- A request. -/
inductive Step
  /-- An operation on one value. -/
  | unary (op : Unary) (x : Expr)
  /-- An operation on two values. -/
  | binary (op : Binary) (x y : Expr)
  /-- The largest number that a position holds. -/
  | limit
  /-- The sum of two numbers as a field. -/
  | fieldSum (name x y : Expr)
  /-- A new value for an attribute. -/
  | assign (x name y : Expr)
  /-- Raises an error object. -/
  | raise (x : Expr)
  /-- A composite, watched or not. -/
  | withChecked (x checked : Expr)
  /-- The end of a text; it is not watched unless a choice of checking is given. -/
  | measure (text : Expr) (checked : Option Expr)
  /-- The texts that belong to a seed. -/
  | texts (seed count : Expr) (maxAtoms : Option Expr)
  /-- The document that belongs to a seed. -/
  | document (seed : Expr) (lines : Option Expr)
  /-- Sets a variable. -/
  | setVariable (name value : Expr)
  /-- Removes a variable. -/
  | unsetVariable (name : Expr)
  /-- The settings of the environment as it is. -/
  | loadSettings
  /-- The settings of the session. -/
  | settings
  /-- Forgets the settings of the session. -/
  | resetSettings
  /-- Sets up the log for given settings, or else for those of the session. -/
  | setUpLog (config : Option Expr)
  /-- The logger of a part. -/
  | logger (name : Expr)
  /-- Logs a message. -/
  | log (name severity message : Expr)
  /-- The lines that were logged since the last time. -/
  | drainLog

end Caret
