/-
  Values of requests: what their arguments and answers are made of.

  * `ValueClass`: the classes of values, as values;
  * `Datum`: plain data, which is all that a request can give outright;
  * `Value`: plain data, positions and ranges, and the objects around them;
  * `Datum.toValue`: plain data as a value;
  * `Value.isSelf`: whether two values are one, and not only look the same;
  * `Value.kindName`: the name of the kind of a value in messages;
  * `Value.number?`, `Value.isTruthy`: the number that a value stands for, and whether it counts as
    yes.
-/
import Caret.Log
import Caret.Number
import Caret.Position.Any

namespace Caret

/-- A class of values, as a value. -/
inductive ValueClass
  /-- The positions of a kind. -/
  | kind (k : Kind)
  /-- Rows and columns without a unit. -/
  | rowColumn
  /-- Ranges. -/
  | range
  /-- Ranges of positions of a kind that is given by name. -/
  | rangeOf (positions : Text)
  /-- Positions of all kinds. -/
  | position
  /-- Integers. -/
  | int
  /-- Texts. -/
  | text
  deriving DecidableEq

/-- The name of a class. -/
def ValueClass.name : ValueClass → Text
  | kind k => k.name
  | rowColumn => "RowColumnPosition"
  | range | rangeOf _ => Range.kindName
  | position => "TextPosition"
  | int => "int"
  | text => "str"

/-- The name of the module that a class belongs to. -/
def ValueClass.home : ValueClass → Text
  | kind .byteIndex => "textpos.byte_index"
  | kind (.rowColumn _) | rowColumn => "textpos.row_column"
  | kind .composite => "textpos.composite"
  | range | rangeOf _ => "textpos.ranges"
  | position => "textpos.position"
  | int | text => "builtins"

/-- The full form of a class, with the module in front unless it is the common one. -/
def ValueClass.written (c : ValueClass) : Text :=
  match c with
  | rangeOf positions => Text.join [c.home, ".", c.name, "[ForwardRef(", positions.quoted, ")]"]
  | int | text => Text.join ["<class '", c.name, "'>"]
  | _ => Text.join ["<class '", c.home, ".", c.name, "'>"]

/-- The name of the kind of value that a class is. -/
def ValueClass.kindName : ValueClass → Text
  | rangeOf _ => "_GenericAlias"
  | position => "_ProtocolMeta"
  | _ => "type"

/-- Plain data. Positions, ranges and errors are not among it: they have to be built. -/
inductive Datum
  /-- Nothing. -/
  | null
  /-- A truth value. -/
  | bool (b : Bool)
  /-- An integer. -/
  | int (n : Int)
  /-- A number with a fraction. -/
  | float (x : Binary64)
  /-- A text. -/
  | text (t : Text)
  /-- A list. -/
  | list (items : List Datum)
  /-- An object with keys, in the order in which they were given. -/
  | object (entries : List (Text × Datum))
  /-- A class. -/
  | cls (c : ValueClass)

instance : Inhabited Datum := ⟨.null⟩

/-- A value. Lists, records, and numbers with a fraction can carry a mark, which tells them from
    others that look the same: two values with one mark are one. -/
inductive Value
  /-- Nothing. -/
  | null
  /-- A truth value. -/
  | bool (b : Bool)
  /-- An integer. -/
  | int (n : Int)
  /-- A number with a fraction. -/
  | float (mark : Option Nat) (x : Binary64)
  /-- A text. -/
  | text (t : Text)
  /-- A list. -/
  | list (mark : Option Nat) (items : List Value)
  /-- A tuple. -/
  | tuple (items : List Value)
  /-- An object with keys, in the order in which they were given. -/
  | object (entries : List (Text × Value))
  /-- A class. -/
  | cls (c : ValueClass)
  /-- A position. -/
  | position (p : Position)
  /-- A range. -/
  | range (r : PositionRange)
  /-- A record of settings, which may make no sense. -/
  | config (mark : Option Nat) (checked level : Value)
  /-- An error object. What it says can change, and is not part of the value. -/
  | report (mark : Nat) (kind : ReportKind)
  /-- The logger of a given name, whose level can change. -/
  | logger (name : Text)

instance : Inhabited Value := ⟨.null⟩

namespace Datum

mutual

/-- Plain data as a value. -/
def toValue : Datum → Value
  | null => .null
  | bool b => .bool b
  | int n => .int n
  | float x => .float none x
  | text t => .text t
  | list items => .list none (toValues items)
  | object entries => .object (toEntries entries)
  | cls c => .cls c

/-- Plain data as values, item by item. -/
def toValues : List Datum → List Value
  | [] => []
  | d :: rest => d.toValue :: toValues rest

/-- Plain data as values, under the same keys. -/
def toEntries : List (Text × Datum) → List (Text × Value)
  | [] => []
  | (key, d) :: rest => (key, d.toValue) :: toEntries rest

end

end Datum

namespace Value

/-- The name of the kind of a value. -/
def kindName : Value → Text
  | null => "NoneType"
  | bool _ => "bool"
  | int _ => "int"
  | float _ _ => "float"
  | text _ => "str"
  | list _ _ => "list"
  | tuple _ => "tuple"
  | object _ => "dict"
  | cls c => c.kindName
  | position p => p.kindName
  | range _ => Range.kindName
  | config _ _ _ => "Config"
  | report _ kind => kind.name
  | logger name => Logger.kindName name

/-- The mark of a value, if it has one. -/
def mark? : Value → Option Nat
  | float mark _ | list mark _ | config mark _ _ => mark
  | report mark _ => some mark
  | _ => none

/-- A value with a mark, if it can carry one and has none. -/
def marked (n : Nat) : Value → Value
  | float none x => float (some n) x
  | list none items => list (some n) items
  | config none checked level => config (some n) checked level
  | v => v

/-- Whether two values are one. Values without a mark are never taken for one. -/
def isSelf (a b : Value) : Bool :=
  match a.mark?, b.mark? with
  | some i, some j => i == j
  | _, _ => false

/-- The integer that a value stands for: truth values are one and zero. -/
def integer? : Value → Option Int
  | int n => some n
  | bool b => some b.toInt
  | _ => none

/-- The number that a value stands for in comparisons and sums. -/
def number? : Value → Option Number
  | float _ x => some (.float x)
  | v => v.integer?.map .int

/-- A number as a value. -/
def ofNumber : Number → Value
  | .int n => int n
  | .float x => float none x

/-- Whether a value counts as yes: anything that is not nothing, zero or empty. -/
def isTruthy : Value → Bool
  | null => false
  | bool b => b
  | int n => n != 0
  | float _ x => Number.isTruthy (.float x)
  | text t => !t.isEmpty
  | list _ items | tuple items => !items.isEmpty
  | object entries => !entries.isEmpty
  | _ => true

end Value

end Caret
