/-
  What can go wrong, by cause, and the wording of each cause.

  * `Violation`: the ways in which the measures of a composite position, or of two of them, can
    disagree;
  * `Report`: the kind of an error with its wording;
  * `Mismatch`: an operation met a value of a kind that it has no meaning for;
  * `BadValue`: a value of the right kind that is none of those allowed;
  * `Fault`: all causes for which a request is refused;
  * `Fault.report?`, `Fault.message`: the report of a fault, and its wording;
  * `Fault.showing`: what comes of a fault if its wording needs an integer that cannot be written;
  * `Reporting`: computations that can be refused, and that report disagreements where they find
    them;
  * `refuse`, `violated`: how a computation is refused, for a disagreement and for anything else.
-/
import Caret.Comparison
import Caret.Position.Basic
import Caret.Text.Encoding
import Caret.Text.Quoted

namespace Caret

/-! ## Disagreeing measures -/

/-- Why measures that should describe one place, or the order of two places, do not. -/
inductive Violation
  /-- The two row and column measures are on different rows. -/
  | rowsDiffer (row8 row16 : Coordinate)
  /-- No text has so many bytes for so many UTF-16 code units. -/
  | columnRatio (column8 column16 : Coordinate)
  /-- The index is too small for the line terminators and the last line. -/
  | indexTooSmall (index : ByteIndex) (row column8 : Coordinate)
  /-- On the first line the index is not the column. -/
  | indexOffFirstLine (index : ByteIndex) (column8 : Coordinate)
  /-- The measures order the two positions differently. -/
  | ordersDiffer (a b : Composite)

namespace Violation

/-- What disagrees. -/
def message : Violation → Text
  | rowsDiffer row8 row16 =>
    Text.join ["UTF-8 row ", row8.decimal, " differs from UTF-16 row ", row16.decimal]
  | columnRatio column8 column16 =>
    Text.join ["UTF-8 column ", column8.decimal, " cannot encode UTF-16 column ", column16.decimal]
  | indexTooSmall index row column8 =>
    Text.join ["byte index ", index.display, " is before UTF-8 position ", row.decimal, ":",
      column8.decimal, " (0-based)"]
  | indexOffFirstLine index column8 =>
    Text.join ["byte index ", index.display, " differs from UTF-8 column ", column8.decimal,
      " on the first line"]
  | ordersDiffer a b =>
    Text.join ["measures disagree on the order of ", a.written, " and ", b.written]

/-- The rule that was broken. -/
def hint : Violation → Text
  | rowsDiffer .. => "both row/column measures must count the same line terminators"
  | columnRatio .. => "each UTF-16 code unit encodes to 1..3 UTF-8 bytes"
  | indexTooSmall .. => "the byte index must count every line terminator and the last line"
  | indexOffFirstLine .. => "before the first line terminator the byte index is the column"
  | ordersDiffer .. => "compare positions taken from the same document"

end Violation

/-! ## Reports -/

/-- The kinds of error that are reported with a hint. -/
inductive ReportKind
  /-- Any of them. -/
  | any
  /-- A number that no position holds. -/
  | invalidPosition
  /-- A number beyond the limit. -/
  | overflow
  /-- Measures that disagree. -/
  | violation
  /-- A range that ends before it starts. -/
  | invalidRange
  deriving DecidableEq

namespace ReportKind

/-- The name of the kind. -/
def name : ReportKind → Text
  | any => "TextPosError"
  | invalidPosition => "InvalidPosition"
  | overflow => "PositionOverflow"
  | violation => "ConsistencyViolation"
  | invalidRange => "InvalidRange"

/-- All kinds. -/
def all : List ReportKind :=
  [any, invalidPosition, overflow, violation, invalidRange]

/-- The kind of a given name. -/
def ofName? (name : Text) : Option ReportKind :=
  all.find? (·.name = name)

/-- The names under which an error of this kind can be caught: its own, the common one of the
    library, and those of the general kinds of error that it refines. -/
def ancestors (k : ReportKind) : List Text :=
  k.name :: any.name :: "Exception" ::
    match k with
    | any => []
    | overflow => ["OverflowError"]
    | invalidPosition | violation | invalidRange => ["ValueError"]

end ReportKind

/-- The kind of an error with its wording. -/
structure Report where
  /-- Which kind of error it is. -/
  kind : ReportKind
  /-- What is wrong. -/
  message : Text
  /-- What to do about it, if there is something to say. -/
  hint : Option Text
  deriving DecidableEq

/-- A message with a hint on a line of its own. -/
def Report.withHint (message hint : Text) : Text :=
  Text.join [message, [CodePoint.newline], "hint: ", hint]

/-- The message, with the hint behind it unless there is none or it is empty. -/
def Report.display (r : Report) : Text :=
  match r.hint with
  | none | some [] => r.message
  | some hint => withHint r.message hint

/-! ## Values out of place -/

/-- An operation met a kind of value that it has no meaning for. Kinds appear by name. -/
inductive Mismatch
  /-- Arithmetic on two kinds of position. -/
  | combine (left right : Text)
  /-- A part of a composite position of the wrong kind. -/
  | part (name expected got : Text)
  /-- A choice of checking that is none. -/
  | flag (got : Text)
  /-- Rows and columns without a unit for the columns. -/
  | noUnit
  /-- A range between two kinds of position. -/
  | rangeEnds (start stop : Text)
  /-- A range between things that are no positions. -/
  | notAPosition (got : Text)
  /-- A class of values without a starting point. -/
  | noOrigin (cls : Text)
  /-- A class was asked for. -/
  | notAClass
  /-- An order between things that have none. -/
  | unordered (c : Comparison) (left right : Text)
  /-- A sum of things that cannot be added. -/
  | unaddable (left right : Text)
  /-- A sequence followed by something else. -/
  | unjoinable (left right : Text)
  /-- Editors take rows and columns in UTF-16 only. -/
  | notUtf16 (got : Text)
  /-- Only some kinds stand for a single number. -/
  | notNumeric (got : Text)
  /-- A field looked up in a sequence. -/
  | sequenceIndex (kind : Text)
  /-- A field looked up in a text. -/
  | textIndex
  /-- A field looked up in something without fields. -/
  | notIndexable (got : Text)
  /-- A field looked up in a class. -/
  | classIndex (cls : Text)
  /-- A kind of item given for a class that has none. -/
  | notGeneric (written : Text)
  /-- An operation of its values asked of a class; it lacks what it needs last. -/
  | unbound (owner operation lacking : Text)
  /-- An operation of texts asked of their class. -/
  | nothingGiven (operation : Text)
  /-- Distinct things are counted by value, which errors and lists have none for. -/
  | unhashable (got : Text)
  /-- A level of logging is a name or a number. -/
  | level (written : Text)
  /-- A text was asked for. -/
  | notAText (got : Text)
  /-- An attribute is looked up by a text. -/
  | attributeName (got : Text)
  /-- An integer was asked for. -/
  | notAnInteger (got : Text)
  /-- Several items were asked for. -/
  | notItems (got : Text)
  /-- Only errors are raised. -/
  | notAnError
  /-- The message of an error is displayed only if it is a text. -/
  | undisplayed (got : Text)
  /-- Nothing but fields can be assigned. -/
  | notAField

/-- What is wrong. -/
def Mismatch.message : Mismatch → Text
  | combine left right => Text.join ["cannot combine ", left, " with ", right]
  | part name expected got => Text.join [name, " must be ", expected, ", got ", got]
  | flag got => Text.join ["checked must be a bool or None, got ", got]
  | noUnit => "RowColumnPosition is abstract, use Utf8Position or Utf16Position"
  | rangeEnds start stop =>
    Text.join ["range positions must share a type, got ", start, " and ", stop]
  | notAPosition got => Text.join [got, " is not a text position"]
  | noOrigin cls => Text.join [cls, " has no ZERO position"]
  | notAClass => "isinstance() arg 2 must be a type, a tuple of types, or a union"
  | unordered c left right =>
    Text.join ["'", c.symbol, "' not supported between instances of '", left, "' and '", right, "'"]
  | unaddable left right =>
    Text.join ["unsupported operand type(s) for +: '", left, "' and '", right, "'"]
  | unjoinable left right =>
    Text.join ["can only concatenate ", left, " (not \"", right, "\") to ", left]
  | notUtf16 got => Text.join ["LSP ranges use UTF-16 positions, got ", got]
  | notNumeric got =>
    Text.join ["int() argument must be a string, a bytes-like object or a real number, not '", got,
      "'"]
  | sequenceIndex kind => Text.join [kind, " indices must be integers or slices, not str"]
  | textIndex => "string indices must be integers, not 'str'"
  | notIndexable got => Text.join ["'", got, "' object is not subscriptable"]
  | classIndex cls => Text.join ["type '", cls, "' is not subscriptable"]
  | notGeneric written => Text.join [written, " is not a generic class"]
  | unbound owner operation lacking =>
    Text.join [owner, ".", operation, "() missing 1 required positional argument: '", lacking, "'"]
  | nothingGiven operation => Text.join [operation, "() takes at least 1 argument (0 given)"]
  | unhashable got => Text.join ["unhashable type: '", got, "'"]
  | level written => Text.join ["Level not an integer or a valid string: ", written]
  | notAText got => Text.join ["str expected, not ", got]
  | attributeName got => Text.join ["attribute name must be string, not '", got, "'"]
  | notAnInteger got => Text.join ["'", got, "' object cannot be interpreted as an integer"]
  | notItems got => Text.join ["'", got, "' object is not iterable"]
  | notAnError => "exceptions must derive from BaseException"
  | undisplayed got => Text.join ["__str__ returned non-string (type ", got, ")"]
  | notAField => "super(type, obj): obj must be an instance or subtype of type"

/-- A value of the right kind that is none of those allowed. -/
inductive BadValue
  /-- A setting that is neither yes nor no. -/
  | notAFlag (setting got : Text)
  /-- A setting that names no level of logging. -/
  | notALevel (setting got : Text)
  /-- A level of logging that does not exist. -/
  | unknownLevel (got : Text)
  /-- A draw from less than one possibility. -/
  | emptyDraw (bound : Int)
  /-- A draw from a number of possibilities with a fraction. -/
  | fractionalDraw
  /-- The greatest or least of no items. -/
  | noItems (wanted : Text)
  /-- A text that spells no integer. -/
  | notAnInteger (got : Text)
  /-- A text that spells an integer with more digits than are read. -/
  | tooManyDigits (digits : Nat)
  /-- An integer with more digits than are written. -/
  | unwritable
  /-- The integer of what is no number. -/
  | notANumber
  /-- A variable holds no zero byte. -/
  | zeroByte
  /-- The name of a variable holds no equality sign. -/
  | variableName

/-- What is wrong. -/
def BadValue.message : BadValue → Text
  | notAFlag setting got =>
    Text.join [setting, " must be a boolean (1/0, true/false, yes/no, on/off), got: ", got]
  | notALevel setting got =>
    Text.join [setting,
      " must be one of ['CRITICAL', 'DEBUG', 'ERROR', 'INFO', 'WARNING'], got: ", got]
  | unknownLevel got => Text.join ["Unknown level: ", got.quoted]
  | emptyDraw bound =>
    Text.join ["empty range for randrange() (0, ", Text.signed bound, ", ", Text.signed bound, ")"]
  | fractionalDraw => "non-integer stop for randrange()"
  | noItems wanted => Text.join [wanted, "() arg is an empty sequence"]
  | notAnInteger got =>
    Text.join ["invalid literal for int() with base 10: ", got.quoted.take 200]
  | tooManyDigits digits =>
    Text.join ["Exceeds the limit (", Text.decimal Text.digitLimit,
      " digits) for integer string conversion: value has ", Text.decimal digits,
      " digits; use sys.set_int_max_str_digits() to increase the limit"]
  | unwritable =>
    Text.join ["Exceeds the limit (", Text.decimal Text.digitLimit,
      " digits) for integer string conversion; ",
      "use sys.set_int_max_str_digits() to increase the limit"]
  | notANumber => "cannot convert float NaN to integer"
  | zeroByte => "embedded null byte"
  | variableName => "illegal environment variable name"

/-- A number that another sort of number has no place for. -/
inductive Unrepresentable
  /-- An integer larger than all numbers with a fraction. -/
  | largeInteger
  /-- The integer of an infinity. -/
  | infinity
  deriving DecidableEq

/-- What is wrong. -/
def Unrepresentable.message : Unrepresentable → Text
  | largeInteger => "int too large to convert to float"
  | infinity => "cannot convert float infinity to integer"

/-- What does not end for values that hold themselves. -/
inductive Endless
  /-- A comparison. -/
  | comparison
  /-- A short form. -/
  | display
  /-- An answer. -/
  | answer
  deriving DecidableEq

/-- What is wrong. -/
def Endless.message : Endless → Text
  | comparison => "maximum recursion depth exceeded in comparison"
  | display => "maximum recursion depth exceeded while getting the str of an object"
  | answer => "maximum recursion depth exceeded"

/-! ## All faults -/

/-- Why a request was refused. -/
inductive Fault
  /-- A field of a position was given something else than an integer. -/
  | notANumber (field got : Text)
  /-- A field of a position was given a negative number. -/
  | negative (field : Text) (value : Int)
  /-- A field of a position was given a number beyond the limit. -/
  | tooLarge (field : Text) (value : Int)
  /-- The sum of two fields, as they are written, is beyond the limit. -/
  | sumTooLarge (field a b : Text)
  /-- Measures that are watched disagree. -/
  | violation (v : Violation)
  /-- A range would end before it starts; its ends as displayed. -/
  | inverted (start stop : Text)
  /-- A value of the wrong kind. -/
  | mismatch (m : Mismatch)
  /-- A value that is not allowed. -/
  | badValue (b : BadValue)
  /-- A number of the wrong sort. -/
  | unrepresentable (u : Unrepresentable)
  /-- Something that would not end. -/
  | endless (e : Endless)
  /-- An object lacks a key. -/
  | missingKey (key : Text)
  /-- Values of the kind lack an attribute. -/
  | missingAttribute (kind name : Text)
  /-- The class lacks an attribute. -/
  | missingClassAttribute (cls name : Text)
  /-- A text has surrogates. -/
  | unencodable (r : SurrogateRun)
  /-- Fields do not change. -/
  | frozen (field : Text)
  /-- A variable has a name. -/
  | unnamed
  /-- The step referred to has no value. -/
  | noResult (step : Int)

namespace Fault

/-- The hint that goes with every number beyond the limit. -/
def limitHint : Text := "positions are limited to unsigned 32-bit fields"

/-- The report of a fault, for those faults that are about positions and ranges as such. -/
def report? : Fault → Option Report
  | notANumber field got =>
    some ⟨.invalidPosition, Text.join [field, " must be an int, got ", got], none⟩
  | negative field value =>
    some ⟨.invalidPosition, Text.join [field, " cannot be negative, got ", Text.signed value], none⟩
  | tooLarge field value =>
    some ⟨.overflow, Text.join [field, " ", Text.signed value, " exceeds ",
      Text.decimal Coordinate.limit], some limitHint⟩
  | sumTooLarge field a b =>
    some ⟨.overflow, Text.join [field, " overflow: ", a, " + ", b, " exceeds ",
      Text.decimal Coordinate.limit], some limitHint⟩
  | violation v => some ⟨.violation, v.message, some v.hint⟩
  | inverted start stop =>
    some ⟨.invalidRange, Text.join ["range start ", start, " is after end ", stop],
      some "swap the positions, or use cover() to join them"⟩
  | _ => none

/-- The wording of a fault, with its hint if it has one. -/
def message : Fault → Text
  | mismatch m => m.message
  | badValue b => b.message
  | unrepresentable u => u.message
  | endless e => e.message
  | missingKey key => key.quoted
  | missingAttribute kind name => Text.join ["'", kind, "' object has no attribute '", name, "'"]
  | missingClassAttribute cls name =>
    Text.join ["type object '", cls, "' has no attribute '", name, "'"]
  | unencodable r => r.message
  | frozen field => Text.join ["cannot assign to field ", field.quoted]
  | unnamed => "[Errno 22] Invalid argument"
  | noResult step => Text.join ["step ", Text.signed step, " failed"]
  | f => (f.report?.map Report.display).getD []

/-- A fault whose wording shows the integer `n`. If this has too many digits to be written, that is
    what is wrong instead. -/
def showing (n : Int) (f : Fault) : Fault :=
  match Text.signed? n with
  | some _ => f
  | none => badValue .unwritable

end Fault

/-- What could be written, or the refusal of an integer in it that has too many digits. -/
def ofWritten : Option Text → Except Fault Text
  | some t => .ok t
  | none => .error (.badValue .unwritable)

/-! ## Computations -/

/-- Computations that can be refused, and that can report a disagreement of measures. Operations
    take them as their last parameter; nobody listens to one for which it is left out. -/
class Reporting (m : Type → Type) where
  /-- A computation in which no measures are watched. -/
  ofExcept {α : Type} : Except Fault α → m α
  /-- Reports a disagreement, and goes on. -/
  report : Violation → m Unit

export Reporting (ofExcept)

/-- Where nobody listens, all that counts is what a computation comes to. -/
instance : Reporting (Except Fault) where
  ofExcept x := x
  report _ := .ok ()

section

variable {m : Type → Type} [Monad m] [Reporting m] {α : Type}

/-- Is refused for a fault. -/
def refuse (f : Fault) : m α :=
  ofExcept (.error f)

/-- Reports a disagreement of measures, and then is refused for it. -/
def violated (v : Violation) : m α := do
  Reporting.report v
  refuse (.violation v)

@[simp]
theorem ofExcept_eq (x : Except Fault α) : (ofExcept x : Except Fault α) = x := rfl

@[simp]
theorem refuse_eq (f : Fault) : (refuse f : Except Fault α) = .error f := rfl

@[simp]
theorem violated_eq (v : Violation) : (violated v : Except Fault α) = .error (.violation v) := rfl

end

end Caret
