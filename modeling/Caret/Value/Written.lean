/-
  Writing values: in full, so that a reader can tell them apart, and in short.

  What stands inside of itself, as an error object can, is not written again there.

  * `Value.written`: the full form, with texts in quotation marks and fields by name;
  * `Value.display`: the short form, which texts, positions, ranges and errors have.
-/
import Caret.Value.Objects

namespace Caret.Value

/-! ## In full -/

/-- A way to write error objects inside of what has given marks. -/
abbrev ReportWriter := (inside : List Nat) → (mark : Nat) → ReportKind → Except Fault Text

/-- Whether a value is one of those with given marks. -/
def isInside (inside : List Nat) (mark : Option Nat) : Bool :=
  match mark with
  | some n => inside.contains n
  | none => false

/-- The given marks with that of a value, if it has one. -/
def within (inside : List Nat) (mark : Option Nat) : List Nat :=
  mark.toList ++ inside

mutual

/-- The full form of a value inside of what has given marks; of this nothing is written again. -/
def writtenWithin (log : Log) (report : ReportWriter) (inside : List Nat) :
    Value → Except Fault Text
  | null => .ok "None"
  | bool true => .ok "True"
  | bool false => .ok "False"
  | int n => ofWritten (Text.signed? n)
  | float _ x => .ok x.display
  | text t => .ok t.quoted
  | list mark items =>
    if isInside inside mark then .ok "[...]"
    else do
      let parts ← writtenItems log report (within inside mark) items
      return Text.join ["[", Text.joinWith ", " parts, "]"]
  | tuple [item] => do
    return Text.join ["(", ← writtenWithin log report inside item, ",)"]
  | tuple items => do
    return Text.join ["(", Text.joinWith ", " (← writtenItems log report inside items), ")"]
  | object entries => do
    let parts ← writtenEntries log report inside entries
    return Text.join ["\x7b", Text.joinWith ", " parts, "\x7d"]
  | cls c => .ok c.written
  | position p => .ok p.written
  | range r => .ok r.written
  | config mark checked level =>
    if isInside inside mark then .ok "..."
    else do
      let checked ← writtenWithin log report (within inside mark) checked
      let level ← writtenWithin log report (within inside mark) level
      return Text.join ["Config(checked=", checked, ", log_level=", level, ")"]
  | .report mark kind => report inside mark kind
  | logger name => ofWritten (log.logger name).written?

/-- The full forms of items. -/
def writtenItems (log : Log) (report : ReportWriter) (inside : List Nat) :
    List Value → Except Fault (List Text)
  | [] => return []
  | item :: rest => do
    let item ← writtenWithin log report inside item
    let rest ← writtenItems log report inside rest
    return item :: rest

/-- The keys in quotation marks, each with the full form of its value. -/
def writtenEntries (log : Log) (report : ReportWriter) (inside : List Nat) :
    List (Text × Value) → Except Fault (List Text)
  | [] => return []
  | (key, item) :: rest => do
    let item ← writtenWithin log report inside item
    let rest ← writtenEntries log report inside rest
    return Text.join [key.quoted, ": ", item] :: rest

end

/-- The full form of an error object, where at most `depth` others are entered from it. No more can
    be, if that is the number of all error objects. -/
def writtenReport (o : Objects) : (depth : Nat) → ReportWriter
  | 0, _, _, _ => .ok "..."
  | depth + 1, inside, mark, kind =>
    if inside.contains mark then .ok "..."
    else do
      let c := o.contents mark
      let message ← writtenWithin o.log (writtenReport o depth) (mark :: inside) c.message
      let hint ← writtenWithin o.log (writtenReport o depth) (mark :: inside) c.hint
      return Text.join [kind.name, "(message=", message, ", hint=", hint, ")"]

/-- The full form of a value, unless an integer in it has too many digits. -/
def written (o : Objects) (v : Value) : Except Fault Text :=
  writtenWithin o.log (writtenReport o o.reports.length) [] v

/-! ## In short -/

/-- The short form of a value, given that of error objects by their marks. -/
def displayWith (o : Objects) (report : Nat → Except Fault Text) : Value → Except Fault Text
  | text t => .ok t
  | position p => .ok p.display
  | range r => .ok r.display
  | .report mark _ => report mark
  | v => v.written o

/-- The short form of an error object: its message, with its hint behind it if that counts as yes;
    without one the message has to be a text. Messages and hints that are error objects themselves
    are followed at most `depth` times. -/
def displayReport (o : Objects) : (depth : Nat) → (mark : Nat) → Except Fault Text
  | 0, _ => .error (.endless .display)
  | depth + 1, mark => do
    let c := o.contents mark
    if c.hint.isTruthy then
      let message ← displayWith o (displayReport o depth) c.message
      let hint ← displayWith o (displayReport o depth) c.hint
      return Report.withHint message hint
    else match c.message with
      | text t => return t
      | v => throw (.mismatch (.undisplayed v.kindName))

/-- The short form of a value. Of an error object that is its own message or hint, there is none. -/
def display (o : Objects) (v : Value) : Except Fault Text :=
  displayWith o (displayReport o o.reports.length) v

end Caret.Value
