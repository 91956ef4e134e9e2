/-
  Reading values where plain data of some kind is asked for.

  * `Value.asText`, `Value.asInteger`: a text, an integer;
  * `Value.measurable`: a text to be measured;
  * `Value.asLevel`, `Value.asSeverity`: a level of logging, and a degree of severity;
  * `Value.asName`: the name of an attribute;
  * `Value.ofSettings`: settings as a record.
-/
import Caret.Settings
import Caret.Value.Parts
import Caret.Value.Written

namespace Caret.Value

/-- A value as a text. -/
def asText : Value → Except Fault Text
  | text t => .ok t
  | v => .error (.mismatch (.notAText v.kindName))

/-- A value as an integer. -/
def asInteger (v : Value) : Except Fault Int :=
  match v.integer? with
  | some n => .ok n
  | none => .error (.mismatch (.notAnInteger v.kindName))

/-- A value as a text to be measured. Of anything else it shows by an operation that is missing. -/
def measurable : Value → Except Fault Text
  | text t => .ok t
  | v@(list _ _) | v@(tuple _) => .error (v.lacks "rfind")
  | cls .text => .error (.mismatch (.nothingGiven "count"))
  | v => .error (v.lacks "count")

/-- A level of logging, given as an integer, as a truth value or by name. Anything else is compared
    with its short form before it is refused. -/
def asLevel (o : Objects) : Value → Except Fault Level
  | int n => .ok (.number n)
  | bool b => .ok (.flag b)
  | text t =>
    match Severity.levelOf? t with
    | some n => .ok (.number n)
    | none => .error (.badValue (.unknownLevel t))
  | v => do
    let _ ← v.display o
    throw (.mismatch (.level (← v.written o)))

/-- The degree of severity that a value names, by any name of its level. -/
def asSeverity (v : Value) : Except Fault Severity := do
  let name ← v.asText
  match (Severity.levelOf? name).bind Severity.ofNumber? with
  | some s => return s
  | none => throw (.badValue (.unknownLevel name))

/-- A value as the name of an attribute. -/
def asName : Value → Except Fault Text
  | text name => .ok name
  | v => .error (.mismatch (.attributeName v.kindName))

/-- The record with given settings as its fields. -/
def ofSettings (s : Settings) : Value :=
  config none (bool s.checked) (text s.level.name)

end Caret.Value
