/-
  How severe a log record is, and the levels that separate what is shown from what is not.

  * `Severity`: the five degrees, with `name` and `number`;
  * `Severity.levelOf?`: the number of a level by name;
  * `Level`: a level, given as a number or as a truth value;
  * `Level.value`, `Level.name?`: what it amounts to, and how it is called.
-/
import Caret.Text

namespace Caret

/-- The degrees of severity of a log record. -/
inductive Severity
  /-- Of interest to those who look for a cause. -/
  | debug
  /-- As expected. -/
  | info
  /-- Unexpected. -/
  | warning
  /-- Something failed. -/
  | error
  /-- Nothing goes on from here. -/
  | critical
  deriving DecidableEq

namespace Severity

/-- The name of a degree. -/
def name : Severity → Text
  | debug => "DEBUG"
  | info => "INFO"
  | warning => "WARNING"
  | error => "ERROR"
  | critical => "CRITICAL"

/-- The number of a degree, larger for what is more severe. -/
def number : Severity → Int
  | debug => 10
  | info => 20
  | warning => 30
  | error => 40
  | critical => 50

/-- All degrees. -/
def all : List Severity :=
  [debug, info, warning, error, critical]

/-- The degree of a given name. -/
def ofName? (name : Text) : Option Severity :=
  all.find? (·.name = name)

theorem ofName?_eq_some_iff {name : Text} {s : Severity} :
    ofName? name = some s ↔ name = s.name := by
  constructor
  · intro h
    have hname := List.find?_some h
    exact (of_decide_eq_true hname).symm
  · rintro rfl
    cases s <;> rfl

/-- The degree with a given number. -/
def ofNumber? (n : Int) : Option Severity :=
  all.find? (·.number = n)

/-- The level of a given name: that of a degree, under a second name for two of them, or none. -/
def levelOf? (name : Text) : Option Int :=
  if name = "FATAL" then some critical.number
  else if name = "WARN" then some warning.number
  else if name = "NOTSET" then some 0
  else (ofName? name).map number

end Severity

/-! ## Levels -/

/-- A level of logging. -/
inductive Level
  /-- A number. -/
  | number (n : Int)
  /-- A truth value, which amounts to one or zero. -/
  | flag (b : Bool)
  deriving DecidableEq

namespace Level

/-- The number that a level amounts to. -/
def value : Level → Int
  | number n => n
  | flag b => b.toInt

/-- How a level is written as a value, unless it is a number with too many digits. -/
def written? : Level → Option Text
  | number n => Text.signed? n
  | flag b => some (if b then "True" else "False")

/-- The name of the degree of severity with the number of the level, or else the level itself. -/
def name? (l : Level) : Option Text :=
  match Severity.ofNumber? l.value with
  | some s => some s.name
  | none => l.written?.map fun level => Text.join ["Level ", level]

end Level

end Caret
