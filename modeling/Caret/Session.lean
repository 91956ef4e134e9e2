/-
  Sessions: what a run of requests keeps between them, and computations that use it.

  * `Session`: the environment, the settings read from it, the objects, and the values that the
    requests came to;
  * `SessionM`: computations that can be refused; what they did before stays done. They report a
    disagreement of measures to the log;
  * `Session.settings`: the settings, read once and kept;
  * `Session.resolve`: a choice of checking, from the settings if it is left open;
  * `Session.marked`, `Session.newReport`: values that can be told from all others;
  * `Session.assign`, `Session.setUpLog`, `Session.partLogger`: changes of objects, which show in
    whatever holds them.
-/
import Caret.Answer
import Caret.Settings
import Caret.Value.Parts

namespace Caret

/-- What a run of requests keeps between them. -/
structure Session where
  /-- The environment. -/
  environment : Environment
  /-- The settings, once they are read. -/
  cache : Option Settings
  /-- The objects as they are by now. -/
  objects : Objects
  /-- How many marks were given. -/
  marks : Nat
  /-- The values that the requests came to, if any. -/
  past : List (Option Value)

/-- Computations in a session. One that is refused keeps what it did to the session. -/
abbrev SessionM : Type → Type := ExceptT Refusal (StateM Session)

namespace Session

/-- A session in which nothing has happened. -/
def start (env : Environment) : Session :=
  ⟨env, none, .initial, 0, []⟩

/-- The log of a session. -/
def log (s : Session) : Log :=
  s.objects.log

/-- A session with a changed log. -/
def withLog (s : Session) (f : Log → Log) : Session :=
  { s with objects := { s.objects with log := f s.objects.log } }

/-- The record of a disagreement of measures. -/
def violationRecord (v : Violation) : LogRecord :=
  ⟨.debug, Log.violationName, Text.join ["consistency violation: ", v.message]⟩

/-- Changes the environment. -/
def changeEnvironment (f : Environment → Environment) : SessionM Unit :=
  modify fun s => { s with environment := f s.environment }

/-- Changes the log. -/
def changeLog (f : Log → Log) : SessionM Unit :=
  modify (·.withLog f)

/-- What is reported is logged at once. To be refused leaves the session as it is. -/
instance : Reporting SessionM where
  ofExcept
    | .ok a => return a
    | .error f => throw (.fault f)
  report v := changeLog (·.write (violationRecord v))

/-- A computation on the objects of a session as they are by now. -/
def withObjects {α : Type} (f : Objects → SessionM α) : SessionM α := do
  f (← get).objects

/-! ## Settings -/

/-- The settings of the environment as it is, whether kept or not. -/
def loadSettings : SessionM Settings := do
  ofExcept (Settings.load (← get).environment)

/-- The settings of the session. They are read when they are first asked for, and kept unless that
    is refused. -/
def settings : SessionM Settings := do
  match (← get).cache with
  | some settings => return settings
  | none =>
    let settings ← loadSettings
    modify fun s => { s with cache := some settings }
    return settings

/-- Forgets the settings, so that they are read again. -/
def resetSettings : SessionM Unit :=
  modify fun s => { s with cache := none }

/-- A choice of checking; the settings decide where it is left open. -/
def resolve : Option Bool → SessionM Bool
  | some checked => return checked
  | none => return (← settings).checked

/-! ## Objects -/

/-- A mark that no value has yet. -/
def newMark : SessionM Nat := do
  let mark := (← get).marks
  modify fun s => { s with marks := mark + 1 }
  return mark

/-- A value with a mark of its own, if it can carry one and has none. -/
def marked (v : Value) : SessionM Value := do
  return v.marked (← newMark)

/-- A new error object, made from a message and perhaps a hint. -/
def newReport (kind : ReportKind) (given : List Value) : SessionM Value := do
  let mark ← newMark
  let contents := ⟨given.getD 0 .null, given.getD 1 .null, given⟩
  modify fun s => { s with objects := s.objects.withContents mark contents }
  return .report mark kind

/-- Assigns an attribute of a value. -/
def assign (v : Value) (name : Text) (new : Value) : SessionM Unit := do
  let objects ← withObjects (ofExcept <| v.assign · name new)
  modify fun s => { s with objects := objects }

/-- Sets up the log at a given level, and answers the common logger. -/
def setUpLog (level : Level) : SessionM Value := do
  changeLog (·.setUp level)
  return .logger Log.loggerName

/-- The logger of a part, which there is from then on. -/
def partLogger (part : Text) : SessionM Value := do
  changeLog (·.withName (Log.partName part))
  return .logger (Log.partName part)

end Session

end Caret
