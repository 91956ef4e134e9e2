/-
  The log of a session: who writes what, and which of it is shown.

  * `LogRecord`: a message with the name of the writer and its severity;
  * `LineFormat`: how a handler writes a record;
  * `Log`: the level and the handlers of the common logger, and the entries shown so far;
  * `Log.write`: shows a record, if it is severe enough;
  * `Log.setUp`: one handler at a given level, whatever was set up before;
  * `Log.lines`, `Log.drain`: the lines shown since the last time;
  * `Logger`, `Log.logger`: a logger as it is seen, and the one of a given name;
  * `Log.parent?`: the logger that a logger is below.
-/
import Caret.Log.Severity
import Caret.Text.Lines

namespace Caret

/-- A message for the log. -/
structure LogRecord where
  /-- How severe the matter is. -/
  severity : Severity
  /-- The name of the logger that it is written to. -/
  logger : Text
  /-- What happened. -/
  message : Text

/-- How a handler writes a record: the pattern of a line, and that of the date in its stamp. -/
structure LineFormat where
  /-- The pattern of a line. -/
  line : Text
  /-- The pattern of the date. -/
  date : Text
  deriving DecidableEq

/-- A stamp with date and time, then severity, logger and message. -/
def LineFormat.stamped : LineFormat :=
  ⟨"%(asctime)s.%(msecs)03d [%(levelname)s] %(name)s: %(message)s", "%Y-%m-%d %H:%M:%S"⟩

/-- Both patterns of a handler. -/
def LineFormat.written (f : LineFormat) : Text :=
  Text.join [f.line, "|", f.date]

/-- The record as a handler writes it behind the stamp. -/
def LogRecord.line (r : LogRecord) : Text :=
  Text.join ["[", r.severity.name, "] ", r.logger, ": ", r.message]

/-- A record as it was shown. -/
structure LogEntry where
  /-- Whether a handler put a stamp in front of it, which is not kept. -/
  stamped : Bool
  /-- What was shown behind the stamp. -/
  text : Text

/-- The lines of an entry, the last of which is ended by the entry itself. They are read without
    stamps, whoever wrote these; the first line of a stamped entry has lost its stamp already. -/
def LogEntry.lines (e : LogEntry) : List Text :=
  match e.stamped, Text.lines (e.text ++ [CodePoint.newline]) with
  | true, first :: rest => first :: rest.map Text.withoutStamp
  | _, lines => lines.map Text.withoutStamp

/-- The log of a session. -/
structure Log where
  /-- The level below which records are not shown; zero leaves it to the default. -/
  level : Level
  /-- The handlers that show records. -/
  handlers : List LineFormat
  /-- What has been shown since the log was drained. -/
  shown : List LogEntry
  /-- The names of the loggers that there are, the one above all others apart. -/
  names : List Text

/-- A logger as it is seen. -/
structure Logger where
  /-- Its name, which no other logger has. -/
  name : Text
  /-- Its own level, zero if it has none. -/
  level : Level
  /-- The level that counts for it. -/
  effective : Level
  /-- Its own handlers. -/
  handlers : List LineFormat

/-- The name of the logger above all others. -/
def Logger.rootName : Text := "root"

/-- The name of the kind of a logger. -/
def Logger.kindName (name : Text) : Text :=
  if name = rootName then "RootLogger" else "Logger"

/-- A logger by its name and the level that counts, if that can be written. -/
def Logger.written? (g : Logger) : Option Text :=
  g.effective.name?.map fun level =>
    Text.join ["<", kindName g.name, " ", g.name, " (", level, ")>"]

/-- The names that a name, given from its end, is below, the nearest first: what stands in front of
    a dot. A dot right in front of another one is passed over. -/
def Logger.namesAbove : Text → List Text
  | [] => []
  | c :: rest =>
    if c = CodePoint.ofChar '.' ∧ rest ≠ [] then rest.reverse :: namesAbove rest.tail
    else namesAbove rest
termination_by reversed => reversed.length
decreasing_by
  · simp only [List.length_tail, List.length_cons]
    omega
  · simp

namespace Log

/-- The name of the common logger. -/
def loggerName : Text := "textpos"

/-- The name of the logger of a part. -/
def partName (name : Text) : Text :=
  Text.join [loggerName, ".", name]

/-- The name of the logger to which the disagreement of measures is logged. -/
def violationName : Text := partName "composite"

/-- The log before anything is set up. -/
def initial : Log := ⟨.number 0, [], [], [loggerName, violationName]⟩

/-- The level that counts: that of the common logger, and warnings if it has none. -/
def effectiveLevel (l : Log) : Level :=
  if l.level.value = 0 then .number Severity.warning.number else l.level

/-- What a record shows: an entry for each handler if it reaches the level that counts; without
    handlers the bare message, and that only for warnings and worse. -/
def entries (l : Log) (r : LogRecord) : List LogEntry :=
  if r.severity.number < l.effectiveLevel.value then []
  else if l.handlers = [] then
    if r.severity.number < Severity.warning.number then [] else [⟨false, r.message⟩]
  else l.handlers.map fun _ => ⟨true, r.line⟩

/-- Shows a record. -/
def write (l : Log) (r : LogRecord) : Log :=
  { l with shown := l.shown ++ l.entries r }

/-- Sets the level and leaves one handler. -/
def setUp (l : Log) (level : Level) : Log :=
  { l with level := level, handlers := [.stamped] }

/-- The lines shown since the last time. -/
def lines (l : Log) : List Text :=
  l.shown.flatMap LogEntry.lines

/-- The log with nothing shown. -/
def drain (l : Log) : Log :=
  { l with shown := [] }

/-- The log with a logger of a given name. -/
def withName (l : Log) (name : Text) : Log :=
  if l.names.contains name then l else { l with names := name :: l.names }

/-- The logger of a given name: the common one, the one above it, or that of a part, which has
    neither level nor handlers of its own. -/
def logger (l : Log) (name : Text) : Logger :=
  if name = loggerName then ⟨name, l.level, l.effectiveLevel, l.handlers⟩
  else if name = Logger.rootName then
    ⟨name, .number Severity.warning.number, .number Severity.warning.number, []⟩
  else ⟨name, .number 0, l.effectiveLevel, []⟩

/-- The name of the logger that a logger is below: of those that there are, the one of the nearest
    name above, or else the one above all others, which is below none. -/
def parent? (l : Log) (name : Text) : Option Text :=
  if name = Logger.rootName then none
  else some (((Logger.namesAbove name.reverse).find? l.names.contains).getD Logger.rootName)

end Log

end Caret
