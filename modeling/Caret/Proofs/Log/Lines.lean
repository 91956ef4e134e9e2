/-
  The lines that disagreements of measures make in a log.

  * `Violation.unbroken_message`: a disagreement is described without line breaks;
  * `Outcome.violation?`: the disagreement that a request was refused for;
  * `Report.record`, `Report.line`: the record of a disagreement, and the line that it makes;
  * `Log.noting_eq`: what is logged, by what a request comes to;
  * `Log.ShowsAll`: a log that shows every record once;
  * `ShowsAll.lines_write`: there a disagreement makes one line.
-/
import Caret.Proofs.Log.Recording
import Caret.Proofs.Text.Lines

namespace Caret

/-! ## Messages -/

theorem ByteIndex.unbroken_written (a : ByteIndex) : a.written.Unbroken := by
  simp only [written, Text.unbroken_join, List.forall_mem_cons]
  exact ⟨by decide, by decide, Text.unbroken_decimal _, by decide, nofun⟩

theorem RowColumn.unbroken_written {u : ColumnUnit} (a : RowColumn u) : a.written.Unbroken := by
  simp only [written, Text.unbroken_join, List.forall_mem_cons]
  exact ⟨by cases u <;> decide, by decide, Text.unbroken_decimal _, by decide,
    Text.unbroken_decimal _, by decide, nofun⟩

theorem Composite.unbroken_written (a : Composite) : a.written.Unbroken := by
  simp only [written, Text.unbroken_join, List.forall_mem_cons]
  exact ⟨by decide, by decide, a.index.unbroken_written, by decide, a.utf8.unbroken_written,
    by decide, a.utf16.unbroken_written, by decide, nofun⟩

theorem Violation.unbroken_message (v : Violation) : v.message.Unbroken := by
  cases v with
  | rowsDiffer row8 row16 =>
    simp only [message, Text.unbroken_join, List.forall_mem_cons]
    exact ⟨by decide, Text.unbroken_decimal _, by decide, Text.unbroken_decimal _, nofun⟩
  | columnRatio column8 column16 =>
    simp only [message, Text.unbroken_join, List.forall_mem_cons]
    exact ⟨by decide, Text.unbroken_decimal _, by decide, Text.unbroken_decimal _, nofun⟩
  | indexTooSmall index row column8 =>
    simp only [message, Text.unbroken_join, List.forall_mem_cons]
    exact ⟨by decide, Text.unbroken_decimal _, by decide, Text.unbroken_decimal _, by decide,
      Text.unbroken_decimal _, by decide, nofun⟩
  | indexOffFirstLine index column8 =>
    simp only [message, Text.unbroken_join, List.forall_mem_cons]
    exact ⟨by decide, Text.unbroken_decimal _, by decide, Text.unbroken_decimal _, by decide,
      nofun⟩
  | ordersDiffer a b =>
    simp only [message, Text.unbroken_join, List.forall_mem_cons]
    exact ⟨by decide, a.unbroken_written, by decide, b.unbroken_written, nofun⟩

/-! ## Disagreements -/

/-- The report of the disagreement that a request was refused for, if it was for one. -/
def Outcome.violation? : Outcome → Option Report
  | .error (.fault f) => f.report?.filter (·.kind = .violation)
  | _ => none

/-- The record of a disagreement: what is wrong, but not what to do about it. -/
def Report.record (r : Report) : LogRecord :=
  ⟨.debug, "textpos.composite", Text.join ["consistency violation: ", r.message]⟩

/-- The line that a record of a disagreement makes. -/
def Report.line (r : Report) : Text :=
  Text.join ["[DEBUG] textpos.composite: consistency violation: ", r.message]

theorem Outcome.violation?_eq_some_iff {outcome : Outcome} {r : Report} :
    violation? outcome = some r ↔
      ∃ v, outcome = .error (.fault (.violation v)) ∧ r = ⟨.violation, v.message, some v.hint⟩ := by
  cases outcome with
  | ok a => simp [violation?]
  | error refusal =>
    cases refusal with
    | raised kind message hint => simp [violation?]
    | fault f =>
      cases f with
      | violation v => simp [violation?, Fault.report?, Option.filter, eq_comm]
      | _ => simp [violation?, Fault.report?, Option.filter]

theorem Outcome.unbroken_message {outcome : Outcome} {r : Report}
    (h : violation? outcome = some r) : r.message.Unbroken := by
  obtain ⟨v, -, rfl⟩ := violation?_eq_some_iff.1 h
  exact v.unbroken_message

theorem Log.noting_eq (l : Log) (outcome : Outcome) :
    l.noting outcome =
      match Outcome.violation? outcome with
      | some r => l.write r.record
      | none => l := by
  cases outcome with
  | ok a => rfl
  | error refusal =>
    cases refusal with
    | raised kind message hint => rfl
    | fault f => cases f <;> rfl

theorem Report.line_record (r : Report) : r.record.line = r.line := by
  simp only [LogRecord.line, record, line, Text.join, List.flatten_cons, List.flatten_nil,
    List.append_nil, ← List.append_assoc]
  exact congrArg (· ++ r.message) rfl

theorem Report.unbroken_line {r : Report} (h : r.message.Unbroken) : r.line.Unbroken := by
  rw [line, Text.unbroken_join]
  exact List.forall_mem_cons.2 ⟨by decide, List.forall_mem_cons.2 ⟨h, nofun⟩⟩

/-! ## What is shown -/

namespace Log

variable {l : Log}

/-- Every record is shown, once and with a stamp. -/
structure ShowsAll (l : Log) : Prop where
  level_eq : l.level = .number Severity.debug.number
  handlers_eq : l.handlers = [.stamped]

theorem ShowsAll.write (h : l.ShowsAll) (r : LogRecord) : (l.write r).ShowsAll :=
  ⟨h.level_eq, h.handlers_eq⟩

/-- A message without line breaks makes one line. -/
theorem ShowsAll.lines_write (h : l.ShowsAll) {r : Report} (hr : r.message.Unbroken) :
    (l.write r.record).lines = l.lines ++ [r.line] := by
  have hentries : l.entries r.record = [⟨true, r.record.line⟩] := by
    simp only [entries, effectiveLevel, h.level_eq, h.handlers_eq]
    rfl
  have hline : LogEntry.lines ⟨true, r.record.line⟩ = [r.line] := by
    rw [LogEntry.lines, Report.line_record, Text.lines_newline (Report.unbroken_line hr)]
    rfl
  rw [Log.write, lines, hentries, List.flatMap_append, List.flatMap_singleton, hline]
  rfl

end Log

end Caret
