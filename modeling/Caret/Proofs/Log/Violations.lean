/-
  Every disagreement of measures that a request is refused for is logged once, and nothing else is.

  * `Step.answer_drainLog`: the lines of the log, read;
  * `Script.lines_runFrom`: the lines that a run of requests makes in a log that shows everything;
  * `Script.violations_logged_once`: what is logged and what requests are refused for go together.
-/
import Caret.Proofs.Log.Lines
import Caret.Proofs.Log.Requests
import Caret.Proofs.Position.Arithmetic

namespace Caret

open Session

theorem Value.answerItems_texts (log : Log) (report : ReportAnswerer) (texts : List Text) :
    answerItems log report (texts.map text) = .ok (texts.map .text) := by
  induction texts with
  | nil => rfl
  | cons t rest ih =>
    rw [List.map_cons, answerItems, ih]
    rfl

/-- The lines since the last time are answered as texts. -/
theorem Step.answer_drainLog (s : Session) :
    (drainLog.answer s).1 = .ok (.list (s.log.lines.map .text)) := by
  show ((Value.list (some s.marks) (s.log.lines.map .text)).answer _).mapError Refusal.fault = _
  rw [Value.answer, Value.answerWith, Value.answerItems_texts]
  rfl

namespace Script

variable {steps : List Step} {s : Session}

theorem runFrom_concat (steps : List Step) (last : Step) (s : Session) :
    (runFrom (steps ++ [last]) s).1 =
      (runFrom steps s).1 ++ [(last.answer (runFrom steps s).2).1] := by
  induction steps generalizing s with
  | nil => rfl
  | cons step rest ih => exact congrArg ((step.answer s).1 :: ·) (ih (step.answer s).2)

/-- **A run of requests.** Each request that is refused for a disagreement adds one line, and no
    other request does. -/
theorem lines_runFrom (h : ∀ step ∈ steps, step.isOperation = true) (hs : s.log.ShowsAll) :
    (runFrom steps s).2.log.lines =
      s.log.lines ++ ((runFrom steps s).1.filterMap Outcome.violation?).map Report.line := by
  induction steps generalizing s with
  | nil => exact (List.append_nil _).symm
  | cons step rest ih =>
    obtain ⟨hstep, hrest⟩ := List.forall_mem_cons.1 h
    have hlog := (step.noted_answer hstep s).log_eq
    rw [Log.noting_eq] at hlog
    show (runFrom rest (step.answer s).2).2.log.lines = s.log.lines ++
      (((step.answer s).1 :: (runFrom rest (step.answer s).2).1).filterMap _).map _
    cases hv : Outcome.violation? (step.answer s).1 with
    | none =>
      rw [hv] at hlog
      rw [ih hrest (hlog ▸ hs), hlog, List.filterMap_cons_none hv]
    | some r =>
      rw [hv] at hlog
      rw [ih hrest (hlog ▸ hs.write r.record), hlog, hs.lines_write (Outcome.unbroken_message hv),
        List.filterMap_cons_some hv, List.map_cons, List.append_assoc]
      rfl

/-! ## Main statement -/

/-- **Every disagreement is logged once, and nothing else is.** Whatever a request is given, and
    whatever was done before: if it is refused for a disagreement, the log gets the record of it,
    without the hint; otherwise it stays as it is. Error objects are raised by no such request. The
    same holds of each operation, on whatever values, and of all that builds a value: a check writes
    its record where it finds the disagreement, nothing on the way to it writes another, and nothing
    goes on after it. So once the log is set up to show everything, the lines that come from a run
    of requests are those for the refusals of it, in their order. -/
theorem violations_logged_once :
    (∀ (step : Step) (s : Session), step.isOperation = true →
      (step.answer s).2.log =
        (match Outcome.violation? (step.answer s).1 with
          | some r => s.log.write r.record
          | none => s.log) ∧
      ∀ kind message hint, (step.answer s).1 ≠ .error (.raised kind message hint)) ∧
    (∀ (o : Objects) (v w : Value),
      (∀ op : Unary, Records (op.apply o v SessionM)) ∧
      (∀ op : Binary, Records (op.apply o v w SessionM)) ∧
      (∀ (b : Builder) (args : List Value), Records (b.build args)) ∧
      ∀ c : Composite, Records (watched c v)) ∧
    (∀ checked : Bool,
      (∀ index row column8 column16 : Int,
        Records (Composite.ofInts index row column8 column16 checked SessionM)) ∧
      ∀ t : Text, Records (t.measure checked SessionM)) ∧
    ∀ (steps : List Step) (s : Session) (l : Log), (∀ step ∈ steps, step.isOperation = true) →
      s.log = l.setUp (.number Severity.debug.number) →
      (runFrom (steps ++ [.drainLog]) s).1 =
        (runFrom steps s).1 ++ [.ok (.list ((s.log.lines ++
          ((runFrom steps s).1.filterMap Outcome.violation?).map Report.line).map .text))] := by
  refine ⟨fun step s h => ?_, fun o v w => ?_, fun checked => ?_, ?_⟩
  · obtain ⟨hlog, hraised⟩ := step.noted_answer h s
    exact ⟨hlog.trans (s.log.noting_eq _), hraised⟩
  · exact ⟨fun op => op.records_apply o v, fun op => op.records_apply o v w,
      fun b args => b.records_build args, fun c => records_watched c v⟩
  · exact ⟨fun index row column8 column16 => records_ofInts index row column8 column16 checked,
      fun t => records_measure t checked⟩
  · intro steps s l h hs
    have hshows : s.log.ShowsAll := by
      rw [hs]
      exact ⟨rfl, rfl⟩
    rw [runFrom_concat, Step.answer_drainLog, lines_runFrom h hshows]

/-- Composites whose measures disagree: built to be watched, built without and then asked, compared
    inside of ranges, and a number that no position has. -/
def disagreeing : List Step :=
  let composite (index row column8 column16 : Int) (checked : Bool) : Expr :=
    .build .numbers ([index, row, column8, column16].map (.data <| .int ·) ++
      [.data (.bool checked)])
  [.unary .value (composite 5 2 6 6 true), .unary .value (composite 5 2 6 6 false),
    .unary .checkConsistency (.ref 1), .unary .byteIndex (.data (.int (-1))),
    .unary .emptyRange (composite 3 1 1 1 true), .unary .emptyRange (composite 4 1 0 0 true),
    .binary .cover (.ref 4) (.ref 5), .binary .overlaps (.ref 4) (.ref 5)]

/-- Three of the requests are refused for disagreements, and make the lines that are read then. A
    number that no position has is refused without a trace. -/
theorem violations_logged_once_disagreeing :
    let s := (Session.start []).withLog (·.setUp (.number Severity.debug.number))
    let before : Composite := ⟨⟨3⟩, ⟨1, 1⟩, ⟨1, 1⟩, true⟩
    let behind : Composite := ⟨⟨4⟩, ⟨1, 0⟩, ⟨1, 0⟩, true⟩
    let opening : Text := "[DEBUG] textpos.composite: consistency violation: "
    let tooSmall := Text.join [opening, "byte index 5 is before UTF-8 position 2:6 (0-based)"]
    let apart := Text.join [opening, "measures disagree on the order of ", behind.written, " and ",
      before.written]
    (runFrom (disagreeing ++ [.drainLog]) s).1 =
      (runFrom disagreeing s).1 ++ [.ok (.list [.text tooSmall, .text tooSmall, .text apart])] ∧
    ((Step.unary .byteIndex (.data (.int (-1)))).answer s).2.log = s.log := by
  intro s before behind opening tooSmall apart
  obtain ⟨hstep, -, -, hrun⟩ := violations_logged_once
  have hlines : ((runFrom disagreeing s).1.filterMap Outcome.violation?).map Report.line =
      [tooSmall, tooSmall, apart] := by
    decide +kernel
  refine ⟨?_, (hstep _ s rfl).1⟩
  rw [hrun disagreeing s .initial (by decide) rfl, hlines]
  rfl

end Script

end Caret
