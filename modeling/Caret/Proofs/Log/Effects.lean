/-
  What a request does to the log: it may set it up, and what it writes is added to what was shown.

  * `Outcome.records`: the record of a disagreement that a request was refused for;
  * `Log.Becomes`: a log after it was set up or not, and some records were written to it;
  * `Log.Becomes.append`: one change after another;
  * `Step.message?`, `Step.logged`: the records that a request writes;
  * `Step.becomes_of_noting`: requests that log nothing but a disagreement;
  * `Step.answer_setUpLog`, `Step.answer_setUpLog_of_none`: setting up the log, or failing to;
  * `Step.answer_of_refused`, `Step.becomes_of_read`: requests that read something first;
  * `Step.becomes_answer`: any request that does not read the log.
-/
import Caret.Proofs.Log.Levels
import Caret.Proofs.Log.Lines
import Caret.Proofs.Log.Requests

namespace Caret

open Session

/-! ## Changes of a log -/

/-- The record of the disagreement that a request was refused for, if it was for one. -/
def Outcome.records (outcome : Outcome) : List LogRecord :=
  (outcome.violation?.map Report.record).toList

/-- What becomes of a log that is set up at a level, if there is one, or gets some records. Names of
    loggers may be added. -/
structure Log.Becomes (l l' : Log) (level? : Option Level) (records : List LogRecord) : Prop where
  level_eq : l'.level = level?.getD l.level
  handlers_eq : l'.handlers = if level?.isSome then [.stamped] else l.handlers
  shown_eq : l'.shown = l.shown ++ records.flatMap l.entries

namespace Log

theorem becomes_self (l : Log) : l.Becomes l none [] :=
  ⟨rfl, rfl, (List.append_nil _).symm⟩

theorem becomes_setUp (l : Log) (level : Level) : l.Becomes (l.setUp level) (some level) [] :=
  ⟨rfl, rfl, (List.append_nil _).symm⟩

theorem becomes_write (l : Log) (r : LogRecord) : l.Becomes (l.write r) none [r] :=
  ⟨rfl, rfl, congrArg (l.shown ++ ·) (List.append_nil _).symm⟩

theorem becomes_withName (l : Log) (name : Text) : l.Becomes (l.withName name) none [] := by
  rw [withName]
  split
  · exact l.becomes_self
  · exact ⟨rfl, rfl, (List.append_nil _).symm⟩

/-- Level and handlers are all that decides what a record shows. -/
theorem entries_congr {l l' : Log} (hlevel : l'.level = l.level)
    (hhandlers : l'.handlers = l.handlers) : l'.entries = l.entries := by
  funext r
  rw [entries, entries, effectiveLevel, effectiveLevel, hlevel, hhandlers]

theorem Becomes.append {l l' l'' : Log} {rs rs' : List LogRecord} (h : l.Becomes l' none rs)
    (h' : l'.Becomes l'' none rs') : l.Becomes l'' none (rs ++ rs') where
  level_eq := h'.level_eq.trans h.level_eq
  handlers_eq := h'.handlers_eq.trans h.handlers_eq
  shown_eq := by
    rw [h'.shown_eq, h.shown_eq, entries_congr h.level_eq h.handlers_eq, List.flatMap_append,
      List.append_assoc]

theorem becomes_noting (l : Log) (outcome : Outcome) :
    l.Becomes (l.noting outcome) none outcome.records := by
  rw [noting_eq, Outcome.records]
  cases outcome.violation? with
  | none => exact l.becomes_self
  | some r => exact l.becomes_write r.record

end Log

theorem Records.log_run_bind {α β : Type} {x : SessionM α} {f : α → SessionM β} (h : Records x)
    (hf : ∀ a s, ((f a).run.run s).2.log = s.log.noting ((f a).run.run s).1) (s : Session) :
    ((x >>= f).run.run s).2.log = s.log.noting ((x >>= f).run.run s).1 := by
  obtain ⟨hlog, -⟩ := h s
  rcases hx : x.run.run s with ⟨r | a, s'⟩
  · rw [hx] at hlog
    rw [run_bind_error hx]
    exact hlog
  · rw [hx] at hlog
    rw [run_bind_ok hx]
    exact (hf a s').trans (congrArg (Log.noting · _) hlog)

/-! ## Records -/

/-- What a request to log a message reads: the part that logs it, how severe it is, and the
    message. -/
def readMessage (name severity message : Expr) : SessionM (Text × Severity × Value) := do
  let name ← name.eval
  let severity ← severity.eval
  let message ← message.eval
  let name ← withObjects (ofExcept <| name.display ·)
  return (name, ← ofExcept severity.asSeverity, message)

theorem records_readMessage (name severity message : Expr) :
    Records (readMessage name severity message) := by
  refine name.records_eval.bind fun name => severity.records_eval.bind fun severity => ?_
  refine message.records_eval.bind fun message => ?_
  refine (Records.withObjects fun o => .ofExcept (name.silent_display o)).bind fun name => ?_
  exact (Records.ofExcept severity.silent_asSeverity).bind fun severity => .pure _

/-- The record of a message for the logger of a part, if it can be displayed. -/
def recordOf (s : Session) : Text × Severity × Value → Option LogRecord
  | (part, severity, message) =>
    let objects := (s.withLog (·.withName (Log.partName part))).objects
    (message.display objects).toOption.map (⟨severity, Log.partName part, ·⟩)

namespace Step

/-- The record of the message that a request is to log. -/
def message? : Step → Session → Option LogRecord
  | log name severity message, s =>
    match (readMessage name severity message).run.run s with
    | (.ok m, s') => recordOf s' m
    | (.error _, _) => none
  | _, _ => none

/-- The records that a request writes: that of the disagreement that it is refused for, or that of
    the message that it is to log. -/
def logged (step : Step) (s : Session) : List LogRecord :=
  (step.answer s).1.records ++ (step.message? s).toList

variable {step : Step} {s s' : Session}

theorem logged_of_message?_eq_none (h : step.message? s = none) :
    step.logged s = (step.answer s).1.records := by
  rw [logged, h, Option.toList_none, List.append_nil]

/-! ## Answers -/

theorem log_answer_eq_run (step : Step) (s : Session) :
    (step.answer s).2.log = (step.perform.run.run s).2.log := by
  rw [answer, run_bind]
  rcases step.perform.run.run s with ⟨r | v, s'⟩ <;> rfl

/-- Only that something does not end can be wrong with an answer. -/
theorem records_answer_of_run_ok {v : Value} (h : step.perform.run.run s = (.ok v, s')) :
    (step.answer s).1.records = [] := by
  have hmarked : (step.perform >>= marked).run.run s =
      (.ok (v.marked s'.marks), { s' with marks := s'.marks + 1 }) := run_bind_ok h marked
  rw [answer, hmarked]
  show Outcome.records ((Value.answer _ _).mapError Refusal.fault) = []
  cases ha : Value.answer s'.objects (v.marked s'.marks) with
  | ok a => rfl
  | error f =>
    obtain rfl := Value.onlyEndless_answer _ _ f ha
    rfl

/-- A request that logs the disagreement that refuses it, and nothing else. -/
theorem becomes_of_noting
    (h : (step.perform.run.run s).2.log = s.log.noting (step.perform.run.run s).1) :
    s.log.Becomes (step.answer s).2.log none (step.answer s).1.records := by
  rw [log_answer_eq_run, h]
  rcases hrun : step.perform.run.run s with ⟨r | v, s'⟩
  · rw [answer_of_run_error (congrArg Prod.fst hrun)]
    exact s.log.becomes_noting (.error r)
  · rw [records_answer_of_run_ok hrun]
    exact s.log.becomes_self

/-- A request that is refused while it reads something. -/
theorem answer_of_refused {α : Type} {x : SessionM α} {f : α → SessionM Value}
    (hperform : step.perform = x >>= f) (hx : Records x) {r : Refusal}
    (hrun : x.run.run s = (.error r, s')) :
    (step.answer s).1 = .error r ∧
      s.log.Becomes (step.answer s).2.log none (step.answer s).1.records := by
  have hlog := (hx s).log_eq
  have hall : step.perform.run.run s = (.error r, s') := by
    rw [hperform, run_bind_error hrun]
  rw [hrun] at hlog
  refine ⟨answer_of_run_error (congrArg Prod.fst hall), becomes_of_noting ?_⟩
  rw [hall]
  exact hlog

/-- Nothing is logged for an error object that is raised. -/
theorem log_raiseReport (v : Value) (s : Session) :
    ((raiseReport v).run.run s).2.log = s.log.noting ((raiseReport v).run.run s).1 := by
  rw [raiseReport.eq_def]
  split
  · refine Records.log_run_bind (.withObjects fun o => ?_) (fun message => ?_) s
    · exact .ofExcept (Value.silent_display o _)
    · refine Records.log_run_bind (.withObjects fun o => ?_) fun hint s => rfl
      exact .ofExcept (Value.silent_answer o _)
  · rfl

/-! ## Setting up the log -/

theorem records_levelOf (v : Value) : Records (levelOf v) := by
  rw [levelOf.eq_def]
  split
  · exact records_settings.bind fun c => .pure _
  · exact .withObjects fun o => .ofExcept ((v.silent_get o _).bind (Value.silent_asLevel o))

theorem records_givenLevel (config : Option Expr) : Records (evalOr .null config >>= levelOf) :=
  (records_evalOr .null config).bind records_levelOf

theorem perform_setUpLog (config : Option Expr) :
    (setUpLog config).perform = (evalOr .null config >>= levelOf) >>= Session.setUpLog := by
  rw [perform, bind_assoc]

/-- With a level the log is set up, and the common logger is answered. -/
theorem answer_setUpLog {config : Option Expr} {level : Level}
    (h : (setUpLog config).setUp? s = some level) :
    ((setUpLog config).answer s).2.log = s.log.setUp level ∧
      ((setUpLog config).answer s).1 =
        .ok (.logger ((s.log.setUp level).logger Log.loggerName)) := by
  have hlog := (records_givenLevel config s).log_eq
  rw [← toOption_run_givenLevel, Except.toOption_eq_some_iff] at h
  rcases hx : (evalOr .null config >>= levelOf).run.run s with ⟨r | l, s'⟩
  · rw [hx] at h
    cases h
  · rw [hx] at h hlog
    obtain rfl : l = level := Except.ok.inj h
    have hlog : s'.log = s.log := hlog
    have hrun : (setUpLog config).perform.run.run s =
        (.ok (.logger Log.loggerName), s'.withLog (·.setUp l)) := by
      rw [perform_setUpLog, run_bind_ok hx]
      rfl
    constructor
    · rw [log_answer_eq_run, hrun, ← hlog]
      rfl
    · rw [answer, run_bind_ok hrun, ← hlog]
      rfl

/-- Without a level the request is refused, and the log is not set up. -/
theorem answer_setUpLog_of_none {config : Option Expr} (h : (setUpLog config).setUp? s = none) :
    (∃ r, ((setUpLog config).answer s).1 = .error r) ∧
      s.log.Becomes ((setUpLog config).answer s).2.log none
        ((setUpLog config).answer s).1.records := by
  rw [← toOption_run_givenLevel] at h
  rcases hx : (evalOr .null config >>= levelOf).run.run s with ⟨r | l, s'⟩
  · obtain ⟨hanswer, hbecomes⟩ :=
      answer_of_refused (perform_setUpLog config) (records_givenLevel config) hx
    exact ⟨⟨r, hanswer⟩, hbecomes⟩
  · rw [hx] at h
    cases h

/-! ## Loggers and messages -/

/-- A request that reads something, and then is answered and writes some records. -/
theorem becomes_of_read {α : Type} {x : SessionM α} {f : α → SessionM Value}
    {records : List LogRecord} (hperform : step.perform = x >>= f) (hx : Records x)
    (hrefused : ∀ r s', x.run.run s = (.error r, s') → records = [])
    (hread : ∀ a s', x.run.run s = (.ok a, s') →
      ∃ v s'', (f a).run.run s' = (.ok v, s'') ∧ s'.log.Becomes s''.log none records) :
    s.log.Becomes (step.answer s).2.log none ((step.answer s).1.records ++ records) := by
  rcases hrun : x.run.run s with ⟨r | a, s'⟩
  · rw [hrefused r s' hrun, List.append_nil]
    exact (answer_of_refused hperform hx hrun).2
  · have hlog := (hx s).log_eq
    rw [hrun] at hlog
    have hlog : s'.log = s.log := hlog
    obtain ⟨v, s'', hanswer, hbecomes⟩ := hread a s' hrun
    have hall : step.perform.run.run s = (.ok v, s'') := by
      rw [hperform, run_bind_ok hrun, hanswer]
    rw [log_answer_eq_run, records_answer_of_run_ok hall, hall, ← hlog]
    exact hbecomes

theorem becomes_answer_logger (name : Expr) (s : Session) :
    s.log.Becomes ((logger name).answer s).2.log none ((logger name).logged s) := by
  have hperform : (logger name).perform =
      (do let name ← name.eval; withObjects (ofExcept <| name.display ·)) >>= partLogger := by
    rw [perform, bind_assoc]
  have hread (name : Value) : Records (withObjects (ofExcept <| name.display ·)) :=
    .withObjects fun o => .ofExcept (name.silent_display o)
  refine becomes_of_read hperform (name.records_eval.bind hread) (fun _ _ _ => rfl)
    fun part s' _ => ?_
  exact ⟨.logger (Log.partName part), _, rfl, s'.log.becomes_withName (Log.partName part)⟩

/-- The logger of the part is there, whether or not the message can be displayed. -/
theorem becomes_logMessage (part : Text) (severity : Severity) (message : Value) (s : Session) :
    ∃ v s', (do
        let _ ← partLogger part
        logMessage (Log.partName part) severity message
        return Value.null).run.run s = (.ok v, s') ∧
      s.log.Becomes s'.log none (recordOf s (part, severity, message)).toList := by
  let named := s.withLog (·.withName (Log.partName part))
  have hnamed : s.log.Becomes named.log none [] := s.log.becomes_withName (Log.partName part)
  have hlogger : (partLogger part).run.run s = (.ok (.logger (Log.partName part)), named) := rfl
  rw [run_bind_ok hlogger, recordOf]
  cases hdisplay : message.display named.objects with
  | error f =>
    have hlog : (logMessage (Log.partName part) severity message).run.run named =
        (.ok (), named) := by
      rw [logMessage, run_bind_ok (run_get named), hdisplay]
      rfl
    rw [run_bind_ok hlog]
    exact ⟨_, _, rfl, hnamed⟩
  | ok t =>
    have hlog : (logMessage (Log.partName part) severity message).run.run named =
        (.ok (), named.withLog (·.write ⟨severity, Log.partName part, t⟩)) := by
      rw [logMessage, run_bind_ok (run_get named), hdisplay]
      rfl
    rw [run_bind_ok hlog]
    exact ⟨_, _, rfl, hnamed.append (named.log.becomes_write _)⟩

theorem becomes_answer_log (name severity message : Expr) (s : Session) :
    s.log.Becomes ((log name severity message).answer s).2.log none
      ((log name severity message).logged s) := by
  have hperform : (log name severity message).perform =
      readMessage name severity message >>= fun (part, severity, message) => do
        let _ ← partLogger part
        logMessage (Log.partName part) severity message
        return .null := by
    simp only [perform, readMessage, bind_assoc, pure_bind]
  refine becomes_of_read hperform (records_readMessage name severity message)
    (fun r s' hr => ?_) fun m s' hm => ?_
  · rw [message?, hr]
    rfl
  · obtain ⟨part, severity, message⟩ := m
    rw [message?, hm]
    exact becomes_logMessage part severity message s'

/-! ## Requests -/

/-- **One request.** Unless it reads what was shown, it does nothing else to a log than to set it
    up, if it gives a level for that, and to write its records. -/
theorem becomes_answer (h : step ≠ .drainLog) (s : Session) :
    s.log.Becomes (step.answer s).2.log (step.setUp? s) (step.logged s) := by
  have hnone (hoperation : step.isOperation = true) := step.records_perform hoperation
  cases step with
  | raise x =>
    rw [logged_of_message?_eq_none rfl]
    exact becomes_of_noting (x.records_eval.log_run_bind log_raiseReport s)
  | setUpLog config =>
    rw [logged_of_message?_eq_none rfl]
    cases hlevel : (setUpLog config).setUp? s with
    | none => exact (answer_setUpLog_of_none hlevel).2
    | some level =>
      obtain ⟨hlog, hanswer⟩ := answer_setUpLog hlevel
      rw [hlog, hanswer]
      exact s.log.becomes_setUp level
  | logger name => exact becomes_answer_logger name s
  | log name severity message => exact becomes_answer_log name severity message s
  | drainLog => exact absurd rfl h
  | _ =>
    rw [logged_of_message?_eq_none rfl]
    exact becomes_of_noting (hnone rfl s).log_eq

end Step

end Caret
