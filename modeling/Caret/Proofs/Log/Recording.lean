/-
  Computations that log the disagreement that refuses them, and nothing else.

  * `Log.noting`: the log after a computation, by what it comes to;
  * `Session.Noted`: that is the log, and no error object was raised;
  * `Records`: so it is after a computation, in whatever session;
  * `Records.bind`: step by step, this is so of the whole;
  * `Records.of_lift`, `Unary.records_apply`, `Binary.records_apply`: all operations do so;
  * `records_newReport`, `records_assign`: changes of objects leave the log alone;
  * `records_ofInts`, `records_measure`, `records_watched`: composites from numbers, from a text,
    and with a choice of checking;
  * `not_records_report`, `not_records_refuse`: what would log too much or too little.
-/
import Caret.Proofs.Reporting.Values

namespace Caret

variable {α β : Type}

open Session

/-! ## What is logged -/

/-- The log after a refusal: with a record of the disagreement, if it is for one. -/
def Log.refused (l : Log) : Refusal → Log
  | .fault (.violation v) => l.write (violationRecord v)
  | _ => l

/-- The log after a computation, by what it comes to. -/
def Log.noting (l : Log) : Except Refusal α → Log
  | .ok _ => l
  | .error r => l.refused r

/-- What something comes to in a session, and the session after it: a disagreement that it is
    refused for was logged, and nothing else. No error object was raised. -/
structure Session.Noted (s : Session) (result : Except Refusal α × Session) : Prop where
  log_eq : result.2.log = s.log.noting result.1
  not_raised : ∀ kind message hint, result.1 ≠ .error (.raised kind message hint)

/-- A computation logs the disagreement that refuses it, and nothing else, in whatever session. -/
def Records (x : SessionM α) : Prop :=
  ∀ s : Session, s.Noted (x.run.run s)

/-- A session whose log shows everything, and has shown nothing yet. -/
def Session.listening : Session :=
  (start []).withLog (·.setUp (.number Severity.debug.number))

theorem Session.listening_write_ne (v : Violation) :
    listening.log.write (violationRecord v) ≠ listening.log := by
  intro h
  have hshown : [LogEntry.mk true (violationRecord v).line] = [] := congrArg Log.shown h
  cases hshown

/-- To report a disagreement and go on is to log too much. -/
theorem not_records_report (v : Violation) : ¬Records (Reporting.report v) :=
  fun h => listening_write_ne v (h listening).log_eq

/-- To be refused for a disagreement without a report is to log too little. -/
theorem not_records_refuse (v : Violation) :
    ¬Records (refuse (.violation v) : SessionM α) :=
  fun h => listening_write_ne v (h listening).log_eq.symm

namespace Records

theorem pure (a : α) : Records (pure a) :=
  fun _ => ⟨rfl, nofun⟩

/-- What is refused for anything but a disagreement logs nothing. -/
theorem ofExcept {x : Except Fault α} (h : Silent x) : Records (Caret.ofExcept x) := by
  intro s
  cases x with
  | ok a => exact ⟨rfl, nofun⟩
  | error f =>
    refine ⟨?_, nofun⟩
    cases f with
    | violation v => exact absurd rfl (h v)
    | _ => rfl

/-- A disagreement is logged, and then it is what the computation is refused for. -/
theorem violated (v : Violation) : Records (violated v : SessionM α) :=
  fun _ => ⟨rfl, nofun⟩

theorem lift (x : Except Fault α) : Records (Session.lift x) := by
  cases x with
  | ok a => exact .pure a
  | error f =>
    cases f with
    | violation v => exact .violated v
    | _ => exact .ofExcept (.error rfl)

/-- A computation reports what it is refused for, and nothing else. -/
theorem of_lift {x : SessionM α} {y : Except Fault α} (h : Session.lift y = x) : Records x :=
  h ▸ lift y

/-- What comes first logs nothing, if there is something that follows it. -/
theorem bind {x : SessionM α} {f : α → SessionM β} (h : Records x) (hf : ∀ a, Records (f a)) :
    Records (x >>= f) := by
  intro s
  obtain ⟨hlog, hraised⟩ := h s
  rcases hx : x.run.run s with ⟨r | a, s'⟩
  · rw [run_bind_error hx]
    rw [hx] at hlog hraised
    exact ⟨hlog, fun kind message hint heq => hraised kind message hint (by cases heq; rfl)⟩
  · rw [run_bind_ok hx]
    rw [hx] at hlog
    obtain ⟨hlog', hraised'⟩ := hf a s'
    exact ⟨hlog'.trans (congrArg (Log.noting · _) hlog), hraised'⟩

/-- A computation that depends on the session as it is. -/
theorem get {f : Session → SessionM α} (h : ∀ s, Records (f s)) :
    Records (do f (← MonadState.get)) :=
  fun s => h s s

theorem withObjects {f : Objects → SessionM α} (h : ∀ o, Records (f o)) :
    Records (Session.withObjects f) :=
  get fun s => h s.objects

theorem modify {f : Session → Session} (h : ∀ s, (f s).log = s.log) : Records (modify f) :=
  fun s => ⟨h s, nofun⟩

end Records

/-! ## Settings and environment -/

theorem records_loadSettings : Records loadSettings :=
  .get fun s => .ofExcept (Settings.silent_load s.environment)

theorem records_settings : Records settings := by
  refine .get fun s => ?_
  cases s.cache with
  | some c => exact .pure c
  | none =>
    refine records_loadSettings.bind fun c => ?_
    exact Records.bind (.modify fun _ => rfl) fun _ => .pure c

theorem records_resetSettings : Records resetSettings :=
  .modify fun _ => rfl

theorem records_resolve (choice : Option Bool) : Records (resolve choice) := by
  cases choice with
  | some checked => exact .pure checked
  | none => exact records_settings.bind fun c => .pure c.checked

theorem records_changeEnvironment (f : Environment → Environment) :
    Records (changeEnvironment f) :=
  .modify fun _ => rfl

/-! ## Objects -/

theorem records_newMark : Records newMark :=
  .get fun s => Records.bind (.modify fun _ => rfl) fun _ => .pure s.marks

theorem records_marked (v : Value) : Records (marked v) :=
  records_newMark.bind fun n => .pure (v.marked n)

theorem records_newReport (kind : ReportKind) (given : List Value) :
    Records (newReport kind given) :=
  records_newMark.bind fun _ => Records.bind (.modify fun _ => rfl) fun _ =>
    .pure _

/-- Only what error objects say is ever assigned. -/
theorem Value.log_of_assign {o o' : Objects} {v : Value} {name : Text} {new : Value}
    (h : v.assign o name new = .ok o') : o'.log = o.log := by
  rw [assign.eq_def] at h
  split at h
  · split at h
    · cases h
      rfl
    · split at h
      · cases h
        rfl
      · cases h
        rfl
  · cases h
    rfl
  · split at h
    · cases h
    · cases h
  · split at h
    · cases h
    · cases h
  · split at h
    · cases h
    · cases h
  · cases h

/-- The objects are replaced by those after the assignment, which keep the log. -/
theorem records_assign (v : Value) (name : Text) (new : Value) :
    Records (Session.assign v name new) := by
  intro s
  have hsilent := v.silent_assign s.objects new name
  rw [Session.assign, run_bind, run_withObjects, run_ofExcept]
  cases h : v.assign s.objects name new with
  | error f =>
    rw [h] at hsilent
    have hnoted := Records.ofExcept hsilent s
    rw [run_ofExcept] at hnoted
    exact ⟨hnoted.log_eq, nofun⟩
  | ok o => exact ⟨Value.log_of_assign h, nofun⟩

/-! ## Composites -/

theorem records_ofInts (index row column8 column16 : Int) (checked : Bool) :
    Records (Composite.ofInts index row column8 column16 checked SessionM) :=
  .of_lift (Composite.lift_ofInts index row column8 column16 checked)

theorem records_measure (t : Text) (checked : Bool) : Records (t.measure checked SessionM) :=
  .of_lift (t.lift_measure checked)

theorem records_watched (c : Composite) (choice : Value) : Records (watched c choice) :=
  (Records.ofExcept choice.silent_choiceOf).bind fun choice =>
    (records_resolve choice).bind fun checked => .of_lift (c.lift_withChecked checked)

/-! ## Operations -/

theorem Unary.records_apply (o : Objects) (op : Unary) (v : Value) :
    Records (op.apply o v SessionM) :=
  .of_lift (op.lift_apply o v)

theorem Binary.records_apply (o : Objects) (op : Binary) (v w : Value) :
    Records (op.apply o v w SessionM) :=
  .of_lift (op.lift_apply o v w)

end Caret
