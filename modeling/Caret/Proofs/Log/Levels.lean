/-
  The level that the log is set up at.

  It is asked of a record of settings, which can hold anything in its place, or else of the settings
  of the session.

  * `Value.level?`, `Value.toOption_asLevel`: the level that a value stands for, if it does;
  * `Value.givenLevel?`, `Session.toOption_run_levelOf`: the level that the log is set up at for a
    given value, and nothing but records of settings gives one;
  * `Step.setUp?`, `Session.toOption_run_givenLevel`: the same for a request.
-/
import Caret.Proofs.Settings.Caching

namespace Caret

open Session

/-! ## Levels -/

namespace Value

/-- The level that a value stands for: an integer, a truth value, or the name of a level. -/
def level? : Value → Option Level
  | int n => some (.number n)
  | bool b => some (.flag b)
  | text t => (Severity.levelOf? t).map .number
  | _ => none

/-- What stands for no level is displayed and written before it is refused, which may be refused
    itself. -/
theorem toOption_asLevel (o : Objects) (v : Value) : (v.asLevel o).toOption = v.level? := by
  have hrefused : (do
      let _ ← v.display o
      throw (Fault.mismatch (.level (← v.written o)))).toOption = (none : Option Level) := by
    cases v.display o with
    | error f => rfl
    | ok t => cases v.written o <;> rfl
  cases v with
  | int n => rfl
  | bool b => rfl
  | text t =>
    rw [asLevel, level?]
    cases Severity.levelOf? t <;> rfl
  | _ => exact hrefused

/-! ## Records of settings -/

/-- The level that the log is set up at for a given value: that of a record of settings, or without
    one that of the settings which the session keeps once it is asked for them. -/
def givenLevel? (s : Session) : Value → Option Level
  | null => s.kept.map (.number ·.level.number)
  | config _ _ level => level.level?
  | _ => none

/-- Nothing but records of settings has an attribute of that name. -/
theorem givenLevel?_of_ne_null {v : Value} (hv : v ≠ null) (s : Session) :
    v.givenLevel? s = (v.get s.objects "log_level").toOption.bind level? := by
  cases v with
  | null => exact absurd rfl hv
  | position p =>
    obtain ⟨k, p⟩ := p
    cases k <;> rfl
  | cls c => cases c <;> rfl
  | _ => rfl

end Value

namespace Session

theorem toOption_run_ofExcept {α : Type} (x : Except Fault α) (s : Session) :
    ((ofExcept x : SessionM α).run.run s).1.toOption = x.toOption := by
  cases x <;> rfl

theorem toOption_run_settings (s : Session) : (settings.run.run s).1.toOption = s.kept := by
  refine Option.ext fun c => ?_
  rw [Except.toOption_eq_some_iff, run_settings_eq_ok_iff]

theorem toOption_run_levelOf (v : Value) (s : Session) :
    ((levelOf v).run.run s).1.toOption = v.givenLevel? s := by
  rw [levelOf.eq_def]
  split
  · rw [run_bind, Value.givenLevel?, ← toOption_run_settings]
    rcases settings.run.run s with ⟨r | c, s'⟩ <;> rfl
  · rename_i hv
    rw [run_withObjects, toOption_run_ofExcept, Value.givenLevel?_of_ne_null hv]
    cases v.get s.objects "log_level" with
    | error f => rfl
    | ok level => exact level.toOption_asLevel s.objects

end Session

/-! ## Requests -/

/-- The level that a request sets the log up at, if it does so. -/
def Step.setUp? : Step → Session → Option Level
  | .setUpLog config, s =>
    match (evalOr .null config).run.run s with
    | (.ok v, s') => v.givenLevel? s'
    | (.error _, _) => none
  | _, _ => none

theorem Session.toOption_run_givenLevel (config : Option Expr) (s : Session) :
    ((evalOr .null config >>= levelOf).run.run s).1.toOption = (Step.setUpLog config).setUp? s := by
  rw [run_bind, Step.setUp?]
  rcases (evalOr .null config).run.run s with ⟨r | v, s'⟩
  · rfl
  · exact toOption_run_levelOf v s'

end Caret
