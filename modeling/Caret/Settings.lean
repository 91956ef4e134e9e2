/-
  Settings, which are read from the environment.

  * `Settings`: whether composites are watched unless said otherwise, and from which degree on log
    records are shown;
  * `Settings.load`: the settings of an environment, refused if a value makes no sense;
  * `Settings.readFlag_eq_ok_iff`, `Settings.readLevel_eq_ok_iff`, `Settings.load_eq_ok_iff`: the
    words that make sense, and what they stand for.
-/
import Caret.Environment
import Caret.Log.Severity
import Caret.Text.LetterCase

namespace Caret

/-- The settings of a session. -/
structure Settings where
  /-- Whether composites are watched unless said otherwise. -/
  checked : Bool
  /-- The degree from which on log records are shown. -/
  level : Severity
  deriving DecidableEq

namespace Settings

/-- The variable that says whether composites are watched. -/
def checkedVariable : Text := "TEXTPOS_CHECKED"

/-- The variable that says which log records are shown. -/
def levelVariable : Text := "TEXTPOS_LOG_LEVEL"

/-- The words for yes. -/
def yesWords : List Text := ["1", "true", "yes", "on"]

/-- The words for no; to say nothing is one. -/
def noWords : List Text := ["0", "false", "no", "off", ""]

/-- A word for yes or no. -/
def readFlag (setting word : Text) : Except Fault Bool :=
  if word ∈ yesWords then .ok true
  else if word ∈ noWords then .ok false
  else .error (.badValue (.notAFlag setting word))

theorem not_mem_noWords {word : Text} (h : word ∈ yesWords) : word ∉ noWords := by
  revert word
  decide

/-- Each answer has its own words. -/
theorem readFlag_eq_ok_iff {setting word : Text} {b : Bool} :
    readFlag setting word = .ok b ↔ word ∈ if b then yesWords else noWords := by
  unfold readFlag
  split
  · rename_i hyes
    cases b <;> simp [hyes, not_mem_noWords hyes]
  split
  · rename_i hyes hno
    cases b <;> simp [hyes, hno]
  · rename_i hyes hno
    cases b <;> simp [hyes, hno]

/-- The name of a degree of severity. -/
def readLevel (setting word : Text) : Except Fault Severity :=
  match Severity.ofName? word with
  | some s => .ok s
  | none => .error (.badValue (.notALevel setting word))

/-- The five names alone are read. -/
theorem readLevel_eq_ok_iff {setting word : Text} {s : Severity} :
    readLevel setting word = .ok s ↔ word = s.name := by
  rw [← Severity.ofName?_eq_some_iff, readLevel]
  cases Severity.ofName? word with
  | none => simp
  | some t => simp

/-- The settings of an environment. Blanks around a value and its case do not matter; a variable
    that is not set stands for composites that are not watched, or for warnings and worse. -/
def load (env : Environment) : Except Fault Settings := do
  let flag := (env.get? checkedVariable).getD "false"
  let checked ← readFlag checkedVariable flag.strip.lower
  let name := (env.get? levelVariable).getD "WARNING"
  let level ← readLevel levelVariable name.strip.upper
  return ⟨checked, level⟩

/-- What is read from which words, whatever their case and the blanks around them. -/
theorem load_eq_ok_iff {env : Environment} {s : Settings} :
    load env = .ok s ↔
      ((env.get? checkedVariable).getD "false").strip.lower ∈
        (if s.checked then yesWords else noWords) ∧
      ((env.get? levelVariable).getD "WARNING").strip.upper = s.level.name := by
  rw [← @readFlag_eq_ok_iff checkedVariable, ← @readLevel_eq_ok_iff levelVariable]
  cases hflag : readFlag checkedVariable ((env.get? checkedVariable).getD "false").strip.lower with
  | error f => simp [load, hflag, bind, Except.bind]
  | ok checked =>
    cases hlevel :
        readLevel levelVariable ((env.get? levelVariable).getD "WARNING").strip.upper with
    | error f => simp [load, hflag, hlevel, bind, Except.bind]
    | ok level =>
      obtain ⟨checked', level'⟩ := s
      simp [load, hflag, hlevel, bind, Except.bind, pure, Except.pure]

end Settings

end Caret
