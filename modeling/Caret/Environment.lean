/-
  The environment: variables with names and values that are bytes.

  * `Environment`: the variables that are set, with their values;
  * `Environment.kept`: a text as it comes back from the environment;
  * `get?`, `set`, `unset`: the value of a variable, a new one, and none.
-/
import Caret.Fault
import Caret.Text.RawBytes

namespace Caret

/-- The variables that are set, with their values. -/
abbrev Environment := List (Text × Text)

namespace Environment

/-- A text as it comes back from the environment, which keeps nothing but bytes. -/
def kept (t : Text) : Except Fault Text :=
  match t.toBytes with
  | .ok bytes => .ok (.ofBytes bytes)
  | .error r => .error (.unencodable r)

/-- The value of a variable, if it is set. -/
def get? (env : Environment) (name : Text) : Option Text :=
  List.lookup name env

/-- The environment without a variable. -/
def unset (env : Environment) (name : Text) : Environment :=
  env.filter (·.1 ≠ name)

/-- Whether a zero byte ends a text before its end. -/
def hasZeroByte (t : Text) : Bool :=
  t.any (·.val = 0)

/-- The environment with a variable set to a value. A zero byte ends names and values, and an
    equality sign ends names, so that neither can be part of them; and there is no variable without
    a name. -/
def set (env : Environment) (name value : Text) : Except Fault Environment :=
  if hasZeroByte name || hasZeroByte value then .error (.badValue .zeroByte)
  else if name.any (· = CodePoint.ofChar '=') then .error (.badValue .variableName)
  else if name = [] then .error .unnamed
  else .ok ((name, value) :: env.unset name)

/-- The environment with given variables, as far as they can be set. -/
def ofList (pairs : List (Text × Text)) : Environment :=
  pairs.foldl (fun env (name, value) =>
    match do set env (← kept name) (← kept value) with
    | .ok env => env
    | .error _ => env) []

end Environment

end Caret
