/-
  Objects that change while values stand for them: error objects and the log.

  * `Contents`: what an error object says;
  * `Objects`: the objects as they are by now;
  * `Objects.contents`, `Objects.withContents`: what an error object says, and a change of it.
-/
import Caret.Value

namespace Caret

/-- What an error object says, and what it was made from, which stays. Any values can be said, also
    such as hold the object itself. -/
structure Contents where
  /-- What is wrong. -/
  message : Value
  /-- What to do about it, or nothing. -/
  hint : Value
  /-- The values that the object was made from. -/
  given : List Value

/-- The objects that values stand for, as they are by now. -/
structure Objects where
  /-- The log. -/
  log : Log
  /-- What the error objects say, by their marks. -/
  reports : List (Nat × Contents)

namespace Objects

/-- The objects before there are error objects. -/
def initial : Objects := ⟨.initial, []⟩

/-- What an error object says. -/
def contents (o : Objects) (mark : Nat) : Contents :=
  (o.reports.lookup mark).getD ⟨.null, .null, []⟩

/-- The objects after an error object has come to say something. -/
def withContents (o : Objects) (mark : Nat) (c : Contents) : Objects :=
  { o with reports := (mark, c) :: o.reports.filter (·.1 != mark) }

end Objects

end Caret
