/-
  The six comparisons, and what each of them means on the outcome of an ordering.

  * `Comparison`: equal, different, less, at most, greater, at least;
  * `Comparison.symbol`: how messages write it;
  * `Comparison.holds`: whether it holds for two things ordered in a given way.
-/
import Caret.Text

namespace Caret

/-- A comparison of two things. -/
inductive Comparison
  /-- The same. -/
  | eq
  /-- Not the same. -/
  | ne
  /-- Before. -/
  | lt
  /-- Before or the same. -/
  | le
  /-- After. -/
  | gt
  /-- After or the same. -/
  | ge
  deriving DecidableEq

namespace Comparison

/-- The comparison as it is written in messages. -/
def symbol : Comparison → Text
  | eq => "=="
  | ne => "!="
  | lt => "<"
  | le => "<="
  | gt => ">"
  | ge => ">="

/-- Whether the comparison holds for two things whose order is known. -/
def holds : Comparison → Ordering → Bool
  | eq, o => o == .eq
  | ne, o => o != .eq
  | lt, o => o == .lt
  | le, o => o != .gt
  | gt, o => o == .gt
  | ge, o => o != .lt

end Comparison

end Caret
