/-
  Answers: what values are like at a time, with everything that they hold.

  * `Answer`: a value with what its objects said when it was given;
  * `Value.answer`: the answer for a value;
  * `Refusal`: why there is no answer;
  * `Outcome`: what a request comes to.
-/
import Caret.Value.Objects

namespace Caret

/-- What a value is like at a time. Lists and tuples are answered alike, and classes not at all. -/
inductive Answer
  /-- Nothing. -/
  | null
  /-- A truth value. -/
  | bool (b : Bool)
  /-- An integer. -/
  | int (n : Int)
  /-- A number with a fraction. -/
  | float (x : Binary64)
  /-- A text. -/
  | text (t : Text)
  /-- Several items. -/
  | list (items : List Answer)
  /-- An object with keys, in the order in which they were given. -/
  | object (entries : List (Text × Answer))
  /-- A position. -/
  | position (p : Position)
  /-- A range. -/
  | range (r : PositionRange)
  /-- A record of settings. -/
  | config (checked level : Answer)
  /-- An error object with what it said. -/
  | report (kind : ReportKind) (message hint : Answer)
  /-- A logger with its level and its handlers. -/
  | logger (g : Logger)

instance : Inhabited Answer := ⟨.null⟩

namespace Value

/-- A way to answer for an error object, by its mark. -/
abbrev ReportAnswerer := (mark : Nat) → ReportKind → Except Fault Answer

mutual

/-- The answer for a value, given that for error objects. -/
def answerWith (log : Log) (report : ReportAnswerer) : Value → Except Fault Answer
  | null | cls _ => .ok .null
  | bool b => .ok (.bool b)
  | int n => .ok (.int n)
  | float _ x => .ok (.float x)
  | text t => .ok (.text t)
  | list _ items | tuple items => return .list (← answerItems log report items)
  | object entries => return .object (← answerEntries log report entries)
  | position p => .ok (.position p)
  | range r => .ok (.range r)
  | config _ checked level => do
    let checked ← answerWith log report checked
    let level ← answerWith log report level
    return .config checked level
  | .report mark kind => report mark kind
  | logger name => .ok (.logger (log.logger name))

/-- The answers for items. -/
def answerItems (log : Log) (report : ReportAnswerer) : List Value → Except Fault (List Answer)
  | [] => return []
  | item :: rest => do
    let item ← answerWith log report item
    let rest ← answerItems log report rest
    return item :: rest

/-- The answers under the same keys. -/
def answerEntries (log : Log) (report : ReportAnswerer) :
    List (Text × Value) → Except Fault (List (Text × Answer))
  | [] => return []
  | (key, item) :: rest => do
    let item ← answerWith log report item
    let rest ← answerEntries log report rest
    return (key, item) :: rest

end

/-- The answer for an error object, where at most `depth` others are entered from it. -/
def answerReport (o : Objects) : (depth : Nat) → ReportAnswerer
  | 0, _, _ => .error (.endless .answer)
  | depth + 1, mark, kind => do
    let c := o.contents mark
    let message ← answerWith o.log (answerReport o depth) c.message
    let hint ← answerWith o.log (answerReport o depth) c.hint
    return .report kind message hint

/-- The answer for a value. For what holds itself there is none. -/
def answer (o : Objects) : Value → Except Fault Answer :=
  answerWith o.log (answerReport o o.reports.length)

end Value

/-! ## Outcomes -/

/-- Why a request has no answer. -/
inductive Refusal
  /-- Something went wrong. -/
  | fault (f : Fault)
  /-- An error object was raised: its kind, what it displayed, and its hint. -/
  | raised (kind : ReportKind) (message : Text) (hint : Answer)

/-- What a request comes to: an answer, or why there is none. -/
abbrev Outcome := Except Refusal Answer

end Caret
