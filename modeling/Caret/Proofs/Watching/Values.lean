/-
  Values in which nothing is watched.

  * `Value.unwatched`, `Answer.unwatched`: the same value or answer, without a watched composite;
  * `written_unwatched`, `display_unwatched`: the forms of a value do not tell;
  * `answer_unwatched`: neither does the answer for it, but for what is watched in that.
-/
import Caret.Answer
import Caret.Proofs.Watching.AnyKind
import Caret.Value.Written

namespace Caret

/-! ## Values -/

namespace Value

mutual

/-- The same value, with no composite in it watched. -/
def unwatched : Value → Value
  | null => null
  | bool b => bool b
  | int n => int n
  | float mark x => float mark x
  | text t => text t
  | list mark items => list mark (unwatchedItems items)
  | tuple items => tuple (unwatchedItems items)
  | object entries => object (unwatchedEntries entries)
  | cls c => cls c
  | position p => position p.unwatched
  | range r => range r.unwatched
  | config mark checked level => config mark (unwatched checked) (unwatched level)
  | .report mark kind => .report mark kind
  | logger name => logger name

/-- The same items, with no composite in them watched. -/
def unwatchedItems : List Value → List Value
  | [] => []
  | item :: rest => unwatched item :: unwatchedItems rest

/-- The same entries, with no composite in them watched. -/
def unwatchedEntries : List (Text × Value) → List (Text × Value)
  | [] => []
  | (key, item) :: rest => (key, unwatched item) :: unwatchedEntries rest

end

theorem unwatchedItems_eq_map (items : List Value) :
    unwatchedItems items = items.map unwatched := by
  induction items with
  | nil => rfl
  | cons item rest ih => rw [unwatchedItems, ih, List.map_cons]

theorem unwatchedEntries_eq_map (entries : List (Text × Value)) :
    unwatchedEntries entries = entries.map fun (key, item) => (key, item.unwatched) := by
  induction entries with
  | nil => rfl
  | cons entry rest ih => rw [unwatchedEntries, ih, List.map_cons]

@[simp]
theorem length_unwatchedItems (items : List Value) :
    (unwatchedItems items).length = items.length := by
  rw [unwatchedItems_eq_map, List.length_map]

@[simp]
theorem length_unwatchedEntries (entries : List (Text × Value)) :
    (unwatchedEntries entries).length = entries.length := by
  rw [unwatchedEntries_eq_map, List.length_map]

theorem lookup_unwatchedEntries (entries : List (Text × Value)) (key : Text) :
    (unwatchedEntries entries).lookup key = (entries.lookup key).map unwatched := by
  induction entries with
  | nil => rfl
  | cons entry rest ih =>
    rw [unwatchedEntries, List.lookup_cons, List.lookup_cons, ih]
    split <;> rfl

@[simp]
theorem kindName_unwatched (v : Value) : v.unwatched.kindName = v.kindName := by
  cases v <;> rfl

@[simp]
theorem mark?_unwatched (v : Value) : v.unwatched.mark? = v.mark? := by
  cases v <;> rfl

@[simp]
theorem isSelf_unwatched (v w : Value) : v.unwatched.isSelf w.unwatched = v.isSelf w := by
  rw [isSelf, isSelf, mark?_unwatched, mark?_unwatched]

theorem marked_unwatched (v : Value) (n : Nat) :
    v.unwatched.marked n = (v.marked n).unwatched := by
  cases v with
  | float mark => cases mark <;> rfl
  | list mark => cases mark <;> rfl
  | config mark => cases mark <;> rfl
  | _ => rfl

@[simp]
theorem number?_unwatched (v : Value) : v.unwatched.number? = v.number? := by
  cases v <;> rfl

/-! ## The forms of values -/

mutual

theorem writtenWithin_unwatched (log : Log) (report : ReportWriter) (inside : List Nat) :
    (v : Value) → writtenWithin log report inside v.unwatched = writtenWithin log report inside v
  | null | bool _ | int _ | float _ _ | text _ | cls _ | .report _ _ | logger _ => rfl
  | position p => congrArg Except.ok p.written_unwatched
  | range r => congrArg Except.ok r.written_unwatched
  | list mark items => by
    rw [unwatched, writtenWithin, writtenWithin, writtenItems_unwatched log report _ items]
  | tuple [] => rfl
  | tuple [item] => by
    rw [unwatched, unwatchedItems, unwatchedItems, writtenWithin, writtenWithin,
      writtenWithin_unwatched log report inside item]
  | tuple (item :: item' :: rest) =>
    congrArg (fun x => (do return Text.join ["(", Text.joinWith ", " (← x), ")"]))
      (writtenItems_unwatched log report inside (item :: item' :: rest))
  | object entries => by
    rw [unwatched, writtenWithin, writtenWithin, writtenEntries_unwatched log report inside entries]
  | config mark checked level => by
    rw [unwatched, writtenWithin, writtenWithin, writtenWithin_unwatched log report _ checked,
      writtenWithin_unwatched log report _ level]

theorem writtenItems_unwatched (log : Log) (report : ReportWriter) (inside : List Nat) :
    (items : List Value) →
      writtenItems log report inside (unwatchedItems items) = writtenItems log report inside items
  | [] => rfl
  | item :: rest => by
    rw [unwatchedItems, writtenItems, writtenItems, writtenWithin_unwatched log report inside item,
      writtenItems_unwatched log report inside rest]

theorem writtenEntries_unwatched (log : Log) (report : ReportWriter) (inside : List Nat) :
    (entries : List (Text × Value)) →
      writtenEntries log report inside (unwatchedEntries entries) =
        writtenEntries log report inside entries
  | [] => rfl
  | (key, item) :: rest => by
    rw [unwatchedEntries, writtenEntries, writtenEntries,
      writtenWithin_unwatched log report inside item,
      writtenEntries_unwatched log report inside rest]

end

@[simp]
theorem written_unwatched (o : Objects) (v : Value) : v.unwatched.written o = v.written o :=
  writtenWithin_unwatched o.log _ [] v

theorem displayWith_unwatched (o : Objects) (report : Nat → Except Fault Text) (v : Value) :
    displayWith o report v.unwatched = displayWith o report v := by
  cases v with
  | text t => rfl
  | position p => exact congrArg Except.ok p.display_unwatched
  | range r => exact congrArg Except.ok r.display_unwatched
  | report mark kind => rfl
  | null => rfl
  | bool b => rfl
  | int n => rfl
  | float mark x => rfl
  | cls c => rfl
  | logger name => rfl
  | list mark items => exact written_unwatched o (.list mark items)
  | tuple items => exact written_unwatched o (.tuple items)
  | object entries => exact written_unwatched o (.object entries)
  | config mark checked level => exact written_unwatched o (.config mark checked level)

@[simp]
theorem display_unwatched (o : Objects) (v : Value) : v.unwatched.display o = v.display o :=
  displayWith_unwatched o _ v

end Value

/-! ## Answers -/

namespace Answer

mutual

/-- The same answer, with no composite in it watched. -/
def unwatched : Answer → Answer
  | null => null
  | bool b => bool b
  | int n => int n
  | float x => float x
  | text t => text t
  | list items => list (unwatchedItems items)
  | object entries => object (unwatchedEntries entries)
  | position p => position p.unwatched
  | range r => range r.unwatched
  | config checked level => config (unwatched checked) (unwatched level)
  | .report kind message hint => .report kind (unwatched message) (unwatched hint)
  | logger g => logger g

/-- The same items, with no composite in them watched. -/
def unwatchedItems : List Answer → List Answer
  | [] => []
  | item :: rest => unwatched item :: unwatchedItems rest

/-- The same entries, with no composite in them watched. -/
def unwatchedEntries : List (Text × Answer) → List (Text × Answer)
  | [] => []
  | (key, item) :: rest => (key, unwatched item) :: unwatchedEntries rest

end

end Answer

namespace Value

mutual

theorem answerWith_unwatched (log : Log) {report : ReportAnswerer}
    (h : ∀ mark kind, report mark kind = (report mark kind).map Answer.unwatched) :
    (v : Value) →
      answerWith log report v.unwatched = (answerWith log report v).map Answer.unwatched
  | null | bool _ | int _ | float _ _ | text _ | cls _ | logger _ | position _ | range _ => rfl
  | .report mark kind => h mark kind
  | list mark items => by
    rw [unwatched, answerWith, answerWith, answerItems_unwatched log h items]
    cases answerItems log report items <;> rfl
  | tuple items => by
    rw [unwatched, answerWith, answerWith, answerItems_unwatched log h items]
    cases answerItems log report items <;> rfl
  | object entries => by
    rw [unwatched, answerWith, answerWith, answerEntries_unwatched log h entries]
    cases answerEntries log report entries <;> rfl
  | config mark checked level => by
    rw [unwatched, answerWith, answerWith, answerWith_unwatched log h checked,
      answerWith_unwatched log h level]
    cases answerWith log report checked
    · rfl
    · cases answerWith log report level <;> rfl

theorem answerItems_unwatched (log : Log) {report : ReportAnswerer}
    (h : ∀ mark kind, report mark kind = (report mark kind).map Answer.unwatched) :
    (items : List Value) →
      answerItems log report (unwatchedItems items) =
        (answerItems log report items).map Answer.unwatchedItems
  | [] => rfl
  | item :: rest => by
    rw [unwatchedItems, answerItems, answerItems, answerWith_unwatched log h item,
      answerItems_unwatched log h rest]
    cases answerWith log report item
    · rfl
    · cases answerItems log report rest <;> rfl

theorem answerEntries_unwatched (log : Log) {report : ReportAnswerer}
    (h : ∀ mark kind, report mark kind = (report mark kind).map Answer.unwatched) :
    (entries : List (Text × Value)) →
      answerEntries log report (unwatchedEntries entries) =
        (answerEntries log report entries).map Answer.unwatchedEntries
  | [] => rfl
  | (key, item) :: rest => by
    rw [unwatchedEntries, answerEntries, answerEntries, answerWith_unwatched log h item,
      answerEntries_unwatched log h rest]
    cases answerWith log report item
    · rfl
    · cases answerEntries log report rest <;> rfl

end

/-- As long as there are no error objects, the answer for a value that is not watched is that for
    the value, with nothing in it watched. -/
theorem answer_unwatched {o : Objects} (h : o.reports = []) (v : Value) :
    v.unwatched.answer o = (v.answer o).map Answer.unwatched := by
  refine answerWith_unwatched o.log (fun mark kind => ?_) v
  rw [h]
  rfl

end Value

end Caret
