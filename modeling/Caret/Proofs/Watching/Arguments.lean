/-
  Arguments of requests that leave it open whether composites are watched.

  * `Expr.leavesOpen`: nowhere in an argument checking is asked for;
  * `Expr.eval_parallel`: such an argument has the same value in twin sessions.
-/
import Caret.Proofs.Watching.Sessions

namespace Caret

open Session

/-! ## Leaving it open -/

/-- A choice of checking that does not ask for it: nothing, or a plain no. -/
def Expr.declines : Expr → Bool
  | .data .null | .data (.bool false) => true
  | _ => false

/-- The place of the choice of checking among the values that something is built from. -/
def Builder.choicePlace? : Builder → Option Nat
  | .numbers => some 4
  | .parts given => given.idxOf? .checked
  | _ => none

/-- Something built from arguments does not ask for checking, and is no error object. -/
def Builder.leavesOpen (b : Builder) (args : List Expr) : Bool :=
  match b with
  | .report _ => false
  | b => (b.choicePlace?.bind (args[·]?)).all Expr.declines

mutual

/-- Nowhere in an argument checking is asked for, or an error object made. -/
def Expr.leavesOpen : Expr → Bool
  | .data _ | .ref _ => true
  | .list items => allLeaveOpen items
  | .build b args => b.leavesOpen args && allLeaveOpen args

/-- The same for several arguments. -/
def allLeaveOpen : List Expr → Bool
  | [] => true
  | e :: rest => e.leavesOpen && allLeaveOpen rest

end

/-! ## Given data and earlier answers -/

namespace Datum

mutual

/-- Composites have to be built, so that in plain data nothing is watched. -/
theorem toValue_unwatched : (d : Datum) → d.toValue.unwatched = d.toValue
  | null | bool _ | int _ | float _ | text _ | cls _ => rfl
  | list items => by
    rw [toValue, Value.unwatched, toValues_unwatched items]
  | object entries => by
    rw [toValue, Value.unwatched, toEntries_unwatched entries]

theorem toValues_unwatched :
    (items : List Datum) → Value.unwatchedItems (toValues items) = toValues items
  | [] => rfl
  | d :: rest => by
    rw [toValues, Value.unwatchedItems, toValue_unwatched d, toValues_unwatched rest]

theorem toEntries_unwatched :
    (entries : List (Text × Datum)) →
      Value.unwatchedEntries (toEntries entries) = toEntries entries
  | [] => rfl
  | (key, d) :: rest => by
    rw [toEntries, Value.unwatchedEntries, toValue_unwatched d, toEntries_unwatched rest]

end

end Datum

theorem answered_lenient (past : List (Option Value)) (step : Int) :
    Lenient Value.unwatched (answered (past.map (Option.map Value.unwatched)) step)
      (answered past step) := by
  rw [answered, answered, List.getElem?_map]
  by_cases h : step < 0
  · rw [if_pos h, if_pos h]
    exact .error _ _
  · rw [if_neg h, if_neg h]
    cases past[step.toNat]? with
    | none => exact .error _ _
    | some v? =>
      cases v? with
      | none => exact .error _ _
      | some v => exact .ok Value.unwatched v

/-! ## Building -/

theorem lookup_zip {κ α : Type} [BEq κ] [LawfulBEq κ] (keys : List κ) (items : List α) (key : κ) :
    (keys.zip items).lookup key = (keys.idxOf? key).bind (items[·]?) := by
  induction keys generalizing items with
  | nil => rfl
  | cons k keys ih =>
    cases items with
    | nil => simp
    | cons a items =>
      rw [List.zip_cons_cons, List.lookup_cons, List.idxOf?_cons, ih]
      by_cases h : k = key
      · simp [h]
      · rw [beq_false_of_ne (Ne.symm h), if_neg (by simpa using h)]
        cases keys.idxOf? key <;> rfl

theorem getElem?_unwatchedItems (items : List Value) (i : Nat) :
    (Value.unwatchedItems items)[i]? = items[i]?.map Value.unwatched := by
  rw [Value.unwatchedItems_eq_map, List.getElem?_map]

theorem getD_unwatchedItems (items : List Value) (i : Nat) {v : Value} (h : v.unwatched = v) :
    (Value.unwatchedItems items).getD i v = (items.getD i v).unwatched := by
  rw [List.getD_eq_getElem?_getD, List.getD_eq_getElem?_getD, getElem?_unwatchedItems]
  cases items[i]? with
  | none => exact h.symm
  | some w => rfl

theorem partGiven_unwatched (given : List CompositePart) (args : List Value)
    (part : CompositePart) :
    partGiven (given.zip (Value.unwatchedItems args)) part =
      (partGiven (given.zip args) part).unwatched := by
  unfold partGiven
  rw [lookup_zip, lookup_zip]
  cases given.idxOf? part with
  | none => cases part <;> rfl
  | some i =>
    rw [Option.bind_some, Option.bind_some, getElem?_unwatchedItems]
    cases args[i]? with
    | none => cases part <;> rfl
    | some v => rfl

theorem eq_some_of_getD_eq {v? : Option Value} (h : v?.getD .null = .bool true) :
    v? = some (.bool true) := by
  cases v? with
  | none => cases h
  | some v => exact congrArg some h

theorem Builder.build_parallel (b : Builder) (args : List Value) (hb : ∀ k, b ≠ .report k)
    (hchoice : b.choicePlace?.bind (args[·]?) ≠ some (.bool true)) :
    Parallel Value.unwatched (b.build (Value.unwatchedItems args)) (b.build args) := by
  have number (i : Nat) : (Value.unwatchedItems args).getD i (.int 0) =
      (args.getD i (.int 0)).unwatched := getD_unwatchedItems args i rfl
  have other (i : Nat) : (Value.unwatchedItems args).getD i .null =
      (args.getD i .null).unwatched := getD_unwatchedItems args i rfl
  cases b with
  | byteIndex =>
    simp only [build, number, Value.byteIndexOf_unwatched]
    exact (Parallel.ofExcept (.refl _)).map fun _ => rfl
  | rowColumn u =>
    simp only [build, number, Value.rowColumnOf_unwatched]
    exact (Parallel.ofExcept (.refl _)).map fun _ => rfl
  | noUnit => exact .ofExcept (.error _ _)
  | numbers =>
    simp only [build, number, other]
    refine (Parallel.ofExcept (Value.numbersOf_lenient _ _ _ _)).bind fun c _ => ?_
    exact (watched_parallel c fun h => hchoice (eq_some_of_getD_eq h)).map fun _ => rfl
  | parts given =>
    simp only [build, partGiven_unwatched]
    refine (Parallel.ofExcept (Value.partsOf_lenient _ _ _)).bind fun c _ => ?_
    refine (watched_parallel c fun h => hchoice ?_).map fun _ => rfl
    exact (lookup_zip given args .checked).symm.trans (eq_some_of_getD_eq h)
  | range =>
    simp only [build, other]
    have hrange := Value.rangeOf_lenient (args.getD 0 .null) (args.getD 1 .null)
    exact (Parallel.of_lift (Value.lift_rangeOf _ _) (Value.lift_rangeOf _ _) hrange).map
      fun _ => rfl
  | config =>
    simp only [build, other]
    exact marked_parallel (.config none _ _)
  | report k => exact absurd rfl (hb k)

/-! ## Values of arguments -/

theorem Expr.returns_of_declines {e : Expr} (he : e.declines) {v : Value}
    (h : Returns e.eval v) : v ≠ .bool true := by
  match e with
  | .data .null =>
    obtain ⟨n, -, h⟩ := Returns.bind h
    rw [returns_pure_iff.1 h]
    nofun
  | .data (.bool false) =>
    obtain ⟨n, -, h⟩ := Returns.bind h
    rw [returns_pure_iff.1 h]
    nofun

theorem returns_evalAll {args : List Expr} {vs : List Value} (h : Returns (evalAll args) vs)
    {i : Nat} {v : Value} (hv : vs[i]? = some v) : ∃ e, args[i]? = some e ∧ Returns e.eval v := by
  induction args generalizing vs i with
  | nil =>
    obtain rfl := returns_pure_iff.1 h
    cases hv
  | cons e rest ih =>
    obtain ⟨w, hw, h⟩ := Returns.bind h
    obtain ⟨ws, hws, h⟩ := Returns.bind h
    obtain rfl := returns_pure_iff.1 h
    cases i with
    | zero =>
      obtain rfl := Option.some.inj hv
      exact ⟨e, rfl, hw⟩
    | succ i => exact ih hws hv

theorem Builder.leavesOpen_iff {b : Builder} {args : List Expr} :
    b.leavesOpen args ↔ (∀ k, b ≠ .report k) ∧
      ∀ e, b.choicePlace?.bind (args[·]?) = some e → e.declines := by
  cases b <;> simp [leavesOpen, choicePlace?, Option.all_eq_true]

mutual

/-- The value of an argument without watching. -/
theorem Expr.eval_parallel : (e : Expr) → e.leavesOpen → Parallel Value.unwatched e.eval e.eval
  | .data d, _ => by
    have h := marked_parallel d.toValue
    rwa [d.toValue_unwatched] at h
  | .list items, h => (evalAll_parallel items h).bind fun vs _ => marked_parallel (.list none vs)
  | .ref step, _ => .get fun s t hst => by
    rw [hst.past_eq]
    exact .ofExcept (answered_lenient t.past step)
  | .build b args, h => by
    obtain ⟨hb, hargs⟩ := Bool.and_eq_true_iff.1 h
    obtain ⟨hreport, hchoice⟩ := Builder.leavesOpen_iff.1 hb
    refine (evalAll_parallel args hargs).bind fun vs hvs => b.build_parallel vs hreport ?_
    -- a yes among the values would be that of an argument that declines
    intro hasked
    obtain ⟨i, hi, hv⟩ := Option.bind_eq_some_iff.1 hasked
    obtain ⟨e, he, hreturns⟩ := returns_evalAll hvs hv
    exact e.returns_of_declines (hchoice e (Option.bind_eq_some_iff.2 ⟨i, hi, he⟩)) hreturns rfl

theorem evalAll_parallel :
    (args : List Expr) → allLeaveOpen args →
      Parallel Value.unwatchedItems (evalAll args) (evalAll args)
  | [], _ => .pure Value.unwatchedItems []
  | e :: rest, h => by
    obtain ⟨he, hrest⟩ := Bool.and_eq_true_iff.1 h
    refine (e.eval_parallel he).bind fun v _ => ?_
    exact (evalAll_parallel rest hrest).map fun _ => rfl

end

end Caret
