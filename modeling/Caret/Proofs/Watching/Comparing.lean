/-
  Comparing values, and choosing among them, without watching.

  * `same_lenient`, `ordered_lenient`, `test_lenient`: the comparisons of values;
  * `greatest_lenient`, `least_lenient`, `sort_lenient`, `distinct_lenient`: what is chosen by them.
-/
import Caret.Proofs.Watching.Values
import Caret.Value.Choosing

namespace Caret.Value

/-! ## Whether values are the same -/

/-- What is done only with items that are not one does not depend on who asks whether they are. -/
theorem oneOr_lenient {x y : Except Fault Bool} (a b : Value) (h : Lenient id x y) :
    Lenient id (if a.unwatched.isSelf b.unwatched then .ok true else x)
      (if a.isSelf b then .ok true else y) := by
  rw [isSelf_unwatched]
  split
  · exact .ok id true
  · exact h

mutual

theorem sameWith_lenient (reports : ReportComparer (Except Fault)) :
    (a b : Value) → Lenient id (sameWith reports a.unwatched b.unwatched) (sameWith reports a b)
  -- values of two kinds, and values without parts, are compared without asking positions
  | null, b | bool _, b | int _, b | float _ _, b | text _, b | cls _, b | logger _, b
  | .report _ _, b => by
    cases b <;> exact .refl _
  | list _ as, b => by
    cases b with
    | list mark bs =>
      rw [unwatched, unwatched, sameWith, sameWith, length_unwatchedItems, length_unwatchedItems]
      split
      · exact sameItems_lenient reports as bs
      · exact .ok id false
    | _ => exact .refl _
  | tuple as, b => by
    cases b with
    | tuple bs => exact sameItems_lenient reports as bs
    | _ => exact .refl _
  | object as, b => by
    cases b with
    | object bs =>
      rw [unwatched, unwatched, sameWith, sameWith, length_unwatchedEntries,
        length_unwatchedEntries]
      split
      · exact sameEntries_lenient reports as bs
      · exact .ok id false
    | _ => exact .refl _
  | position p, b => by
    cases b with
    | position q => exact p.test_lenient .eq q
    | _ => exact .refl _
  | range r, b => by
    cases b with
    | range s => exact r.test_lenient .eq s
    | _ => exact .refl _
  | config _ a l, b => by
    cases b with
    | config _ b m =>
      refine .next (oneOr_lenient a b (sameWith_lenient reports a b)) fun same => ?_
      cases same with
      | true => exact oneOr_lenient l m (sameWith_lenient reports l m)
      | false => exact .ok id false
    | _ => exact .refl _

theorem sameItems_lenient (reports : ReportComparer (Except Fault)) :
    (as bs : List Value) →
      Lenient id (sameItems reports (unwatchedItems as) (unwatchedItems bs))
        (sameItems reports as bs)
  | [], [] | [], _ :: _ | _ :: _, [] => .refl _
  | a :: as, b :: bs => by
    refine .next (oneOr_lenient a b (sameWith_lenient reports a b)) fun same => ?_
    cases same with
    | true => exact sameItems_lenient reports as bs
    | false => exact .ok id false

theorem sameEntries_lenient (reports : ReportComparer (Except Fault)) :
    (as bs : List (Text × Value)) →
      Lenient id (sameEntries reports (unwatchedEntries as) (unwatchedEntries bs))
        (sameEntries reports as bs)
  | [], _ => .ok id true
  | (key, a) :: rest, bs => by
    rw [unwatchedEntries, sameEntries, sameEntries, lookup_unwatchedEntries]
    cases bs.lookup key with
    | none => exact .ok id false
    | some b =>
      refine .next (sameWith_lenient reports a b) fun same => ?_
      cases same with
      | true => exact sameEntries_lenient reports rest bs
      | false => exact .ok id false

end

theorem same_lenient (o : Objects) (a b : Value) :
    Lenient id (same o a.unwatched b.unwatched) (same o a b) :=
  sameWith_lenient _ a b

/-! ## Which value is less -/

mutual

theorem ordered_lenient (o : Objects) (c : Comparison) :
    (a b : Value) → Lenient id (ordered o c a.unwatched b.unwatched) (ordered o c a b)
  | null, b | bool _, b | int _, b | float _ _, b | text _, b | cls _, b | logger _, b
  | .report _ _, b | object _, b | config _ _ _, b => by
    cases b <;> exact .refl _
  | list _ as, b => by
    cases b with
    | list _ bs => exact orderedItems_lenient o c as bs
    | _ => exact .refl _
  | tuple as, b => by
    cases b with
    | tuple bs => exact orderedItems_lenient o c as bs
    | _ => exact .refl _
  | position p, b => by
    cases b with
    | position q => exact p.test_lenient c q
    | _ => exact .refl _
  | range r, b => by
    cases b with
    | range s => exact r.test_lenient c s
    | _ => exact .refl _

theorem orderedItems_lenient (o : Objects) (c : Comparison) :
    (as bs : List Value) →
      Lenient id (orderedItems o c (unwatchedItems as) (unwatchedItems bs)) (orderedItems o c as bs)
  | [], bs => by
    cases bs with
    | nil => exact .refl _
    | cons b bs =>
      show Lenient id (.ok (c.holds (compare 0 ((unwatchedItems bs).length + 1)))) _
      rw [length_unwatchedItems]
      exact .refl _
  | a :: as, [] => by
    show Lenient id (.ok (c.holds (compare ((unwatchedItems as).length + 1) 0))) _
    rw [length_unwatchedItems]
    exact .refl _
  | a :: as, b :: bs => by
    -- whether the items are the same decides which of them are compared next, in both alike
    refine .next (oneOr_lenient a b (same_lenient o a b)) fun same => ?_
    cases same with
    | true => exact orderedItems_lenient o c as bs
    | false => exact ordered_lenient o c a b

end

theorem test_lenient (o : Objects) (c : Comparison) (a b : Value) :
    Lenient id (test o c a.unwatched b.unwatched) (test o c a b) := by
  cases c with
  | eq => exact same_lenient o a b
  | ne => exact .next (same_lenient o a b) fun _ => .refl _
  | _ => exact ordered_lenient o _ a b

/-! ## Choosing -/

theorem items?_lenient (v : Value) :
    Lenient (List.map unwatched) v.unwatched.items? v.items? := by
  cases v with
  | list mark items =>
    rw [unwatched, unwatchedItems_eq_map]
    exact .ok (List.map unwatched) items
  | tuple items =>
    rw [unwatched, unwatchedItems_eq_map]
    exact .ok (List.map unwatched) items
  | text t =>
    refine .inr (congrArg Except.ok ?_)
    rw [List.map_map]
    rfl
  | object entries =>
    refine .inr (congrArg Except.ok ?_)
    rw [unwatchedEntries_eq_map, List.map_map, List.map_map]
    rfl
  | _ => exact .error _ _

theorem best_lenient (o : Objects) (c : Comparison) (a : Value) (items : List Value) :
    Lenient unwatched (best o c a.unwatched (items.map unwatched)) (best o c a items) := by
  induction items generalizing a with
  | nil => exact .ok unwatched a
  | cons b rest ih =>
    refine .next (test_lenient o c b a) fun better => ?_
    cases better with
    | true => exact ih b
    | false => exact ih a

theorem greatest_lenient (o : Objects) (v : Value) :
    Lenient unwatched (v.unwatched.greatest o) (v.greatest o) := by
  refine .bind v.items?_lenient fun items => ?_
  cases items with
  | nil => exact .error _ _
  | cons a rest => exact best_lenient o .gt a rest

theorem least_lenient (o : Objects) (v : Value) :
    Lenient unwatched (v.unwatched.least o) (v.least o) := by
  refine .bind v.items?_lenient fun items => ?_
  cases items with
  | nil => exact .error _ _
  | cons a rest => exact best_lenient o .lt a rest

/-! ## Sorting -/

theorem lessAt_lenient (o : Objects) (items : List Value) (i j : Nat) :
    Lenient id (lessAt o (items.map unwatched).toArray i j) (lessAt o items.toArray i j) := by
  rw [lessAt, lessAt]
  simp only [List.getElem?_toArray, List.getElem?_map]
  cases items[i]? with
  | none => exact .refl _
  | some a =>
    cases items[j]? with
    | none => exact .refl _
    | some b => exact test_lenient o .lt a b

theorem filterMap_unwatched (items : List Value) (places : List Nat) :
    places.filterMap ((items.map unwatched).toArray[·]?) =
      (places.filterMap (items.toArray[·]?)).map unwatched := by
  rw [List.map_filterMap]
  simp only [List.getElem?_toArray, List.getElem?_map]

theorem sorted_lenient (o : Objects) (items : List Value) :
    Lenient (List.map unwatched) (sorted o (items.map unwatched)) (sorted o items) := by
  have hsize : (items.map unwatched).toArray.size = items.toArray.size := by
    rw [List.size_toArray, List.size_toArray, List.length_map]
  dsimp only [sorted]
  rw [hsize]
  have h := Sorting.sort_agrees Lenient.agreement (lessAt_lenient o items)
    (List.range items.toArray.size)
  -- places are sorted, so that up to here nothing of the items is in the answer
  refine Lenient.next h fun places => ?_
  rw [filterMap_unwatched]
  exact .ok (List.map unwatched) _

theorem sort_lenient (o : Objects) (v : Value) :
    Lenient unwatched (v.unwatched.sort o) (v.sort o) := by
  refine .bind v.items?_lenient fun items => ?_
  refine .bind (sorted_lenient o items) fun items => ?_
  rw [← unwatchedItems_eq_map]
  exact .ok unwatched (list none items)

/-! ## Distinct values -/

mutual

theorem uncountable?_unwatched : (v : Value) → v.unwatched.uncountable? = v.uncountable?
  | null | bool _ | int _ | float _ _ | text _ | list _ _ | object _ | cls _ | position _ | range _
  | .report _ _ | logger _ => rfl
  | tuple items => uncountableItem?_unwatched items
  | config _ checked level => by
    rw [unwatched, uncountable?, uncountable?, uncountable?_unwatched checked,
      uncountable?_unwatched level]

theorem uncountableItem?_unwatched :
    (items : List Value) → uncountableItem? (unwatchedItems items) = uncountableItem? items
  | [] => rfl
  | item :: rest => by
    rw [unwatchedItems, uncountableItem?, uncountableItem?, uncountable?_unwatched item,
      uncountableItem?_unwatched rest]

end

mutual

theorem looksAlike_unwatched :
    (a b : Value) → a.unwatched.looksAlike b.unwatched = a.looksAlike b
  | null, b | bool _, b | int _, b | float _ _, b | text _, b | list _ _, b | object _, b
  | cls _, b | logger _, b | .report _ _, b => by
    cases b <;> rfl
  | tuple as, b => by
    cases b with
    | tuple bs => exact looksAlikeItems_unwatched as bs
    | _ => rfl
  | position p, b => by
    cases b with
    | position q => exact p.alike_unwatched q
    | _ => rfl
  | range r, b => by
    cases b with
    | range s =>
      rw [unwatched, unwatched, looksAlike, looksAlike, PositionRange.start_unwatched,
        PositionRange.start_unwatched, PositionRange.stop_unwatched, PositionRange.stop_unwatched,
        Position.alike_unwatched, Position.alike_unwatched]
    | _ => rfl
  | config _ a l, b => by
    cases b with
    | config _ b m =>
      rw [unwatched, unwatched, looksAlike, looksAlike, isSelf_unwatched, isSelf_unwatched,
        looksAlike_unwatched a b, looksAlike_unwatched l m]
    | _ => rfl

theorem looksAlikeItems_unwatched :
    (as bs : List Value) →
      looksAlikeItems (unwatchedItems as) (unwatchedItems bs) = looksAlikeItems as bs
  | [], [] | [], _ :: _ | _ :: _, [] => rfl
  | a :: as, b :: bs => by
    rw [unwatchedItems, unwatchedItems, looksAlikeItems, looksAlikeItems, isSelf_unwatched,
      looksAlike_unwatched a b, looksAlikeItems_unwatched as bs]

end

theorem alike_unwatched (a b : Value) : a.unwatched.alike b.unwatched = a.alike b := by
  rw [alike, alike, isSelf_unwatched, looksAlike_unwatched]

theorem any_alike_unwatched (found : List Value) (a : Value) :
    (found.map unwatched).any a.unwatched.alike = found.any a.alike := by
  rw [List.any_map]
  exact congrArg found.any (funext fun b => alike_unwatched a b)

theorem representatives_unwatched (items : List Value) :
    representatives (items.map unwatched) = (representatives items).map unwatched := by
  -- the items found so far are those found in the values themselves
  suffices h : ∀ found : List Value,
      (items.map unwatched).foldl
          (fun found a => if found.any a.alike then found else a :: found) (found.map unwatched) =
        (items.foldl (fun found a => if found.any a.alike then found else a :: found) found).map
          unwatched from h []
  induction items with
  | nil => exact fun _ => rfl
  | cons a rest ih =>
    intro found
    rw [List.map_cons, List.foldl_cons, List.foldl_cons, any_alike_unwatched]
    split
    · exact ih found
    · exact ih (a :: found)

theorem distinct_lenient (v : Value) :
    Lenient unwatched v.unwatched.distinct v.distinct := by
  refine .bind v.items?_lenient fun items => ?_
  rw [← unwatchedItems_eq_map, uncountableItem?_unwatched, unwatchedItems_eq_map,
    representatives_unwatched, List.length_map]
  cases uncountableItem? items with
  | some kind => exact .error _ _
  | none => exact .ok unwatched (int _)

end Caret.Value
