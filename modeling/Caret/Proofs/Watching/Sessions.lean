/-
  Two sessions, one of which watches composites unless said otherwise, while the other does not.

  * `Session.Twins`: apart from that, two sessions are in the same state;
  * `Parallel`: a computation comes to the same in both, unless measures are found to disagree;
  * `Parallel.bind`: step by step, this is so of the whole;
  * `watched_parallel`: a composite with its choice of checking, if that does not ask for it.
-/
import Caret.Proofs.Reporting.Values
import Caret.Proofs.Watching.Building
import Caret.Script.Argument

namespace Caret

open Session

/-! ## Twins -/

/-- Two sessions are in the same state, except that composites are watched in the second unless said
    otherwise, and not in the first. There are no error objects, which could keep values. -/
structure Session.Twins (s t : Session) : Prop where
  /-- In the first nothing is watched. -/
  free : s.Resolves false
  /-- In the second composites are. -/
  watched : t.Resolves true
  /-- The log is the same. -/
  objects_eq : s.objects = t.objects
  /-- There are no error objects. -/
  reports_eq : t.objects.reports = []
  /-- As many marks were given. -/
  marks_eq : s.marks = t.marks
  /-- The requests so far came to the same. -/
  past_eq : s.past = t.past.map (Option.map Value.unwatched)

/-- Twin sessions stay so after one more request that came to the same, or to nothing. -/
theorem Session.Twins.append {s t : Session} (h : Twins s t) (v? : Option Value) :
    Twins { s with past := s.past ++ [v?.map Value.unwatched] }
      { t with past := t.past ++ [v?] } := by
  refine ⟨h.free, h.watched, h.objects_eq, h.reports_eq, h.marks_eq, ?_⟩
  rw [List.map_append, ← h.past_eq]
  rfl

/-! ## Parallel computations -/

/-- In twin sessions, `x` comes to what `y` comes to, with `e` applied to answers, and leaves twins,
    unless `y` is refused because measures disagree. -/
def Parallel {α β : Type} (e : β → α) (x : SessionM α) (y : SessionM β) : Prop :=
  ∀ ⦃s t⦄, Twins s t →
    (∃ v, (y.run.run t).1 = .error (.fault (.violation v))) ∨
      (x.run.run s).1 = (y.run.run t).1.map e ∧ Twins (x.run.run s).2 (y.run.run t).2

namespace Parallel

variable {α β γ δ : Type} {e : β → α} {e' : δ → γ}

theorem pure (e : β → α) (b : β) : Parallel e (pure (e b)) (pure b) :=
  fun _ _ h => .inr ⟨rfl, h⟩

/-- What follows need agree only for answers that there can be. -/
theorem bind {x : SessionM α} {y : SessionM β} {f : α → SessionM γ} {g : β → SessionM δ}
    (h : Parallel e x y) (hf : ∀ b, Returns y b → Parallel e' (f (e b)) (g b)) :
    Parallel e' (x >>= f) (y >>= g) := by
  intro s t hst
  -- the second session decides: what it comes to first is an answer or a refusal
  rcases hx : x.run.run s with ⟨a, s'⟩
  rcases hy : y.run.run t with ⟨b | b, t'⟩
  · rw [run_bind_error hy]
    rcases h hst with ⟨v, hv⟩ | ⟨hans, htwins⟩
    · rw [hy] at hv
      exact .inl ⟨v, congrArg _ (Except.error.inj hv)⟩
    · rw [hx, hy] at hans htwins
      rw [run_bind_error (hx.trans (congrArg (·, s') hans))]
      exact .inr ⟨rfl, htwins⟩
  · rw [run_bind_ok hy]
    rcases h hst with ⟨v, hv⟩ | ⟨hans, htwins⟩
    · rw [hy] at hv
      cases hv
    · rw [hx, hy] at hans htwins
      rw [run_bind_ok (hx.trans (congrArg (·, s') hans))]
      exact hf b ⟨t, t', hy⟩ htwins

theorem map {x : SessionM α} {y : SessionM β} (h : Parallel e x y) {f : α → γ} {g : β → δ}
    (hf : ∀ b, f (e b) = e' (g b)) :
    Parallel e' (do return f (← x)) (do return g (← y)) :=
  h.bind fun b _ => by
    rw [hf]
    exact pure e' (g b)

theorem ofExcept {x : Except Fault α} {y : Except Fault β} (h : Lenient e x y) :
    Parallel e (Caret.ofExcept x) (Caret.ofExcept y) := by
  intro s t hst
  rcases h with ⟨v, rfl⟩ | rfl
  · exact .inl ⟨v, rfl⟩
  · cases y with
    | ok b => exact .inr ⟨rfl, hst⟩
    | error f => exact .inr ⟨rfl, hst⟩

/-- Computations that report what they are refused for, and nothing else. -/
theorem of_lift {x : SessionM α} {y : SessionM β} {x' : Except Fault α} {y' : Except Fault β}
    (hx : Session.lift x' = x) (hy : Session.lift y' = y) (h : Lenient e x' y') :
    Parallel e x y := by
  subst hx hy
  rcases h with ⟨v, rfl⟩ | rfl
  · exact fun s t hst => .inl ⟨v, rfl⟩
  · cases y' with
    | ok b => exact .pure e b
    | error f =>
      cases f with
      | violation v => exact fun s t hst => .inl ⟨v, rfl⟩
      -- no other fault is reported
      | _ => exact .ofExcept (.error e _)

/-- A computation that depends on the session as it is. -/
theorem get {f : Session → SessionM α} {g : Session → SessionM β}
    (h : ∀ ⦃s t⦄, Twins s t → Parallel e (f s) (g t)) :
    Parallel e (do f (← MonadState.get)) (do g (← MonadState.get)) :=
  fun _ _ hst => h hst hst

/-- A computation on the objects of a session. -/
theorem withObjects {f : Objects → SessionM α} {g : Objects → SessionM β}
    (h : ∀ o, o.reports = [] → Parallel e (f o) (g o)) :
    Parallel e (Session.withObjects f) (Session.withObjects g) :=
  get fun s t hst => by
    rw [hst.objects_eq]
    exact h t.objects hst.reports_eq

end Parallel

/-! ## Marks and settings -/

theorem newMark_parallel : Parallel id newMark newMark := by
  intro s t hst
  refine .inr ⟨congrArg Except.ok hst.marks_eq, ?_⟩
  exact ⟨hst.free, hst.watched, hst.objects_eq, hst.reports_eq, congrArg (· + 1) hst.marks_eq,
    hst.past_eq⟩

theorem marked_parallel (v : Value) :
    Parallel Value.unwatched (marked v.unwatched) (marked v) :=
  newMark_parallel.map fun n => v.marked_unwatched n

theorem resolve_parallel : Parallel (fun _ => false) (resolve none) (resolve none) := by
  intro s t hst
  obtain ⟨settings, hfree, hs⟩ := hst.free.run_resolve
  obtain ⟨settings', hwatched, ht⟩ := hst.watched.run_resolve
  rw [hs, ht]
  exact .inr ⟨rfl, hfree, hwatched, hst.objects_eq, hst.reports_eq, hst.marks_eq, hst.past_eq⟩

theorem watched_parallel (c : Composite) {choice : Value} (h : choice ≠ .bool true) :
    Parallel Composite.unwatched (watched c.unwatched choice.unwatched) (watched c choice) := by
  rw [watched, Value.choiceOf_unwatched]
  have hwatched (checked : Bool) :
      Parallel Composite.unwatched (c.unwatched.withChecked false SessionM)
        (c.withChecked checked SessionM) :=
    .of_lift (c.unwatched.lift_withChecked false) (c.lift_withChecked checked)
      (c.withChecked_lenient checked)
  refine (Parallel.ofExcept (.refl _)).bind fun choice' hchoice => ?_
  replace hchoice : choice.choiceOf = .ok choice' := returns_ofExcept_iff.1 hchoice
  cases choice' with
  | none => exact resolve_parallel.bind fun checked _ => hwatched checked
  | some checked =>
    obtain rfl : checked = false := by
      cases checked with
      | false => rfl
      | true => exact absurd (Value.choiceOf_eq_some_iff.1 hchoice) h
    exact (Parallel.pure (fun _ => false) false).bind fun checked _ => hwatched checked

end Caret
