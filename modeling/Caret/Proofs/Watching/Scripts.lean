/-
  Scripts that leave it open whether composites are watched, run with and without watching.

  * `Step.leavesOpen`: requests that leave it open, and change nothing about it;
  * `Step.perform_parallel`, `Step.answer_twins`: such a request in twin sessions;
  * `Script.runFrom_twins`: the outcomes of runs in such sessions are the same up to the first
    disagreement of measures;
  * `Script.watching_only_stops`: so are those of a whole run, with watching and without.
-/
import Caret.Proofs.Watching.Arguments
import Caret.Proofs.Watching.Operations
import Caret.Script.Run

namespace Caret

open Session

/-! ## Requests -/

/-- An argument is the name of an attribute, and not of the one that tells what is watched. -/
def Expr.namesOther : Expr → Bool
  | .data (.text name) => name != "checked"
  | _ => false

/-- A request about positions and ranges that leaves it open whether composites are watched, and
    does not ask for it. The environment, the settings, the log and error objects are left alone. -/
def Step.leavesOpen : Step → Bool
  | .unary _ x => x.leavesOpen
  | .binary .get x name => x.leavesOpen && name.namesOther
  | .binary _ x y => x.leavesOpen && y.leavesOpen
  | .limit => true
  | .fieldSum name x y => name.leavesOpen && x.leavesOpen && y.leavesOpen
  | .withChecked x choice => x.leavesOpen && choice.declines
  | .measure text choice => text.leavesOpen && choice.all Expr.declines
  | _ => false

theorem Expr.leavesOpen_of_declines {e : Expr} (h : e.declines) : e.leavesOpen := by
  match e with
  | .data d => rfl

theorem Expr.leavesOpen_of_namesOther {e : Expr} (h : e.namesOther) : e.leavesOpen := by
  match e with
  | .data d => rfl

theorem Expr.exists_of_namesOther {e : Expr} (h : e.namesOther) {v : Value}
    (hv : Returns e.eval v) : ∃ name, v = .text name ∧ name ≠ "checked" := by
  match e with
  | .data (.text name) =>
    obtain ⟨n, -, hv⟩ := Returns.bind hv
    exact ⟨name, returns_pure_iff.1 hv, by simpa [namesOther] using h⟩

theorem evalOr_parallel {choice : Option Expr} (h : choice.all Expr.declines) :
    Parallel Value.unwatched (evalOr (.bool false) choice) (evalOr (.bool false) choice) := by
  cases choice with
  | none => exact .pure Value.unwatched (.bool false)
  | some e => exact e.eval_parallel (e.leavesOpen_of_declines h)

theorem returns_evalOr {choice : Option Expr} (h : choice.all Expr.declines) {v : Value}
    (hv : Returns (evalOr (.bool false) choice) v) : v ≠ .bool true := by
  cases choice with
  | none =>
    rw [returns_pure_iff.1 hv]
    nofun
  | some e => exact e.returns_of_declines h hv

/-- The end of a text is not watched before that is chosen. -/
theorem endPosition_lenient (v : Value) :
    Lenient Composite.unwatched (do (← v.unwatched.measurable).endPosition)
      (do (← v.measurable).endPosition) := by
  have hmeasurable : v.unwatched.measurable = v.measurable := by
    cases v with
    | cls c => rfl
    | _ => rfl
  rw [hmeasurable]
  refine .next (.refl _) fun t => .next (.refl _) fun column8 => .next (.refl _) fun bytes => ?_
  refine .next (.refl _) fun index => .next (.refl _) fun utf8 => .next (.refl _) fun utf16 => ?_
  exact .ok Composite.unwatched ⟨index, utf8, utf16, false⟩

theorem Step.perform_parallel {step : Step} (h : step.leavesOpen) :
    Parallel Value.unwatched step.perform step.perform := by
  match step with
  | .unary op x =>
    refine (x.eval_parallel h).bind fun v _ => ?_
    exact .withObjects fun o ho =>
      .of_lift (op.lift_apply o _) (op.lift_apply o v) (op.apply_lenient ho v)
  | .binary op x y =>
    by_cases hop : op = .get
    · subst hop
      obtain ⟨hx, hy⟩ := Bool.and_eq_true_iff.1 h
      refine (x.eval_parallel hx).bind fun v _ => ?_
      refine (y.eval_parallel (y.leavesOpen_of_namesOther hy)).bind fun w hw => ?_
      obtain ⟨name, rfl, hname⟩ := y.exists_of_namesOther hy hw
      exact .withObjects fun o ho => .ofExcept (v.get_lenient ho hname)
    · obtain ⟨hx, hy⟩ : x.leavesOpen ∧ y.leavesOpen := by
        cases op <;> first | exact absurd rfl hop | exact Bool.and_eq_true_iff.1 h
      refine (x.eval_parallel hx).bind fun v _ => (y.eval_parallel hy).bind fun w _ => ?_
      exact .withObjects fun o _ =>
        .of_lift (op.lift_apply o _ _) (op.lift_apply o v w) (op.apply_lenient o hop v w)
  | .limit => exact .pure Value.unwatched (.int Coordinate.limit)
  | .fieldSum name x y =>
    obtain ⟨hnx, hy⟩ := Bool.and_eq_true_iff.1 h
    obtain ⟨hname, hx⟩ := Bool.and_eq_true_iff.1 hnx
    refine (name.eval_parallel hname).bind fun name _ => ?_
    refine (x.eval_parallel hx).bind fun v _ => (y.eval_parallel hy).bind fun w _ => ?_
    exact .withObjects fun o _ => .of_lift (Value.lift_fieldSum o _ _ _)
      (Value.lift_fieldSum o v w name) (name.fieldSum_lenient o v w)
  | .withChecked x choice =>
    obtain ⟨hx, hchoice⟩ := Bool.and_eq_true_iff.1 h
    refine (x.eval_parallel hx).bind fun v _ => ?_
    refine (choice.eval_parallel (choice.leavesOpen_of_declines hchoice)).bind fun w hw => ?_
    refine (Parallel.ofExcept (v.compositeWith_lenient "with_checked")).bind fun c _ => ?_
    exact (watched_parallel c (choice.returns_of_declines hchoice hw)).map fun _ => rfl
  | .measure text choice =>
    obtain ⟨htext, hchoice⟩ := Bool.and_eq_true_iff.1 h
    refine (text.eval_parallel htext).bind fun v _ => ?_
    refine (evalOr_parallel hchoice).bind fun w hw => ?_
    refine (Parallel.ofExcept (endPosition_lenient v)).bind fun c _ => ?_
    exact (watched_parallel c (returns_evalOr hchoice hw)).map fun _ => rfl

/-! ## Outcomes -/

/-- The same outcome, with no composite in it watched. Errors are the same. -/
def Outcome.unwatched (o : Outcome) : Outcome :=
  o.map Answer.unwatched

/-- A request is refused because measures disagree. -/
def Outcome.isViolation : Outcome → Bool
  | .error (.fault (.violation _)) => true
  | _ => false

/-- **One request, with and without watching.** Twin sessions give the same outcome and stay twins,
    unless the one that watches finds that measures disagree. -/
theorem Step.answer_twins {step : Step} (h : step.leavesOpen) {s t : Session} (hst : Twins s t) :
    (step.answer t).1.isViolation ∨
      (step.answer s).1 = (step.answer t).1.unwatched ∧
        Twins (step.answer s).2 (step.answer t).2 := by
  have hrun := (step.perform_parallel h).bind (fun v _ => marked_parallel v) hst
  rw [answer, answer]
  rcases hs : (step.perform >>= marked).run.run s with ⟨r, s'⟩
  rcases ht : (step.perform >>= marked).run.run t with ⟨refusal | v, t'⟩
  · rw [hs, ht] at hrun
    rcases hrun with ⟨v, hv⟩ | ⟨hr, htwins⟩
    · obtain rfl : refusal = .fault (.violation v) := Except.error.inj hv
      exact .inl rfl
    · obtain rfl : r = .error refusal := hr
      exact .inr ⟨rfl, htwins.append none⟩
  · rw [hs, ht] at hrun
    rcases hrun with ⟨v, hv⟩ | ⟨hr, htwins⟩
    · cases hv
    · obtain rfl : r = .ok v.unwatched := hr
      refine .inr ⟨?_, htwins.append (some v)⟩
      show (v.unwatched.answer s'.objects).mapError Refusal.fault =
        ((v.answer t'.objects).mapError Refusal.fault).map Answer.unwatched
      rw [htwins.objects_eq, Value.answer_unwatched htwins.reports_eq]
      cases v.answer t'.objects <;> rfl

namespace Script

theorem length_runFrom (steps : List Step) (s : Session) :
    (runFrom steps s).1.length = steps.length := by
  induction steps generalizing s with
  | nil => rfl
  | cons step rest ih => exact congrArg (· + 1) (ih (step.answer s).2)

/-- In twin sessions every outcome up to the first disagreement is the same. -/
theorem runFrom_twins {steps : List Step} (h : ∀ step ∈ steps, step.leavesOpen) {s t : Session}
    (hst : Twins s t) {i : Nat} {o : Outcome} (hi : (runFrom steps t).1[i]? = some o)
    (hbefore : ∀ j < i, ∀ o, (runFrom steps t).1[j]? = some o → o.isViolation = false) :
    o.isViolation ∨ (runFrom steps s).1[i]? = some o.unwatched := by
  induction steps generalizing s t i with
  | nil => cases hi
  | cons step rest ih =>
    have hstep := Step.answer_twins (h step List.mem_cons_self) hst
    cases i with
    | zero =>
      obtain rfl : (step.answer t).1 = o := Option.some.inj hi
      exact hstep.imp_right fun h => congrArg some h.1
    | succ i =>
      -- the first outcome is none that ends the comparison, so that the sessions are still twins
      have hfirst : (step.answer t).1.isViolation = false := hbefore 0 (Nat.succ_pos i) _ rfl
      rcases hstep with hviolation | ⟨-, htwins⟩
      · rw [hfirst] at hviolation
        cases hviolation
      · exact ih (fun step hmem => h step (List.mem_cons_of_mem _ hmem)) htwins hi
          fun j hj o => hbefore (j + 1) (Nat.succ_lt_succ hj) o

/-- **Watching only stops.** Take requests that leave it open whether composites are watched, an
    environment in which they are, and one in which they are not. Up to the first request that is
    refused because measures disagree, every request has the same outcome in both; and the first
    such refusal is all that watching changes. -/
theorem watching_only_stops {free watched : List (Text × Text)} {level level' : Severity}
    (hfree : Settings.load (.ofList free) = .ok ⟨false, level⟩)
    (hwatched : Settings.load (.ofList watched) = .ok ⟨true, level'⟩)
    {steps : List Step} (h : ∀ step ∈ steps, step.leavesOpen) :
    (run free steps).length = steps.length ∧ (run watched steps).length = steps.length ∧
      ∀ (i : Nat) (o : Outcome), (run watched steps)[i]? = some o →
        (∀ j < i, ∀ o, (run watched steps)[j]? = some o → o.isViolation = false) →
        o.isViolation ∨ (run free steps)[i]? = some o.unwatched := by
  have hstart : Twins (.start (.ofList free)) (.start (.ofList watched)) :=
    ⟨⟨level, hfree⟩, ⟨level', hwatched⟩, rfl, rfl, rfl, rfl⟩
  refine ⟨length_runFrom steps _, length_runFrom steps _, fun i o hi hbefore => ?_⟩
  exact runFrom_twins h hstart hi hbefore

/-- A composite, its sum with itself, and a composite that no text has. -/
def sumAndMismatch : List Step :=
  let numbers (ns : List Int) : Expr := .build .numbers (ns.map fun n => .data (.int n))
  [.unary .value (numbers [4, 1, 2, 2]), .binary .add (.ref 0) (.ref 0),
    .unary .value (numbers [0, 1, 0, 0])]

/-- With watching the sum is the same, and the last composite is refused. -/
theorem watching_only_stops_sumAndMismatch :
    ∃ o, (run [("TEXTPOS_CHECKED", "1")] sumAndMismatch)[1]? = some o ∧
      (run [] sumAndMismatch)[1]? = some o.unwatched ∧
      (run [("TEXTPOS_CHECKED", "1")] sumAndMismatch)[2]?.map Outcome.isViolation = some true := by
  have hfree : Settings.load (.ofList []) = .ok ⟨false, .warning⟩ :=
    Except.toOption_eq_some_iff.1 (by decide +kernel)
  have hwatched : Settings.load (.ofList [("TEXTPOS_CHECKED", "1")]) = .ok ⟨true, .warning⟩ :=
    Except.toOption_eq_some_iff.1 (by decide +kernel)
  have hopen : ∀ step ∈ sumAndMismatch, step.leavesOpen := by decide
  have hstops : (run [("TEXTPOS_CHECKED", "1")] sumAndMismatch).map Outcome.isViolation =
      [false, false, true] := by
    decide +kernel
  have hflag (i : Nat) : (run [("TEXTPOS_CHECKED", "1")] sumAndMismatch)[i]?.map
      Outcome.isViolation = [false, false, true][i]? := by
    rw [← hstops, List.getElem?_map]
  obtain ⟨o, ho, hno⟩ := Option.map_eq_some_iff.1 (hflag 1)
  obtain ⟨-, -, hagree⟩ := watching_only_stops hfree hwatched hopen
  refine ⟨o, ho, (hagree 1 o ho fun j hj o' ho' => ?_).resolve_left (by simp [hno]), hflag 2⟩
  obtain rfl : j = 0 := by omega
  have h := hflag 0
  rw [ho'] at h
  exact Option.some.inj h

end Script

end Caret
