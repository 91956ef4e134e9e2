/-
  Requests log the disagreement that refuses them, and nothing else.

  * `Builder.records_build`, `Expr.records_eval`: what arguments stand for;
  * `Step.isOperation`: requests that are neither about the log nor about raising errors;
  * `Step.records_perform`: such a request while it is performed;
  * `Value.onlyEndless_answer`: why there can be no answer for a value;
  * `Step.noted_answer`: such a request as a whole.
-/
import Caret.Proofs.Log.Recording
import Caret.Script.Run

namespace Caret

open Session

variable {α β : Type}

/-! ## Arguments -/

theorem Builder.records_build (b : Builder) (args : List Value) : Records (b.build args) := by
  cases b with
  | byteIndex => exact (Records.ofExcept (Value.silent_byteIndexOf _)).bind fun _ => .pure _
  | rowColumn u => exact (Records.ofExcept (Value.silent_rowColumnOf _ _ u)).bind fun _ => .pure _
  | noUnit => exact Records.ofExcept (.error rfl)
  | numbers =>
    exact (Records.ofExcept (Value.silent_numbersOf _ _ _ _)).bind fun c =>
      (records_watched c _).bind fun _ => .pure _
  | parts given =>
    exact (Records.ofExcept (Value.silent_partsOf _ _ _)).bind fun c =>
      (records_watched c _).bind fun _ => .pure _
  | range => exact (Records.of_lift (Value.lift_rangeOf _ _)).bind fun _ => .pure _
  | config => exact records_marked _
  | report k => exact records_newReport k args

mutual

theorem Expr.records_eval : (e : Expr) → Records e.eval
  | .data d => records_marked d.toValue
  | .list items => (records_evalAll items).bind fun vs => records_marked (.list none vs)
  | .ref step => .get fun s => .ofExcept (silent_answered s.past step)
  | .build b args => (records_evalAll args).bind fun vs => b.records_build vs

theorem records_evalAll : (es : List Expr) → Records (evalAll es)
  | [] => .pure []
  | e :: rest =>
    (Expr.records_eval e).bind fun v => (records_evalAll rest).bind fun vs => .pure (v :: vs)

end

theorem records_evalOr (default : Value) (e : Option Expr) : Records (evalOr default e) := by
  cases e with
  | none => exact .pure default
  | some e => exact e.records_eval

/-! ## Requests -/

/-- A request is about positions, ranges, texts or settings. It does not raise an error object, and
    it is not about the log itself. -/
def Step.isOperation : Step → Bool
  | raise _ | setUpLog _ | logger _ | log _ _ _ | drainLog => false
  | _ => true

theorem records_sampleTexts (seed count maxAtoms : Value) :
    Records (sampleTexts seed count maxAtoms) := by
  refine (Records.ofExcept seed.silent_asInteger).bind fun seed => ?_
  refine (Records.ofExcept count.silent_asInteger).bind fun count => ?_
  split
  · exact .pure []
  · exact (Records.of_lift maxAtoms.lift_drawBound).bind fun _ =>
      .ofExcept (Corpus.silent_texts _ _ _)

theorem Step.records_perform {step : Step} (h : step.isOperation = true) :
    Records step.perform := by
  cases step with
  | unary op x => exact x.records_eval.bind fun v => .withObjects (op.records_apply · v)
  | binary op x y =>
    refine x.records_eval.bind fun v => y.records_eval.bind fun w => ?_
    exact .withObjects (op.records_apply · v w)
  | limit => exact .pure _
  | fieldSum name x y =>
    refine name.records_eval.bind fun name => x.records_eval.bind fun v => ?_
    refine y.records_eval.bind fun w => .withObjects fun o => ?_
    exact .of_lift (Value.lift_fieldSum o v w name)
  | assign x name y =>
    refine x.records_eval.bind fun v => name.records_eval.bind fun key => ?_
    refine y.records_eval.bind fun w => (Records.ofExcept key.silent_asName).bind fun name => ?_
    exact (records_assign v name w).bind fun _ => .pure _
  | raise x => cases h
  | withChecked x checked =>
    refine x.records_eval.bind fun v => checked.records_eval.bind fun choice => ?_
    exact (Records.ofExcept (v.silent_compositeWith _)).bind fun c =>
      (records_watched c choice).bind fun _ => .pure _
  | measure text checked =>
    refine text.records_eval.bind fun v => (records_evalOr _ checked).bind fun choice => ?_
    exact (Records.ofExcept (v.silent_measurable.bind Text.silent_endPosition)).bind fun c =>
      (records_watched c choice).bind fun _ => .pure _
  | texts seed count maxAtoms =>
    refine seed.records_eval.bind fun v => count.records_eval.bind fun w => ?_
    refine (records_evalOr _ maxAtoms).bind fun x => ?_
    exact (records_sampleTexts v w x).bind fun _ => .pure _
  | document seed lines =>
    refine seed.records_eval.bind fun v => (records_evalOr _ lines).bind fun w => ?_
    exact .ofExcept (v.silent_asInteger.bind fun _ => w.silent_asInteger.bind fun _ => .ok _)
  | setVariable name value =>
    refine name.records_eval.bind fun v => value.records_eval.bind fun w => .get fun s => ?_
    have hset : Silent (do
        let name ← Environment.kept (← v.asText)
        let value ← Environment.kept (← w.asText)
        s.environment.set name value) :=
      v.silent_asText.bind fun _ => (Environment.silent_kept _).bind fun _ =>
        w.silent_asText.bind fun _ => (Environment.silent_kept _).bind fun _ =>
          Environment.silent_set _ _ _
    exact (Records.ofExcept hset).bind fun _ => (records_changeEnvironment _).bind fun _ => .pure _
  | unsetVariable name =>
    refine name.records_eval.bind fun v => ?_
    have hkept : Silent (do Environment.kept (← v.asText)) :=
      v.silent_asText.bind fun _ => Environment.silent_kept _
    exact (Records.ofExcept hkept).bind fun _ =>
      (records_changeEnvironment _).bind fun _ => .pure _
  | loadSettings => exact records_loadSettings.bind fun _ => .pure _
  | settings => exact records_settings.bind fun _ => .pure _
  | resetSettings => exact records_resetSettings.bind fun _ => .pure _
  | setUpLog config => cases h
  | logger name => cases h
  | log name severity message => cases h
  | drainLog => cases h

/-! ## Answers -/

namespace Value

/-- A computation is refused for nothing else than that it does not end. -/
def OnlyEndless (x : Except Fault α) : Prop :=
  ∀ f, x = .error f → f = .endless .answer

theorem OnlyEndless.ok (a : α) : OnlyEndless (.ok a) :=
  nofun

theorem OnlyEndless.bind {x : Except Fault α} {f : α → Except Fault β} (h : OnlyEndless x)
    (hf : ∀ a, OnlyEndless (f a)) : OnlyEndless (x >>= f) := by
  intro fault hfault
  rcases Except.bind_eq_error_iff.1 hfault with hx | ⟨a, -, ha⟩
  · exact h fault hx
  · exact hf a fault ha

variable {log : Log} {report : ReportAnswerer}

mutual

theorem onlyEndless_answerWith (h : ∀ mark kind, OnlyEndless (report mark kind)) :
    (v : Value) → OnlyEndless (answerWith log report v)
  | .null | .cls _ => .ok _
  | .bool _ => .ok _
  | .int _ => .ok _
  | .float _ _ => .ok _
  | .text _ => .ok _
  | .list _ items => (onlyEndless_answerItems h items).bind fun _ => .ok _
  | .tuple items => (onlyEndless_answerItems h items).bind fun _ => .ok _
  | .object entries => (onlyEndless_answerEntries h entries).bind fun _ => .ok _
  | .position _ => .ok _
  | .range _ => .ok _
  | .config _ checked level =>
    (onlyEndless_answerWith h checked).bind fun _ =>
      (onlyEndless_answerWith h level).bind fun _ => .ok _
  | .report mark kind => h mark kind
  | .logger _ => .ok _

theorem onlyEndless_answerItems (h : ∀ mark kind, OnlyEndless (report mark kind)) :
    (items : List Value) → OnlyEndless (answerItems log report items)
  | [] => .ok _
  | item :: rest =>
    (onlyEndless_answerWith h item).bind fun _ =>
      (onlyEndless_answerItems h rest).bind fun _ => .ok _

theorem onlyEndless_answerEntries (h : ∀ mark kind, OnlyEndless (report mark kind)) :
    (entries : List (Text × Value)) → OnlyEndless (answerEntries log report entries)
  | [] => .ok _
  | (_, item) :: rest =>
    (onlyEndless_answerWith h item).bind fun _ =>
      (onlyEndless_answerEntries h rest).bind fun _ => .ok _

end

theorem onlyEndless_answerReport (o : Objects) (depth mark : Nat) (kind : ReportKind) :
    OnlyEndless (answerReport o depth mark kind) := by
  induction depth generalizing mark kind with
  | zero => exact fun f hf => (Except.error.inj hf).symm
  | succ depth ih =>
    exact (onlyEndless_answerWith ih _).bind fun _ => (onlyEndless_answerWith ih _).bind fun _ =>
      .ok _

theorem onlyEndless_answer (o : Objects) (v : Value) : OnlyEndless (v.answer o) :=
  onlyEndless_answerWith (onlyEndless_answerReport o o.reports.length) v

theorem silent_answer (o : Objects) (v : Value) : Silent (v.answer o) :=
  fun _ h => Fault.noConfusion (onlyEndless_answer o v _ h)

end Value

/-- **One request.** To answer it adds nothing to what was logged while it was performed. -/
theorem Step.noted_answer {step : Step} (h : step.isOperation = true) (s : Session) :
    s.Noted (step.answer s) := by
  obtain ⟨hlog, hraised⟩ := ((Step.records_perform h).bind records_marked) s
  rw [answer]
  rcases hx : (step.perform >>= marked).run.run s with ⟨r | v, s'⟩
  · rw [hx] at hlog hraised
    exact ⟨hlog, fun kind message hint heq => hraised kind message hint (by cases heq; rfl)⟩
  · rw [hx] at hlog
    show s.Noted ((v.answer s'.objects).mapError Refusal.fault, _)
    cases ha : v.answer s'.objects with
    | ok a => exact ⟨hlog, nofun⟩
    | error f =>
      obtain rfl := Value.onlyEndless_answer s'.objects v f ha
      exact ⟨hlog, nofun⟩

end Caret
