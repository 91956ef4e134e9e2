/-
  Whatever a script does, all positions and ranges that it answers are well-formed.

  * `Builder.keeps_build`, `Expr.keeps_eval`: what arguments stand for;
  * `Step.keeps_perform`, `Step.answer_wellFormed`: a request in a sound session;
  * `Script.runFrom_wellFormed`: a run of requests in a sound session;
  * `Script.run_wellFormed`: so scripts answer nothing that is not well-formed.
-/
import Caret.Proofs.WellFormed.Operations
import Caret.Proofs.WellFormed.Sessions
import Caret.Script.Run

namespace Caret

open Session Value

/-! ## Arguments -/

theorem Builder.keeps_build (b : Builder) {args : List Value} (h : ∀ v ∈ args, v.Sound) :
    Keeps Value.Sound (b.build args) := by
  have hother := sound_getD h
  cases b with
  | byteIndex => exact (Keeps.ofExcept (.trivial _)).bind fun _ _ => .pure (.position trivial)
  | rowColumn u => exact (Keeps.ofExcept (.trivial _)).bind fun _ _ => .pure (.position trivial)
  | noUnit => exact .ofExcept (.error _)
  | numbers =>
    refine (Keeps.ofExcept (.trivial _)).bind fun c _ => ?_
    exact (keeps_watched c _).bind fun _ hc => .pure (.position hc)
  | parts given =>
    refine (Keeps.ofExcept (.trivial _)).bind fun c _ => ?_
    exact (keeps_watched c _).bind fun _ hc => .pure (.position hc)
  | range =>
    exact (Keeps.of_lift (lift_rangeOf _ _) (ensures_rangeOf (hother 0) (hother 1))).bind
      fun _ hr => .pure (.range hr)
  | config => exact keeps_marked (.config (hother 0) (hother 1))
  | report k => exact keeps_newReport k h

theorem ensures_answered {past : List (Option Value)} (h : ∀ v, some v ∈ past → v.Sound)
    (step : Int) : Ensures Value.Sound (answered past step) := by
  rw [answered]
  split
  · rename_i v hv
    split at hv
    · cases hv
    · exact .ok (h v (List.mem_of_getElem? hv))
  · exact .error _

mutual

theorem Expr.keeps_eval : (e : Expr) → Keeps Value.Sound e.eval
  | .data d => keeps_marked d.sound_toValue
  | .list items => (keeps_evalAll items).bind fun _ h => keeps_marked (.list h)
  | .ref step => .get fun _ hs => .ofExcept (ensures_answered hs.past step)
  | .build b args => (keeps_evalAll args).bind fun _ h => b.keeps_build h

theorem keeps_evalAll : (es : List Expr) → Keeps (fun vs => ∀ v ∈ vs, v.Sound) (evalAll es)
  | [] => .pure nofun
  | e :: rest => by
    refine (Expr.keeps_eval e).bind fun v hv => (keeps_evalAll rest).bind fun vs hvs => ?_
    exact .pure (List.forall_mem_cons.2 ⟨hv, hvs⟩)

end

theorem keeps_evalOr {default : Value} (h : default.Sound) (e : Option Expr) :
    Keeps Value.Sound (evalOr default e) := by
  cases e with
  | none => exact .pure h
  | some e => exact e.keeps_eval

/-! ## Requests -/

theorem keeps_levelOf (config : Value) : Keeps (fun _ => True) (levelOf config) := by
  rw [levelOf.eq_def]
  split
  · exact keeps_settings.bind fun _ _ => .pure trivial
  · exact .withObjects fun _ _ => .ofExcept (.trivial _)

theorem keeps_raiseReport (v : Value) : Keeps Value.Sound (raiseReport v) := by
  rw [raiseReport.eq_def]
  split
  · rename_i mark kind
    refine (Keeps.withObjects fun _ _ => .ofExcept (.trivial _)).bind fun message _ => ?_
    refine (Keeps.withObjects fun o ho => ?_).bind fun hint hhint => .throw hhint
    exact .ofExcept (ensures_answer ho (ho.contents mark).hint)
  · exact .ofExcept (.error _)

theorem keeps_sampleTexts (seed count maxAtoms : Value) :
    Keeps (fun _ => True) (sampleTexts seed count maxAtoms) := by
  refine (Keeps.ofExcept (.trivial _)).bind fun seed _ => ?_
  refine (Keeps.ofExcept (.trivial _)).bind fun count _ => ?_
  split
  · exact .pure trivial
  · exact (Keeps.of_lift maxAtoms.lift_drawBound (.trivial _)).bind fun _ _ =>
      .ofExcept (.trivial _)

theorem keeps_logMessage (logger : Text) (severity : Severity) (message : Value) :
    Keeps (fun _ => True) (logMessage logger severity message) := by
  refine .get fun s _ => ?_
  cases message.display s.objects with
  | ok t => exact keeps_changeLog _
  | error f => exact .pure trivial

theorem sound_ofSettings (s : Settings) : (ofSettings s).Sound :=
  .config (.bool _) (.text _)

/-- **One request.** In a sound session it answers a sound value, and leaves a sound session. -/
theorem Step.keeps_perform (step : Step) : Keeps Value.Sound step.perform := by
  cases step with
  | unary op x =>
    refine x.keeps_eval.bind fun v hv => ?_
    exact .withObjects fun o ho => .of_lift (op.lift_apply o v) (op.ensures_apply ho hv)
  | binary op x y =>
    refine x.keeps_eval.bind fun v hv => y.keeps_eval.bind fun w hw => ?_
    exact .withObjects fun o ho => .of_lift (op.lift_apply o _ _) (op.ensures_apply ho hv hw)
  | limit => exact .pure (.int _)
  | fieldSum name x y =>
    refine name.keeps_eval.bind fun name _ => ?_
    refine x.keeps_eval.bind fun v hv => y.keeps_eval.bind fun w hw => ?_
    exact .withObjects fun o _ =>
      .of_lift (lift_fieldSum o v w name) (ensures_fieldSum o name hv hw)
  | assign x name y =>
    refine x.keeps_eval.bind fun v _ => name.keeps_eval.bind fun _ _ => ?_
    refine y.keeps_eval.bind fun w hw => (Keeps.ofExcept (.trivial _)).bind fun name _ => ?_
    exact (keeps_assign v name hw).bind fun _ _ => .pure .null
  | raise x => exact x.keeps_eval.bind fun v _ => keeps_raiseReport v
  -- a composite is looked at when its choice of checking is known, wherever its numbers are from
  | withChecked x checked =>
    refine x.keeps_eval.bind fun v _ => checked.keeps_eval.bind fun choice _ => ?_
    refine (Keeps.ofExcept (.trivial _)).bind fun c _ => ?_
    exact (keeps_watched c choice).bind fun _ hc => .pure (.position hc)
  | measure text checked =>
    refine text.keeps_eval.bind fun v _ => ?_
    refine (keeps_evalOr (.bool false) checked).bind fun choice _ => ?_
    refine (Keeps.ofExcept (.trivial _)).bind fun c _ => ?_
    exact (keeps_watched c choice).bind fun _ hc => .pure (.position hc)
  | texts seed count maxAtoms =>
    refine seed.keeps_eval.bind fun v _ => count.keeps_eval.bind fun w _ => ?_
    refine (keeps_evalOr (.int _) maxAtoms).bind fun x _ => ?_
    exact (keeps_sampleTexts v w x).bind fun texts _ => .pure (.list (sound_texts id texts))
  | document seed lines =>
    refine seed.keeps_eval.bind fun _ _ => (keeps_evalOr (.int _) lines).bind fun _ _ => ?_
    exact .ofExcept (.next fun _ => .next fun _ => .ok (.text _))
  | setVariable name value =>
    refine name.keeps_eval.bind fun _ _ => value.keeps_eval.bind fun _ _ => .get fun _ _ => ?_
    refine (Keeps.ofExcept (.trivial _)).bind fun env _ => ?_
    exact (keeps_changeEnvironment _).bind fun _ _ => .pure .null
  | unsetVariable name =>
    refine name.keeps_eval.bind fun _ _ => (Keeps.ofExcept (.trivial _)).bind fun name _ => ?_
    exact (keeps_changeEnvironment _).bind fun _ _ => .pure .null
  | loadSettings => exact keeps_loadSettings.bind fun s _ => .pure (sound_ofSettings s)
  | settings => exact keeps_settings.bind fun s _ => .pure (sound_ofSettings s)
  | resetSettings => exact keeps_resetSettings.bind fun _ _ => .pure .null
  | setUpLog config =>
    refine (keeps_evalOr .null config).bind fun config _ => ?_
    exact (keeps_levelOf config).bind fun level _ => keeps_setUpLog level
  | logger name =>
    refine name.keeps_eval.bind fun _ _ => ?_
    exact (Keeps.withObjects fun _ _ => .ofExcept (.trivial _)).bind fun part _ =>
      keeps_partLogger part
  | log name severity message =>
    refine name.keeps_eval.bind fun _ _ => severity.keeps_eval.bind fun _ _ => ?_
    refine message.keeps_eval.bind fun message _ => ?_
    refine (Keeps.withObjects fun _ _ => .ofExcept (.trivial _)).bind fun name _ => ?_
    refine (Keeps.ofExcept (.trivial _)).bind fun severity _ => ?_
    refine (keeps_partLogger name).bind fun _ _ => ?_
    exact (keeps_logMessage _ severity message).bind fun _ _ => .pure .null
  | drainLog =>
    refine .get fun s _ => (keeps_changeLog _).bind fun _ _ => ?_
    exact .pure (.list (sound_texts id _))

theorem Step.answer_wellFormed (step : Step) {s : Session} (hs : s.Sound) :
    (step.answer s).1.WellFormed ∧ (step.answer s).2.Sound := by
  have hrun := (step.keeps_perform.bind fun _ hv => keeps_marked hv) hs
  rw [answer]
  rcases hx : (step.perform >>= marked).run.run s with ⟨refusal | v, s'⟩
  · rw [hx] at hrun
    obtain ⟨hs', hrefusal⟩ := hrun
    refine ⟨hrefusal, hs'.objects, fun v hv => ?_⟩
    rcases List.mem_append.1 hv with hv | hv
    · exact hs'.past v hv
    · cases List.mem_singleton.1 hv
  · rw [hx] at hrun
    obtain ⟨hs', hv⟩ := hrun
    refine ⟨?_, hs'.objects, fun w hw => ?_⟩
    · have hanswer := ensures_answer hs'.objects hv
      show Outcome.WellFormed ((v.answer s'.objects).mapError .fault)
      cases ha : v.answer s'.objects with
      | ok a => exact hanswer a ha
      | error f => exact trivial
    · rcases List.mem_append.1 hw with hw | hw
      · exact hs'.past w hw
      · obtain rfl := Option.some.inj (List.mem_singleton.1 hw)
        exact hv

/-- Sums and differences are asked of positions of one kind only. -/
theorem Binary.combines_of_apply {op : Binary} {o : Objects} {v w u : Value}
    (hop : op = .add ∨ op = .saturatingSub) (hu : op.apply o v w = .ok u) : v.Combines w u := by
  rcases hop with rfl | rfl
  · exact ensures_add v w u hu
  · exact ensures_saturatingSub v w u hu

namespace Script

theorem runFrom_wellFormed (steps : List Step) {s : Session} (hs : s.Sound) :
    ∀ outcome ∈ (runFrom steps s).1, Outcome.WellFormed outcome := by
  induction steps generalizing s with
  | nil => exact nofun
  | cons step rest ih =>
    obtain ⟨houtcome, hs'⟩ := step.answer_wellFormed hs
    exact List.forall_mem_cons.2 ⟨houtcome, ih hs'⟩

/-- **Nothing else than what is well-formed can be obtained.** Whatever the environment is, and
    whatever is asked for, all positions and ranges in the outcomes are well-formed. What two
    positions add up to or differ by is a position of the kind that both have, and watched if one
    of them is. -/
theorem run_wellFormed (pairs : List (Text × Text)) (steps : List Step) :
    (∀ outcome ∈ run pairs steps, Outcome.WellFormed outcome) ∧
    (∀ (op : Binary) (o : Objects) (v w u : Value), op = .add ∨ op = .saturatingSub →
      op.apply o v w = .ok u → v.Combines w u) ∧
    ∀ (o : Objects) (p q : Position) (u : Value),
      Binary.sum.apply o (.position p) (.position q) = .ok u →
        Value.Combines (.position p) (.position q) u := by
  refine ⟨?_, fun op o v w u hop hu => Binary.combines_of_apply hop hu, fun o p q u hu => ?_⟩
  · exact runFrom_wellFormed steps (Session.sound_start (.ofList pairs))
  · obtain ⟨s, hs, rfl⟩ := Except.map_eq_ok_iff.1 hu
    exact ⟨p, q, s, rfl, rfl, rfl, p.ensures_sum q s hs⟩

/-- A composite that is watched, one that is not and that no text has, their sum, ranges up to one
    of them and at the other one, and the hull of both. -/
def sumAndHull : List Step :=
  let numbers (ns : List Int) (checked : Bool) : Expr :=
    .build .numbers (ns.map (.data <| .int ·) ++ [.data (.bool checked)])
  [.unary .value (numbers [4, 1, 2, 2] true), .unary .value (numbers [3, 1, 0, 1] false),
    .binary .sum (.ref 1) (.ref 0), .unary .rangeUpTo (.ref 0), .unary .emptyRange (.ref 1),
    .binary .cover (.ref 3) (.ref 4)]

/-- None of them is refused. -/
theorem run_wellFormed_sumAndHull :
    ∀ i < 6, ∃ a, (run [] sumAndHull)[i]? = some (.ok a) ∧ a.WellFormed := by
  have hok : (run [] sumAndHull).map Except.isOk = List.replicate 6 true := by decide +kernel
  intro i hi
  have hi' : ((run [] sumAndHull).map Except.isOk)[i]? = some true := by
    rw [hok, List.getElem?_replicate, if_pos hi]
  rw [List.getElem?_map] at hi'
  obtain ⟨outcome, houtcome, htrue⟩ := Option.map_eq_some_iff.1 hi'
  have hwell := (run_wellFormed [] sumAndHull).1 outcome (List.mem_of_getElem? houtcome)
  cases outcome with
  | ok a => exact ⟨a, houtcome, hwell⟩
  | error refusal => cases htrue

end Script

end Caret
