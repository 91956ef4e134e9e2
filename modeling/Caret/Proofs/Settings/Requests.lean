/-
  Requests that ask for the settings of their session.

  * `Builder.asks`, `Expr.asks`: an argument asks for the settings when it is evaluated;
  * `Step.asks`: a request does so, in an argument or itself;
  * `Expr.reads_eval`, `Step.consults_perform`: nothing else makes the settings matter;
  * `Step.answer_peers`: a request that asks for nothing has the same outcome in all peers.
-/
import Caret.Proofs.Reporting.Values
import Caret.Proofs.Settings.Asking

namespace Caret

open Session

variable {α : Type}

/-! ## Building -/

/-- The composite that some values are parts of, if they are, and the choice of checking that is
    given with them; for what makes composites. -/
def Builder.composite? (b : Builder) (args : List Value) :
    Option (Except Fault Composite × Value) :=
  let number (i : Nat) := args.getD i (.int 0)
  match b with
  | .numbers =>
    some (Value.numbersOf (number 0) (number 1) (number 2) (number 3), args.getD 4 .null)
  | .parts given =>
    let part := partGiven (given.zip args)
    some (Value.partsOf (part .index) (part .utf8) (part .utf16), part .checked)
  | _ => none

/-- A composite is built for which the choice of checking is left open. It is not if a part of it is
    refused. -/
def Builder.asks (b : Builder) (args : List Value) : Bool :=
  match b.composite? args with
  | some (c, choice) => c.isOk && choice.isNull
  | none => false

theorem Builder.build_of_composite? {b : Builder} {args : List Value}
    {c : Except Fault Composite} {choice : Value} (h : b.composite? args = some (c, choice)) :
    b.build args = (do
      let c ← ofExcept c
      return .position ⟨.composite, ← watched c choice⟩) := by
  cases b with
  | numbers =>
    cases h
    rfl
  | parts given =>
    cases h
    rfl
  | _ => cases h

/-- A composite from its parts, once they are not refused. -/
theorem reads_composite (c : Except Fault Composite) (choice : Value) (s : Session) :
    Reads (c.isOk && choice.isNull)
      (do
        let c ← ofExcept c
        return Value.position ⟨.composite, ← watched c choice⟩) s :=
  .ofExcept_bind fun c _ => (reads_watched c choice s).next fun c =>
    .pure (Value.position ⟨.composite, c⟩)

theorem Builder.reads_build (b : Builder) (args : List Value) (s : Session) :
    Reads (b.asks args) (b.build args) s := by
  cases hb : b.composite? args with
  | some built =>
    obtain ⟨c, choice⟩ := built
    rw [asks, hb, build_of_composite? hb]
    exact reads_composite c choice s
  | none =>
    rw [asks, hb]
    cases b with
    | byteIndex => exact (Quiet.ofExcept _ s).next fun _ => .pure _
    | rowColumn u => exact (Quiet.ofExcept _ s).next fun _ => .pure _
    | noUnit => exact Quiet.ofExcept (.error (.mismatch .noUnit)) s
    | numbers => cases hb
    | parts given => cases hb
    | range => exact (Quiet.of_lift (Value.lift_rangeOf _ _) s).next fun _ => .pure _
    | config => exact quiet_marked _ s
    | report k => exact quiet_newReport k args s

/-! ## Arguments -/

mutual

/-- The settings are asked for when an argument is evaluated in a session. -/
def Expr.asks : Expr → Session → Bool
  | .data _, _ | .ref _, _ => false
  | .list items, s => anyAsks (fun _ => false) items s
  | .build b args, s => anyAsks b.asks args s

/-- They are asked for by one of several arguments, or then by what is done with all their values.
    An argument is reached if none before it is refused. -/
def anyAsks (after : List Value → Bool) : List Expr → Session → Bool
  | [], _ => after []
  | e :: rest, s =>
    e.asks s || leadsTo e.eval s fun v s' => anyAsks (fun vs => after (v :: vs)) rest s'

end

mutual

/-- **Arguments.** Nothing but the settings that are asked for matters to the value of an
    argument. -/
theorem Expr.reads_eval : (e : Expr) → (s : Session) → Reads (e.asks s) e.eval s
  | .data d, s => quiet_marked d.toValue s
  | .list items, s => reads_evalAll items (fun vs s' => quiet_marked (.list none vs) s') s
  | .ref step, s => Quiet.get (fun s => .ofExcept (answered s.past step)) (fun s t hst => by
      rw [hst.past_eq]) s
  | .build b args, s => reads_evalAll args (fun vs s' => b.reads_build vs s') s

theorem reads_evalAll : (es : List Expr) → {after : List Value → Bool} →
    {f : List Value → SessionM Value} → (∀ vs s, Reads (after vs) (f vs) s) →
      (s : Session) → Reads (anyAsks after es s) (evalAll es >>= f) s
  | [], _, _, hf, s => hf [] s
  | e :: rest, after, f, hf, s => by
    have hwhole : Reads (anyAsks after (e :: rest) s)
        (e.eval >>= fun v => evalAll rest >>= fun vs => f (v :: vs)) s :=
      (e.reads_eval s).bind fun v s' _ => reads_evalAll rest (fun vs s => hf (v :: vs) s) s'
    simp only [evalAll, bind_assoc, pure_bind]
    exact hwhole

end

/-! ## Requests -/

namespace Step

/-- The arguments of a request, in the order in which they are evaluated. -/
def args : Step → List Expr
  | unary _ x => [x]
  | binary _ x y => [x, y]
  | fieldSum name x y => [name, x, y]
  | assign x name y => [x, name, y]
  | raise x => [x]
  | withChecked x checked => [x, checked]
  | measure text checked => text :: checked.toList
  | texts seed count maxAtoms => seed :: count :: maxAtoms.toList
  | document seed lines => seed :: lines.toList
  | setVariable name value => [name, value]
  | unsetVariable name => [name]
  | setUpLog config => config.toList
  | logger name => [name]
  | log name severity message => [name, severity, message]
  | limit | loadSettings | settings | resetSettings | drainLog => []

/-- A request itself asks for the settings, once its arguments have values: it is the request for
    them, the log is set up for those of the session, or there is a composite for which the choice
    of checking is left open. -/
def asksWith : Step → List Value → Bool
  | settings, _ => true
  | setUpLog _, vs => (vs.getD 0 .null).isNull
  | withChecked _ _, vs =>
    ((vs.getD 0 .null).compositeWith "with_checked").isOk && (vs.getD 1 .null).isNull
  | measure _ _, vs =>
    let text : Except Fault Composite := do (← (vs.getD 0 .null).measurable).endPosition
    text.isOk && (vs.getD 1 (.bool false)).isNull
  | _, _ => false

/-- A request in a session asks for the settings, in an argument or itself. -/
def asks (step : Step) (s : Session) : Bool :=
  anyAsks step.asksWith step.args s

end Step

theorem reads_levelOf (config : Value) (s : Session) : Reads config.isNull (levelOf config) s := by
  rw [levelOf.eq_def]
  split
  · exact (reads_settings s).next fun c => .pure (Level.number c.level.number)
  · rename_i hconfig
    have hnull : config.isNull = false := by
      cases config with
      | null => exact absurd rfl hconfig
      | _ => rfl
    rw [hnull]
    exact Quiet.withObjects (fun _ => .ofExcept _) s

theorem quiet_raiseReport (v : Value) : Quiet (raiseReport v) := by
  rw [raiseReport.eq_def]
  split
  · refine (Quiet.withObjects fun _ => .ofExcept _).bind fun message => ?_
    exact (Quiet.withObjects fun _ => .ofExcept _).bind fun hint => .throw _
  · exact .ofExcept _

theorem quiet_sampleTexts (seed count maxAtoms : Value) :
    Quiet (sampleTexts seed count maxAtoms) := by
  refine (Quiet.ofExcept _).bind fun seed => (Quiet.ofExcept _).bind fun count => ?_
  split
  · exact .pure []
  · exact (Quiet.of_lift maxAtoms.lift_drawBound).bind fun _ => .ofExcept _

theorem quiet_logMessage (logger : Text) (severity : Severity) (message : Value) :
    Quiet (logMessage logger severity message) := by
  refine .get (fun s => ?_) fun s t hst => by rw [hst.objects_eq]
  cases message.display s.objects with
  | ok t => exact quiet_changeLog _
  | error f => exact .pure ()

theorem consults_changeEnvironment (f : Environment → Environment) (s : Session) :
    Consults false (do
      changeEnvironment f
      return Value.null) s :=
  .of_agree fun _ hst => ⟨rfl, ⟨hst.objects_eq, hst.marks_eq, hst.past_eq⟩, rfl⟩

/-- A new environment that is refused in all sessions alike, or in none. -/
theorem consults_setEnvironment {f : Environment → Except Fault Environment}
    (hf : ∀ env env', (f env).map (fun _ => ()) = (f env').map fun _ => ()) (s : Session) :
    Consults false (do
      let env ← ofExcept (f (← get).environment)
      changeEnvironment fun _ => env
      return Value.null) s := by
  refine .of_agree fun t hst => ?_
  rw [run_bind_ok (run_get s), run_bind_ok (run_get t)]
  have hsame := hf s.environment t.environment
  cases hs : f s.environment with
  | ok env =>
    cases ht : f t.environment with
    | ok env' => exact ⟨rfl, ⟨hst.objects_eq, hst.marks_eq, hst.past_eq⟩, rfl⟩
    | error g =>
      rw [hs, ht] at hsame
      cases hsame
  | error g =>
    cases ht : f t.environment with
    | ok env =>
      rw [hs, ht] at hsame
      cases hsame
    | error g' =>
      rw [hs, ht] at hsame
      cases hsame
      have hrefused := (Quiet.ofExcept (.error g)).before fun env s =>
        consults_changeEnvironment (fun _ => env) s
      exact (hrefused s).agree hst nofun

namespace Environment

/-- The environment with a variable set, whose name and value are given as values. -/
def setValue (name value : Value) (env : Environment) : Except Fault Environment := do
  let name ← kept (← name.asText)
  let value ← kept (← value.asText)
  env.set name value

theorem map_set (env env' : Environment) (name value : Text) :
    (env.set name value).map (fun _ => ()) = (env'.set name value).map fun _ => () := by
  unfold set
  split
  · rfl
  · split
    · rfl
    · split <;> rfl

/-- Whether a variable can be set does not depend on those that are. -/
theorem map_setValue (name value : Value) (env env' : Environment) :
    (env.setValue name value).map (fun _ => ()) = (env'.setValue name value).map fun _ => () := by
  refine Except.map_bind_congr fun _ => Except.map_bind_congr fun name => ?_
  refine Except.map_bind_congr fun _ => Except.map_bind_congr fun value => ?_
  exact map_set env env' name value

end Environment

/-- One argument is evaluated, and then the others. -/
theorem consults_arg {e : Expr} {rest : List Expr} {after : List Value → Bool}
    {f : Value → SessionM α} {s : Session}
    (hf : ∀ v s', Consults (anyAsks (fun vs => after (v :: vs)) rest s') (f v) s') :
    Consults (anyAsks after (e :: rest) s) (e.eval >>= f) s :=
  (e.reads_eval s).before fun v s' _ => hf v s'

/-- The last argument may be left out. -/
theorem consults_argOr {e : Option Expr} {default : Value} {after : List Value → Bool}
    {f : Value → SessionM α} {s : Session} (hdefault : Consults (after []) (f default) s)
    (hf : ∀ v s', Consults (after [v]) (f v) s') :
    Consults (anyAsks after e.toList s) (evalOr default e >>= f) s := by
  cases e with
  | none =>
    rw [evalOr, pure_bind]
    exact hdefault
  | some e => exact consults_arg fun v s' => hf v s'

/-- **Requests.** But for the requests to load the settings and to forget them, nothing but the
    settings that are asked for matters to what a request comes to. -/
theorem Step.consults_perform {step : Step} (hload : step ≠ .loadSettings)
    (hreset : step ≠ .resetSettings) (s : Session) : Consults (step.asks s) step.perform s := by
  cases step with
  | unary op x =>
    refine consults_arg fun v s => ?_
    exact (Quiet.withObjects (fun o => .of_lift (op.lift_apply o v)) s).toConsults
  | binary op x y =>
    refine consults_arg fun v s => consults_arg fun w s => ?_
    exact (Quiet.withObjects (fun o => .of_lift (op.lift_apply o v w)) s).toConsults
  | limit => exact (Quiet.pure _ s).toConsults
  | fieldSum name x y =>
    refine consults_arg fun name s => consults_arg fun v s => consults_arg fun w s => ?_
    exact (Quiet.withObjects (fun o => .of_lift (Value.lift_fieldSum o v w name)) s).toConsults
  | assign x name y =>
    refine consults_arg fun v s => consults_arg fun name s => consults_arg fun w s => ?_
    refine ((Quiet.ofExcept _ s).next fun name => ?_).toConsults
    exact (quiet_assign v name w).bind fun _ => .pure Value.null
  | raise x => exact consults_arg fun v s => (quiet_raiseReport v s).toConsults
  | withChecked x checked =>
    refine consults_arg fun v s => consults_arg fun choice s => ?_
    exact (reads_composite (v.compositeWith "with_checked") choice s).toConsults
  | measure text checked =>
    refine consults_arg fun v s => consults_argOr ?_ fun choice s => ?_
    · exact (reads_composite (do (← v.measurable).endPosition) (.bool false) s).toConsults
    · exact (reads_composite (do (← v.measurable).endPosition) choice s).toConsults
  | texts seed count maxAtoms =>
    refine consults_arg fun seed s => consults_arg fun count s => ?_
    refine consults_argOr ?_ fun maxAtoms s => ?_
    · exact ((quiet_sampleTexts _ _ _ s).next fun texts => .pure _).toConsults
    · exact ((quiet_sampleTexts _ _ _ s).next fun texts => .pure _).toConsults
  | document seed lines =>
    refine consults_arg fun seed s => consults_argOr ?_ fun lines s => ?_
    · exact (Quiet.ofExcept _ s).toConsults
    · exact (Quiet.ofExcept _ s).toConsults
  | setVariable name value =>
    refine consults_arg fun name s => consults_arg fun value s => ?_
    exact consults_setEnvironment (Environment.map_setValue name value) s
  | unsetVariable name =>
    refine consults_arg fun name s => (Quiet.ofExcept _).before (fun name s => ?_) s
    exact consults_changeEnvironment _ s
  | loadSettings => exact absurd rfl hload
  | settings => exact ((reads_settings s).next fun c => .pure (Value.ofSettings c)).toConsults
  | resetSettings => exact absurd rfl hreset
  | setUpLog config =>
    refine consults_argOr ?_ fun config s => ?_
    · exact ((reads_levelOf .null s).next fun level => quiet_setUpLog level).toConsults
    · exact ((reads_levelOf config s).next fun level => quiet_setUpLog level).toConsults
  | logger name =>
    refine consults_arg fun name s => ?_
    have hdisplay : Quiet (withObjects (ofExcept <| name.display ·)) :=
      .withObjects fun _ => .ofExcept _
    exact ((hdisplay s).next fun part => quiet_partLogger part).toConsults
  | log name severity message =>
    refine consults_arg fun name s => consults_arg fun severity s => ?_
    refine consults_arg fun message s => ?_
    refine ((Quiet.withObjects (fun _ => .ofExcept _) s).next fun name => ?_).toConsults
    refine (Quiet.ofExcept _).bind fun severity => (quiet_partLogger name).bind fun _ => ?_
    exact (quiet_logMessage _ severity message).bind fun _ => .pure Value.null
  | drainLog =>
    refine (Quiet.get (fun s => (quiet_changeLog _).bind fun _ => .pure _) ?_ s).toConsults
    intro s t hst
    rw [Session.log, Session.log, hst.objects_eq]

/-! ## Outcomes -/

theorem Session.Peers.append {s t : Session} (h : s.Peers t) (v? : Option Value) :
    Peers { s with past := s.past ++ [v?] } { t with past := t.past ++ [v?] } :=
  ⟨h.objects_eq, h.marks_eq, congrArg (· ++ [v?]) h.past_eq⟩

namespace Step

variable {step : Step} {s t : Session}

theorem cache_answer_eq_run (step : Step) (s : Session) :
    (step.answer s).2.cache = (step.perform.run.run s).2.cache := by
  rw [answer, run_bind]
  rcases step.perform.run.run s with ⟨r | v, s'⟩ <;> rfl

theorem answer_of_run_error {r : Refusal} (h : (step.perform.run.run s).1 = .error r) :
    (step.answer s).1 = .error r := by
  rw [answer, run_bind]
  rcases hrun : step.perform.run.run s with ⟨r' | v, s'⟩
  · rw [hrun] at h
    rw [Except.error.inj h]
  · rw [hrun] at h
    cases h

/-- A request that asks for nothing has the same outcome in peers, whatever their settings and
    environments are. One that asks has it if both keep the same settings. -/
theorem answer_peers (hload : step ≠ .loadSettings) (hreset : step ≠ .resetSettings)
    (hst : s.Peers t) (hheld : step.asks s = true → s.cache.isSome ∧ t.cache = s.cache) :
    (step.answer t).1 = (step.answer s).1 ∧ (step.answer s).2.Peers (step.answer t).2 ∧
      (step.answer t).2.cache = t.cache := by
  have hconsults := (step.consults_perform hload hreset s).next quiet_marked
  obtain ⟨hr, hpeers, hcache⟩ := hconsults.agree hst hheld
  rw [answer, answer]
  rcases hs : (step.perform >>= marked).run.run s with ⟨r, s'⟩
  rcases ht : (step.perform >>= marked).run.run t with ⟨r', t'⟩
  rw [hs, ht] at hr hpeers
  rw [ht] at hcache
  obtain rfl : r' = r := hr
  cases r' with
  | ok v =>
    refine ⟨?_, hpeers.append (some v), hcache⟩
    show (v.answer t'.objects).mapError Refusal.fault = (v.answer s'.objects).mapError Refusal.fault
    rw [hpeers.objects_eq]
  | error r => exact ⟨rfl, hpeers.append none, hcache⟩

end Step

end Caret
