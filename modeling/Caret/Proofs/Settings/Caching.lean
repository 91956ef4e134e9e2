/-
  The settings of a session are those of the environment when they were first got, until they are
  forgotten.

  * `Step.Gets`: a request asks for settings and can have them;
  * `Step.cache_answer`: what a request leaves of the settings;
  * `Script.after`: the session after some requests;
  * `Script.FirstGets`: the session in which settings are first got;
  * `Script.cache_after`: those are kept from then on;
  * `Script.settings_kept_from_first_get`: so it is in all runs, and nothing else is ever got.
-/
import Caret.Proofs.Refusal
import Caret.Proofs.Settings.Requests

namespace Caret

open Session

/-- Settings as an answer. -/
def Answer.ofSettings (c : Settings) : Answer :=
  .config (.bool c.checked) (.text c.level.name)

/-! ## The settings of a session -/

namespace Session

theorem run_settings_eq_ok_iff {s : Session} {c : Settings} :
    (settings.run.run s).1 = .ok c ↔ s.kept = some c := by
  cases hs : s.cache with
  | some c' =>
    rw [run_settings_of_cached hs, kept_of_cached hs, Except.ok.injEq, Option.some.injEq]
  | none =>
    cases hload : Settings.load s.environment with
    | ok c' =>
      rw [run_settings_of_load hs hload, kept_of_load hs hload, Except.ok.injEq, Option.some.injEq]
    | error f =>
      rw [run_settings_of_error hs hload, kept_of_error hs hload]
      exact iff_of_false nofun nofun

/-- Settings that are kept decide what is left open. -/
theorem run_watched_null {s : Session} {c : Settings} (h : s.cache = some c) (k : Composite) :
    (watched k .null).run.run s = (k.withChecked c.checked SessionM).run.run s := by
  have hresolve : (resolve none).run.run s = (.ok c.checked, s) := by
    rw [resolve, run_bind_ok (run_settings_of_cached h)]
    rfl
  have hchoice : (ofExcept Value.null.choiceOf : SessionM (Option Bool)).run.run s =
      (.ok none, s) := rfl
  rw [watched, run_bind_ok hchoice, run_bind_ok hresolve]

theorem run_levelOf_null {s : Session} {c : Settings} (h : s.cache = some c) :
    (levelOf .null).run.run s = (.ok (.number c.level.number), s) := by
  rw [levelOf, run_bind_ok (run_settings_of_cached h)]
  rfl

end Session

/-! ## Requests -/

namespace Step

/-- A request gets the settings of a session: it asks for them, and there are some. -/
def Gets (step : Step) (s : Session) : Prop :=
  step.asks s = true ∧ ∃ c, (Session.settings.run.run s).1 = .ok c

theorem gets_iff {step : Step} {s : Session} :
    step.Gets s ↔ step.asks s = true ∧ ∃ c, s.kept = some c := by
  simp only [Gets, run_settings_eq_ok_iff]

/-- **What a request leaves of the settings.** Those that it asks for are kept from then on. -/
theorem cache_answer {step : Step} (hreset : step ≠ .resetSettings) (s : Session) :
    (step.answer s).2.cache = if step.asks s then s.kept else s.cache := by
  rw [cache_answer_eq_run]
  by_cases hload : step = .loadSettings
  · subst hload
    have hquiet := (Quiet.ofExcept (Settings.load s.environment)).bind fun c =>
      .pure (Value.ofSettings c)
    exact (hquiet s).cache_of_held nofun
  · have hconsults := step.consults_perform hload hreset s
    split
    · rename_i hasks
      exact hconsults.cache_eq hasks
    · rename_i hasks
      exact hconsults.cache_of_held fun h => absurd h hasks

theorem cache_answer_of_cached {step : Step} (hreset : step ≠ .resetSettings) {s : Session}
    {c : Settings} (h : s.cache = some c) : (step.answer s).2.cache = some c := by
  rw [cache_answer hreset, kept_of_cached h, h, ite_self]

theorem cache_answer_of_gets {step : Step} (hreset : step ≠ .resetSettings) {s : Session}
    {c : Settings} (hasks : step.asks s = true) (hkept : s.kept = some c) :
    (step.answer s).2.cache = some c := by
  rw [cache_answer hreset, if_pos hasks, hkept]

theorem cache_answer_of_not_gets {step : Step} (hreset : step ≠ .resetSettings) {s : Session}
    (hempty : s.cache = none) (h : ¬step.Gets s) : (step.answer s).2.cache = none := by
  rw [cache_answer hreset]
  split
  · rename_i hasks
    cases hkept : s.kept with
    | none => rfl
    | some c => exact absurd (gets_iff.2 ⟨hasks, c, hkept⟩) h
  · exact hempty

theorem cache_answer_resetSettings (s : Session) : (resetSettings.answer s).2.cache = none := rfl

/-- Settings that make no sense are the reason of a refusal, and are not kept. -/
theorem answer_of_load_error {step : Step} {s : Session} {f : Fault} (hasks : step.asks s = true)
    (hempty : s.cache = none) (hload : Settings.load s.environment = .error f) :
    (step.answer s).1 = .error (.fault f) ∧ (step.answer s).2.cache = none := by
  have hnotLoad : step ≠ .loadSettings := by
    rintro rfl
    cases hasks
  have hnotReset : step ≠ .resetSettings := by
    rintro rfl
    cases hasks
  have hconsults := step.consults_perform hnotLoad hnotReset s
  refine ⟨answer_of_run_error (hconsults.refused hasks hempty f hload), ?_⟩
  rw [cache_answer hnotReset, if_pos hasks, kept_of_error hempty hload]

theorem answer_settings {s : Session} {c : Settings} (h : s.kept = some c) :
    (settings.answer s).1 = .ok (.ofSettings c) := by
  have hrun : (Session.settings.run.run s).1 = .ok c := run_settings_eq_ok_iff.2 h
  rcases hs : Session.settings.run.run s with ⟨r, s'⟩
  rw [hs] at hrun
  obtain rfl : r = .ok c := hrun
  rw [answer, perform, bind_assoc, run_bind_ok hs]
  rfl

/-- The settings of the environment as it is, whatever the session keeps. -/
theorem answer_loadSettings (s : Session) :
    (loadSettings.answer s).1 =
        ((Settings.load s.environment).map Answer.ofSettings).mapError .fault ∧
      (loadSettings.answer s).2.cache = s.cache := by
  have hnotReset : loadSettings ≠ .resetSettings := nofun
  refine ⟨?_, cache_answer hnotReset s⟩
  have hrun : Session.loadSettings.run.run s =
      ((Settings.load s.environment).mapError .fault, s) := run_ofExcept _ s
  rw [answer, perform, bind_assoc, run_bind, hrun]
  cases Settings.load s.environment <;> rfl

end Step

/-! ## Runs -/

namespace Script

/-- The session after some requests. -/
def after (steps : List Step) (s : Session) : Session :=
  (runFrom steps s).2

theorem after_append (first rest : List Step) (s : Session) :
    after (first ++ rest) s = after rest (after first s) := by
  induction first generalizing s with
  | nil => rfl
  | cons step first ih => exact ih (step.answer s).2

/-- None of the requests gets the settings. -/
def NoneGets (steps : List Step) (s : Session) : Prop :=
  ∀ first step rest, steps = first ++ step :: rest → ¬step.Gets (after first s)

/-- The first of the requests that gets the settings does so in the session `t`. -/
def FirstGets (steps : List Step) (s t : Session) : Prop :=
  ∃ first step rest, steps = first ++ step :: rest ∧ NoneGets first s ∧ t = after first s ∧
    step.Gets t

theorem NoneGets.cons {step : Step} {rest : List Step} {s : Session} (h : ¬step.Gets s)
    (hrest : NoneGets rest (step.answer s).2) : NoneGets (step :: rest) s := by
  intro first other later heq
  cases first with
  | nil =>
    obtain ⟨rfl, -⟩ := List.cons.inj heq
    exact h
  | cons step' first =>
    obtain ⟨rfl, htail⟩ := List.cons.inj heq
    exact hrest first other later htail

theorem FirstGets.cons {step : Step} {rest : List Step} {s t : Session} (h : ¬step.Gets s)
    (hrest : FirstGets rest (step.answer s).2 t) : FirstGets (step :: rest) s t := by
  obtain ⟨first, other, later, rfl, hnone, ht, hgets⟩ := hrest
  exact ⟨step :: first, other, later, rfl, hnone.cons h, ht, hgets⟩

/-- Settings that are kept stay, as long as they are not forgotten. -/
theorem cache_after_of_cached {steps : List Step} (hreset : .resetSettings ∉ steps) {s : Session}
    {c : Settings} (h : s.cache = some c) : (after steps s).cache = some c := by
  induction steps generalizing s with
  | nil => exact h
  | cons step rest ih =>
    rw [List.mem_cons, not_or] at hreset
    exact ih hreset.2 (Step.cache_answer_of_cached (Ne.symm hreset.1) h)

/-- **A run without forgetting.** A session that keeps no settings keeps none after it if none were
    got, and else those of the environment when some first were. -/
theorem cache_after {steps : List Step} (hreset : .resetSettings ∉ steps) {s : Session}
    (hempty : s.cache = none) :
    (after steps s).cache = none ∧ NoneGets steps s ∨
      ∃ t c, FirstGets steps s t ∧ Settings.load t.environment = .ok c ∧
        (after steps s).cache = some c := by
  induction steps generalizing s with
  | nil =>
    refine .inl ⟨hempty, fun first step rest h => ?_⟩
    cases first <;> cases h
  | cons step rest ih =>
    rw [List.mem_cons, not_or] at hreset
    have hstep : step ≠ .resetSettings := Ne.symm hreset.1
    by_cases hgets : step.Gets s
    · -- what is got now is kept, whatever follows
      obtain ⟨hasks, c, hkept⟩ := Step.gets_iff.1 hgets
      have hload : Settings.load s.environment = .ok c := by
        rw [kept, hempty, Option.none_or] at hkept
        exact Except.toOption_eq_some_iff.1 hkept
      refine .inr ⟨s, c, ⟨[], step, rest, rfl, ?_, rfl, hgets⟩, hload, ?_⟩
      · intro first other later h
        cases first <;> cases h
      · exact cache_after_of_cached hreset.2 (Step.cache_answer_of_gets hstep hasks hkept)
    · have hempty' := Step.cache_answer_of_not_gets hstep hempty hgets
      rcases ih hreset.2 hempty' with ⟨hcache, hnone⟩ | ⟨t, c, hfirst, hload, hcache⟩
      · exact .inl ⟨hcache, hnone.cons hgets⟩
      · exact .inr ⟨t, c, hfirst.cons hgets, hload, hcache⟩

/-- The requests since the settings were last forgotten, or else since the start. -/
theorem exists_since_reset (steps : List Step) : ∃ earlier since, steps = earlier ++ since ∧
    (earlier = [] ∨ ∃ before, earlier = before ++ [.resetSettings]) ∧
      .resetSettings ∉ since := by
  induction steps with
  | nil => exact ⟨[], [], rfl, .inl rfl, List.not_mem_nil⟩
  | cons step rest ih =>
    obtain ⟨earlier, since, rfl, hearlier, hsince⟩ := ih
    rcases hearlier with rfl | ⟨before, rfl⟩
    · by_cases hstep : step = .resetSettings
      · subst hstep
        exact ⟨[.resetSettings], since, rfl, .inr ⟨[], rfl⟩, hsince⟩
      · refine ⟨[], step :: since, rfl, .inl rfl, ?_⟩
        rw [List.mem_cons, not_or]
        exact ⟨Ne.symm hstep, hsince⟩
    · exact ⟨step :: before ++ [.resetSettings], since, rfl, .inr ⟨step :: before, rfl⟩, hsince⟩

/-- Nothing is kept at the start, and nothing when the settings were just forgotten. -/
theorem cache_after_reset {earlier : List Step}
    (h : earlier = [] ∨ ∃ before, earlier = before ++ [.resetSettings]) (env : Environment) :
    (after earlier (.start env)).cache = none := by
  rcases h with rfl | ⟨before, rfl⟩
  · rfl
  · rw [after_append]
    exact Step.cache_answer_resetSettings _

/-- While settings are kept, a request has the same outcome whatever the environment has become. -/
theorem answer_of_held {step : Step} (hload : step ≠ .loadSettings)
    (hreset : step ≠ .resetSettings) {s t : Session} {c : Settings} (hs : s.cache = some c)
    (hst : s.Peers t) (ht : t.cache = some c) : (step.answer t).1 = (step.answer s).1 := by
  refine (Step.answer_peers hload hreset hst fun _ => ⟨?_, ht.trans hs.symm⟩).1
  rw [hs]
  rfl

/-- **The settings of a session.** After every run of requests, the settings that are kept are those
    that the environment came to when they were first got, be it by a request for them, for a
    composite whose choice of checking is left open, or for the log, since they were last forgotten;
    if they were not got since then, none are kept.

    Settings that are kept are all that is ever got, whatever the environment has become, until they
    are forgotten. If there are none, to ask for them is to read the environment: what makes no
    sense there is the reason of a refusal, and nothing is kept, so that one can ask again; anything
    else is kept. To load the settings is to read the environment as it is, and nothing else. A
    composite with a part that is refused, or with a choice of checking, has nothing to do with
    settings that are kept, or with the environment. -/
theorem settings_kept_from_first_get :
    (∀ (pairs : List (Text × Text)) (steps : List Step), ∃ earlier since,
      steps = earlier ++ since ∧ (earlier = [] ∨ ∃ before, earlier = before ++ [.resetSettings]) ∧
      .resetSettings ∉ since ∧
      let s := after earlier (.start (.ofList pairs))
      let now := after steps (.start (.ofList pairs))
      (now.cache = none ∧ NoneGets since s ∨
        ∃ t c, FirstGets since s t ∧ Settings.load t.environment = .ok c ∧ now.cache = some c)) ∧
    (∀ (s : Session) (c : Settings), s.cache = some c →
      settings.run.run s = (.ok c, s) ∧ (Step.settings.answer s).1 = .ok (.ofSettings c) ∧
      (∀ k, (watched k .null).run.run s =
        (k.withChecked c.checked SessionM).run.run s) ∧
      (levelOf .null).run.run s = (.ok (.number c.level.number), s) ∧
      ∀ step : Step, step ≠ .resetSettings → (step.answer s).2.cache = some c ∧
        (step ≠ .loadSettings → ∀ t, s.Peers t → t.cache = some c →
          (step.answer t).1 = (step.answer s).1)) ∧
    (∀ (step : Step) (s : Session), step.asks s = true → s.cache = none →
      (∀ f, Settings.load s.environment = .error f →
        (step.answer s).1 = .error (.fault f) ∧ (step.answer s).2.cache = none) ∧
      ∀ c, Settings.load s.environment = .ok c →
        settings.run.run s = (.ok c, { s with cache := some c }) ∧
        (Step.settings.answer s).1 = .ok (.ofSettings c) ∧ (step.answer s).2.cache = some c) ∧
    (∀ s : Session,
      (Step.loadSettings.answer s).1 =
        ((Settings.load s.environment).map Answer.ofSettings).mapError .fault ∧
      (Step.loadSettings.answer s).2.cache = s.cache) ∧
    (∀ (b : Builder) (args : List Value) (c : Except Fault Composite) (choice : Value),
      b.composite? args = some (c, choice) →
      (∃ f, c = .error f) ∨ (∃ checked, choice = .bool checked) → ∀ s t, s.Peers t →
        ((b.build args).run.run t).1 = ((b.build args).run.run s).1 ∧
        ((b.build args).run.run s).2.Peers ((b.build args).run.run t).2 ∧
        ((b.build args).run.run s).2.cache = s.cache ∧
        ((b.build args).run.run t).2.cache = t.cache) := by
  refine ⟨fun pairs steps => ?_, fun s c hs => ⟨run_settings_of_cached hs,
    Step.answer_settings (kept_of_cached hs), run_watched_null hs, run_levelOf_null hs, ?_⟩, ?_,
    Step.answer_loadSettings, ?_⟩
  · obtain ⟨earlier, since, rfl, hearlier, hsince⟩ := exists_since_reset steps
    refine ⟨earlier, since, rfl, hearlier, hsince, ?_⟩
    have hempty := cache_after_reset hearlier (.ofList pairs)
    intro s now
    have hnow : now = after since s := after_append earlier since (.start (.ofList pairs))
    rw [hnow]
    exact cache_after hsince hempty
  · intro step hreset
    refine ⟨Step.cache_answer_of_cached hreset hs, fun hload t hst ht => ?_⟩
    exact answer_of_held hload hreset hs hst ht
  · intro step s hasks hempty
    refine ⟨fun f hload => Step.answer_of_load_error hasks hempty hload, fun c hload => ?_⟩
    have hkept : s.kept = some c := kept_of_load hempty hload
    have hnotReset : step ≠ .resetSettings := by
      rintro rfl
      cases hasks
    exact ⟨run_settings_of_load hempty hload, Step.answer_settings hkept,
      Step.cache_answer_of_gets hnotReset hasks hkept⟩
  · intro b args c choice hb hc s t hst
    have hasks : b.asks args = false := by
      rw [Builder.asks, hb]
      rcases hc with ⟨f, rfl⟩ | ⟨checked, rfl⟩
      · rfl
      · exact Bool.and_false _
    have hreads := b.reads_build args s
    rw [hasks] at hreads
    exact hreads.agree_of_not_asked hst

/-- A variable that makes no sense is repaired between two requests that ask for the settings; then
    it is changed. The second of them is for a composite that is refused once it is watched. -/
def repairedAndChanged : List Step :=
  let flag (value : Text) : Step :=
    .setVariable (.data (.text Settings.checkedVariable)) (.data (.text value))
  [.settings, flag "1", .unary .value (.build .numbers [.data (.int 4)]), flag "0"]

/-- The first request is refused. From the second one on it is kept that composites are watched,
    since that is how it was then. A composite with a text as its index does not even notice what
    the variable is. -/
theorem settings_kept_from_first_get_repaired :
    let start : Session := .start (.ofList [(Settings.checkedVariable, "maybe")])
    let now := after repairedAndChanged start
    (∃ f, Settings.load start.environment = .error f ∧
        (Step.settings.answer start).1 = .error (.fault f)) ∧
      now.cache = some ⟨true, .warning⟩ ∧
      Settings.load now.environment = .ok ⟨false, .warning⟩ ∧
      (Step.settings.answer now).1 = .ok (.ofSettings ⟨true, .warning⟩) ∧
      ((Builder.numbers.build [.text "4"]).run.run start).1 =
        ((Builder.numbers.build [.text "4"]).run.run (.start [])).1 := by
  intro start now
  obtain ⟨-, hheld, hempty, -, hbuild⟩ := settings_kept_from_first_get
  have hnow : now.cache = some ⟨true, .warning⟩ := by decide +kernel
  have hload : Settings.load now.environment = .ok ⟨false, .warning⟩ :=
    Except.toOption_eq_some_iff.1 (by decide +kernel)
  obtain ⟨f, hbroken⟩ : ∃ f, Settings.load start.environment = .error f := by
    have hrefused : (Settings.load start.environment).isOk = false := by decide +kernel
    cases hstart : Settings.load start.environment with
    | ok c =>
      rw [hstart] at hrefused
      cases hrefused
    | error f => exact ⟨f, rfl⟩
  obtain ⟨hfirst, -⟩ := (hempty .settings start rfl rfl).1 f hbroken
  obtain ⟨-, hlater, -⟩ := hheld now _ hnow
  obtain ⟨hsame, -⟩ := hbuild .numbers [.text "4"] _ _ rfl (.inl ⟨_, rfl⟩) (.start []) start
    ⟨rfl, rfl, rfl⟩
  exact ⟨⟨f, hbroken, hfirst⟩, hnow, hload, hlater, hsame⟩

end Script

end Caret
