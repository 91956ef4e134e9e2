/-
  Computations that may ask for the settings of their session.

  * `Session.Peers`: two sessions differ in the environment and in their settings at most;
  * `Session.leadsTo`: what a computation answers, and the session after it, pass a test;
  * `Consults`: what becomes of the settings in a computation that asks for them, or does not;
  * `Reads`: the same for a computation that leaves the environment alone;
  * `Consults.bind`, `Reads.bind`: a whole asks if its first part does, or what follows that;
  * `Quiet`: nothing is asked for, in whatever session;
  * `reads_watched`: a composite asks for the settings if its choice of checking is left open.
-/
import Caret.Proofs.Reporting.Positions
import Caret.Script.Argument

namespace Caret

open Session

variable {α β : Type}

/-! ## Sessions that differ in the settings -/

namespace Session

/-- Two sessions agree in everything but the environment and the settings that they keep. -/
structure Peers (s t : Session) : Prop where
  objects_eq : t.objects = s.objects
  marks_eq : t.marks = s.marks
  past_eq : t.past = s.past

theorem Peers.refl (s : Session) : s.Peers s :=
  ⟨rfl, rfl, rfl⟩

/-- What a session keeps once it is asked for its settings: those that it keeps already, or else
    those of the environment, if they make sense. -/
def kept (s : Session) : Option Settings :=
  s.cache.or (Settings.load s.environment).toOption

theorem kept_of_cached {s : Session} {c : Settings} (h : s.cache = some c) : s.kept = some c := by
  rw [kept, h, Option.some_or]

theorem kept_of_load {s : Session} {c : Settings} (h : s.cache = none)
    (hload : Settings.load s.environment = .ok c) : s.kept = some c := by
  rw [kept, h, hload]
  rfl

theorem kept_of_error {s : Session} {f : Fault} (h : s.cache = none)
    (hload : Settings.load s.environment = .error f) : s.kept = none := by
  rw [kept, h, hload]
  rfl

/-- To ask again changes nothing. -/
theorem kept_of_kept {s s' : Session} (hcache : s'.cache = s.kept)
    (henv : s'.environment = s.environment) : s'.kept = s'.cache := by
  rw [kept, hcache, henv, kept]
  cases s.cache with
  | some c => rfl
  | none => cases (Settings.load s.environment).toOption <;> rfl

theorem run_settings_of_error {s : Session} {f : Fault} (h : s.cache = none)
    (hload : Settings.load s.environment = .error f) :
    settings.run.run s = (.error (.fault f), s) := by
  have hloaded : loadSettings.run.run s = (.error (.fault f), s) := by
    show (ofExcept (Settings.load s.environment) : SessionM Settings).run.run s = _
    rw [hload]
    rfl
  rw [settings, run_bind_ok (run_get s), h]
  exact run_bind_error hloaded fun c => do
    modify fun t : Session => { t with cache := some c }
    return c

/-- Whether a computation is not refused, and what it answers and the session after it pass a
    test. -/
def leadsTo (x : SessionM α) (s : Session) (p : α → Session → Bool) : Bool :=
  match x.run.run s with
  | (.ok a, s') => p a s'
  | (.error _, _) => false

theorem leadsTo_of_run {x : SessionM α} {s s' : Session} {a : α} (h : x.run.run s = (.ok a, s'))
    (p : α → Session → Bool) : leadsTo x s p = p a s' := by
  rw [leadsTo, h]

theorem leadsTo_of_refused {x : SessionM α} {s s' : Session} {r : Refusal}
    (h : x.run.run s = (.error r, s')) (p : α → Session → Bool) : leadsTo x s p = false := by
  rw [leadsTo, h]

theorem leadsTo_false (x : SessionM α) (s : Session) : leadsTo x s (fun _ _ => false) = false := by
  rcases h : x.run.run s with ⟨a | r, s'⟩
  · exact leadsTo_of_refused h _
  · exact leadsTo_of_run h _

end Session

/-! ## Asking -/

/-- What becomes of the settings in a computation, which asks for them or not. -/
structure Consults (asks : Bool) (x : SessionM α) (s : Session) : Prop where
  /-- It comes to the same in peers, whatever their settings and environments are, unless it asks:
      then both have to keep the same settings. It leaves peers, and what they keep. -/
  agree : ∀ ⦃t⦄, s.Peers t → (asks = true → s.cache.isSome ∧ t.cache = s.cache) →
    (x.run.run t).1 = (x.run.run s).1 ∧ (x.run.run s).2.Peers (x.run.run t).2 ∧
      (x.run.run t).2.cache = t.cache
  /-- If it asks for settings, they are kept from then on, whatever it comes to. -/
  cache_eq : asks = true → (x.run.run s).2.cache = s.kept
  /-- If it asks for settings, and those that it would read make no sense, it is refused for
      that. -/
  refused : asks = true → s.cache = none → ∀ f, Settings.load s.environment = .error f →
    (x.run.run s).1 = .error (.fault f)

/-- The same for a computation that leaves the environment alone. -/
structure Reads (asks : Bool) (x : SessionM α) (s : Session) : Prop extends Consults asks x s where
  environment_eq : (x.run.run s).2.environment = s.environment

/-- Nothing is asked for, in whatever session, and the environment is left alone. -/
abbrev Quiet (x : SessionM α) : Prop :=
  ∀ s, Reads false x s

namespace Consults

variable {asks : Bool} {x : SessionM α} {s : Session}

/-- A session keeps what it has if it is not asked, or has settings already. -/
theorem cache_of_held (h : Consults asks x s) (hheld : asks = true → s.cache.isSome) :
    (x.run.run s).2.cache = s.cache :=
  (h.agree (.refl s) fun hasks => ⟨hheld hasks, rfl⟩).2.2

/-- A computation that does not ask comes to the same in peers, and both keep what they have. -/
theorem agree_of_not_asked (h : Consults false x s) {t : Session} (hst : s.Peers t) :
    (x.run.run t).1 = (x.run.run s).1 ∧ (x.run.run s).2.Peers (x.run.run t).2 ∧
      (x.run.run s).2.cache = s.cache ∧ (x.run.run t).2.cache = t.cache := by
  obtain ⟨hr, hpeers, ht⟩ := h.agree hst nofun
  exact ⟨hr, hpeers, h.cache_of_held nofun, ht⟩

/-- What is asked of a computation of which nothing else is said. -/
theorem of_agree (h : ∀ ⦃t⦄, s.Peers t → (x.run.run t).1 = (x.run.run s).1 ∧
    (x.run.run s).2.Peers (x.run.run t).2 ∧ (x.run.run t).2.cache = t.cache) :
    Consults false x s :=
  ⟨fun _ hst _ => h hst, nofun, nofun⟩

end Consults

/-! ## One part after the other -/

section

variable {first : Bool} {later : α → Session → Bool} {x : SessionM α} {f : α → SessionM β}
  {s t : Session}

/-- Peers that come to the same with the first part come to the same with what follows it. -/
theorem Consults.agree_bind (h : Consults first x s)
    (hf : ∀ a s', x.run.run s = (.ok a, s') → Consults (later a s') (f a) s') (hst : s.Peers t)
    (hheld : (first || leadsTo x s later) = true → s.cache.isSome ∧ t.cache = s.cache) :
    ((x >>= f).run.run t).1 = ((x >>= f).run.run s).1 ∧
      ((x >>= f).run.run s).2.Peers ((x >>= f).run.run t).2 ∧
      ((x >>= f).run.run t).2.cache = t.cache := by
  have hheldFirst : first = true → s.cache.isSome ∧ t.cache = s.cache :=
    fun hfirst => hheld (by rw [hfirst, Bool.true_or])
  obtain ⟨hr, hpeers, ht'⟩ := h.agree hst hheldFirst
  have hs' := h.cache_of_held fun hfirst => (hheldFirst hfirst).1
  rcases hx : x.run.run s with ⟨r, s'⟩
  rcases hxt : x.run.run t with ⟨r', t'⟩
  rw [hx, hxt] at hr hpeers
  rw [hx] at hs'
  rw [hxt] at ht'
  obtain rfl : r' = r := hr
  cases r' with
  | error r =>
    rw [run_bind_error hx, run_bind_error hxt]
    exact ⟨rfl, hpeers, ht'⟩
  | ok a =>
    rw [run_bind_ok hx, run_bind_ok hxt, ← ht']
    refine (hf a s' hx).agree hpeers fun hlater => ?_
    rw [hs', ht']
    exact hheld (by rw [leadsTo_of_run hx, hlater, Bool.or_true])

/-- What follows may ask again, which changes nothing. -/
theorem Consults.cache_eq_bind (h : Consults first x s)
    (henv : ∀ a s', x.run.run s = (.ok a, s') → later a s' = true →
      s'.environment = s.environment)
    (hf : ∀ a s', x.run.run s = (.ok a, s') → Consults (later a s') (f a) s')
    (hasks : (first || leadsTo x s later) = true) :
    ((x >>= f).run.run s).2.cache = s.kept := by
  have hcache := h.cache_eq
  have hheld := h.cache_of_held
  rcases hx : x.run.run s with ⟨r | a, s'⟩
  · rw [leadsTo_of_refused hx, Bool.or_false] at hasks
    rw [run_bind_error hx]
    rw [hx] at hcache
    exact hcache hasks
  · rw [hx] at hcache hheld
    rw [leadsTo_of_run hx] at hasks
    rw [run_bind_ok hx]
    cases hlater : later a s' with
    | false =>
      rw [(hf a s' hx).cache_of_held (by simp [hlater])]
      exact hcache (by simpa [hlater] using hasks)
    | true =>
      rw [(hf a s' hx).cache_eq hlater]
      cases hfirst : first with
      | true =>
        have hs' : s'.cache = s.kept := hcache hfirst
        rw [kept_of_kept hs' (henv a s' hx hlater), hs']
      | false =>
        have hs' : s'.cache = s.cache := hheld (by simp [hfirst])
        rw [kept, kept, hs', henv a s' hx hlater]

/-- Wherever the settings are asked for, the environment is still the one that makes no sense. -/
theorem Consults.refused_bind (h : Consults first x s)
    (henv : ∀ a s', x.run.run s = (.ok a, s') → later a s' = true →
      s'.environment = s.environment)
    (hf : ∀ a s', x.run.run s = (.ok a, s') → Consults (later a s') (f a) s')
    (hasks : (first || leadsTo x s later) = true) (hnone : s.cache = none) {g : Fault}
    (hload : Settings.load s.environment = .error g) :
    ((x >>= f).run.run s).1 = .error (.fault g) := by
  have hrefused := h.refused
  have hheld := h.cache_of_held
  rcases hx : x.run.run s with ⟨r | a, s'⟩
  · rw [leadsTo_of_refused hx, Bool.or_false] at hasks
    rw [hx] at hrefused
    rw [run_bind_error hx, Except.error.inj (hrefused hasks hnone g hload)]
  · rw [hx] at hrefused hheld
    rw [leadsTo_of_run hx] at hasks
    rw [run_bind_ok hx]
    cases hfirst : first with
    | true => exact nomatch hrefused hfirst hnone g hload
    | false =>
      have hs' : s'.cache = s.cache := hheld (by simp [hfirst])
      have hlater : later a s' = true := by simpa [hfirst] using hasks
      refine (hf a s' hx).refused hlater (hs'.trans hnone) g ?_
      rw [henv a s' hx hlater, hload]

/-- **One part after the other.** The whole asks if the first part does, or if it comes to an answer
    with which what follows does. The settings that are asked for are those of the environment at
    the start, if the first part leaves that alone. -/
theorem Consults.bind (h : Consults first x s)
    (henv : ∀ a s', x.run.run s = (.ok a, s') → later a s' = true →
      s'.environment = s.environment)
    (hf : ∀ a s', x.run.run s = (.ok a, s') → Consults (later a s') (f a) s') :
    Consults (first || leadsTo x s later) (x >>= f) s :=
  ⟨fun _ hst hheld => h.agree_bind hf hst hheld, h.cache_eq_bind henv hf,
    fun hasks hnone _ hload => h.refused_bind henv hf hasks hnone hload⟩

theorem Reads.environment_of_run (h : Reads first x s) {r : Except Refusal α} {s' : Session}
    (hx : x.run.run s = (r, s')) : s'.environment = s.environment := by
  have henv := h.environment_eq
  rw [hx] at henv
  exact henv

theorem Reads.before (h : Reads first x s)
    (hf : ∀ a s', x.run.run s = (.ok a, s') → Consults (later a s') (f a) s') :
    Consults (first || leadsTo x s later) (x >>= f) s :=
  h.toConsults.bind (fun _ _ hx _ => h.environment_of_run hx) hf

theorem Reads.bind (h : Reads first x s)
    (hf : ∀ a s', x.run.run s = (.ok a, s') → Reads (later a s') (f a) s') :
    Reads (first || leadsTo x s later) (x >>= f) s := by
  refine ⟨h.before fun a s' hx => (hf a s' hx).toConsults, ?_⟩
  rcases hx : x.run.run s with ⟨r | a, s'⟩
  · rw [run_bind_error hx]
    exact h.environment_of_run hx
  · rw [run_bind_ok hx, (hf a s' hx).environment_eq]
    exact h.environment_of_run hx

/-- What follows asks for nothing. -/
theorem Consults.next (h : Consults first x s) (hf : ∀ a, Quiet (f a)) :
    Consults first (x >>= f) s := by
  have hwhole : Consults (first || leadsTo x s fun _ _ => false) (x >>= f) s :=
    h.bind (fun _ _ _ => nofun) fun a s' _ => (hf a s').toConsults
  rwa [leadsTo_false, Bool.or_false] at hwhole

theorem Reads.next (h : Reads first x s) (hf : ∀ a, Quiet (f a)) : Reads first (x >>= f) s := by
  have hwhole := h.bind fun a s' _ => hf a s'
  rwa [leadsTo_false, Bool.or_false] at hwhole

end

/-! ## Asking for nothing -/

namespace Quiet

theorem pure (a : α) : Quiet (pure a : SessionM α) :=
  fun _ => ⟨.of_agree fun _ hst => ⟨rfl, hst, rfl⟩, rfl⟩

theorem throw (r : Refusal) : Quiet (throw r : SessionM α) :=
  fun _ => ⟨.of_agree fun _ hst => ⟨rfl, hst, rfl⟩, rfl⟩

theorem bind {x : SessionM α} {f : α → SessionM β} (h : Quiet x) (hf : ∀ a, Quiet (f a)) :
    Quiet (x >>= f) :=
  fun s => (h s).next hf

theorem before {x : SessionM α} {f : α → SessionM β} (h : Quiet x)
    (hf : ∀ a s, Consults false (f a) s) (s : Session) : Consults false (x >>= f) s := by
  have hwhole := (h s).before fun a s' _ => hf a s'
  rwa [leadsTo_false] at hwhole

theorem ofExcept (x : Except Fault α) : Quiet (Caret.ofExcept x : SessionM α) := by
  cases x with
  | ok a => exact .pure a
  | error f => exact .throw (.fault f)

/-- A computation that depends on what peers have in common. -/
theorem get {f : Session → SessionM α} (h : ∀ s, Quiet (f s))
    (hf : ∀ ⦃s t : Session⦄, s.Peers t → f t = f s) : Quiet (do f (← MonadState.get)) := by
  intro s
  refine ⟨.of_agree fun t hst => ?_, (h s s).environment_eq⟩
  rw [run_bind_ok (run_get s), run_bind_ok (run_get t), hf hst]
  exact (h s s).agree hst nofun

theorem withObjects {f : Objects → SessionM α} (h : ∀ o, Quiet (f o)) :
    Quiet (Session.withObjects f) :=
  get (fun s => h s.objects) fun s t hst => by rw [hst.objects_eq]

/-- A change of what peers have in common. -/
theorem modify {f : Session → Session} (henv : ∀ s, (f s).environment = s.environment)
    (hcache : ∀ s, (f s).cache = s.cache) (hf : ∀ ⦃s t : Session⦄, s.Peers t → (f s).Peers (f t)) :
    Quiet (modify f : SessionM Unit) :=
  fun s => ⟨.of_agree fun t hst => ⟨rfl, hf hst, hcache t⟩, henv s⟩

end Quiet

/-! ## Objects and log -/

theorem quiet_newMark : Quiet newMark := by
  refine .get (fun s => .bind (.modify (fun _ => rfl) (fun _ => rfl) ?_) fun _ => .pure _) ?_
  · exact fun s t hst => ⟨hst.objects_eq, rfl, hst.past_eq⟩
  · intro s t hst
    rw [hst.marks_eq]

theorem quiet_marked (v : Value) : Quiet (marked v) :=
  quiet_newMark.bind fun n => .pure (v.marked n)

theorem quiet_newReport (kind : ReportKind) (given : List Value) :
    Quiet (newReport kind given) := by
  refine quiet_newMark.bind fun mark => .bind (.modify (fun _ => rfl) (fun _ => rfl) ?_) ?_
  · exact fun s t hst => ⟨by rw [hst.objects_eq], hst.marks_eq, hst.past_eq⟩
  · exact fun _ => .pure _

theorem quiet_assign (v : Value) (name : Text) (new : Value) :
    Quiet (Session.assign v name new) := by
  refine (Quiet.withObjects fun _ => .ofExcept _).bind fun objects =>
    .modify (fun _ => rfl) (fun _ => rfl) ?_
  exact fun s t hst => ⟨rfl, hst.marks_eq, hst.past_eq⟩

theorem quiet_changeLog (f : Log → Log) : Quiet (changeLog f) := by
  refine .modify (fun _ => rfl) (fun _ => rfl) fun s t hst => ⟨?_, hst.marks_eq, hst.past_eq⟩
  rw [withLog, withLog, hst.objects_eq]

/-- To report a disagreement does no more to a session than to log it. -/
theorem quiet_violated (v : Violation) : Quiet (violated v : SessionM α) :=
  (quiet_changeLog _).bind fun _ => .throw (.fault (.violation v))

/-- A computation that reports what it is refused for, and nothing else. -/
theorem Quiet.of_lift {x : SessionM α} {y : Except Fault α} (h : Session.lift y = x) :
    Quiet x := by
  subst h
  cases y with
  | ok a => exact .pure a
  | error f =>
    cases f with
    | violation v => exact quiet_violated v
    | _ => exact .ofExcept (.error _)

theorem quiet_setUpLog (level : Level) : Quiet (setUpLog level) :=
  (quiet_changeLog _).bind fun _ => .pure _

theorem quiet_partLogger (part : Text) : Quiet (partLogger part) :=
  (quiet_changeLog _).bind fun _ => .pure _

/-! ## Settings -/

/-- The settings of a session are asked for, whether it keeps some or reads them. -/
theorem reads_settings (s : Session) : Reads true settings s := by
  cases hs : s.cache with
  | some c =>
    have hrun : settings.run.run s = (.ok c, s) := run_settings_of_cached hs
    refine ⟨⟨fun t hst hheld => ?_, fun _ => ?_, fun _ hnone => ?_⟩, ?_⟩
    · have ht : t.cache = some c := (hheld rfl).2.trans hs
      rw [hrun, run_settings_of_cached ht]
      exact ⟨rfl, hst, rfl⟩
    · rw [hrun, kept_of_cached hs, hs]
    · rw [hs] at hnone
      cases hnone
    · rw [hrun]
  | none =>
    have hempty : ¬s.cache.isSome := by simp [hs]
    cases hload : Settings.load s.environment with
    | ok c =>
      have hrun := run_settings_of_load hs hload
      refine ⟨⟨fun t _ hheld => absurd (hheld rfl).1 hempty, fun _ => ?_, fun _ _ f hf => ?_⟩, ?_⟩
      · rw [hrun, kept_of_load hs hload]
      · rw [hload] at hf
        cases hf
      · rw [hrun]
    | error f =>
      have hrun := run_settings_of_error hs hload
      refine ⟨⟨fun t _ hheld => absurd (hheld rfl).1 hempty, fun _ => ?_, fun _ _ g hg => ?_⟩, ?_⟩
      · rw [hrun, kept_of_error hs hload, hs]
      · rw [hrun, Except.error.inj (hload.symm.trans hg)]
      · rw [hrun]

/-- What follows a pure computation is not reached if that is refused. -/
theorem Reads.ofExcept_bind {asks : Bool} {x : Except Fault α} {f : α → SessionM β} {s : Session}
    (hf : ∀ a, x = .ok a → Reads asks (f a) s) :
    Reads (x.isOk && asks) (ofExcept x >>= f) s := by
  cases x with
  | ok a => exact hf a rfl
  | error g =>
    have hwhole : Reads (false || leadsTo (ofExcept (.error g)) s fun _ _ => false)
        (ofExcept (.error g) >>= f) s := (Quiet.ofExcept (.error g) s).bind nofun
    rwa [leadsTo_false] at hwhole

/-- A choice of checking leaves it open. -/
def Value.isNull : Value → Bool
  | .null => true
  | _ => false

/-- **Composites.** The settings are asked for if the choice of checking is left open, and only
    then. -/
theorem reads_watched (c : Composite) (choice : Value) (s : Session) :
    Reads choice.isNull (watched c choice) s := by
  have hwhole : Reads (choice.choiceOf.isOk && choice.isNull) (watched c choice) s := by
    refine .ofExcept_bind fun choice' hchoice => Reads.next ?_ fun checked =>
      .of_lift (c.lift_withChecked checked)
    cases choice with
    | null =>
      cases hchoice
      exact (reads_settings s).next fun c => .pure c.checked
    | bool checked =>
      cases hchoice
      exact Quiet.pure checked s
    | _ => cases hchoice
  cases choice <;> exact hwhole

end Caret
