/-
  Running computations in a session.

  * `Session.run_bind`, `Session.run_withObjects`: how the parts of a computation run;
  * `Session.lift`: a computation that reports what it is refused for, and nothing else;
  * `Session.lift_bind`: it does not matter whether a disagreement is reported where it is found, or
    once the computation that it ends is over;
  * `Silent`, `Session.lift_ofExcept`: computations that find no disagreement report nothing;
  * `Session.Returns`: the answers that a computation can come to;
  * `Session.Resolves`: how a choice of checking that is left open is decided;
  * `Resolves.run_resolve`: it is decided so, and will be from then on.
-/
import Caret.Proofs.Refusal
import Caret.Session

namespace Caret

/-! ## Silence -/

/-- Whether a fault is a disagreement of measures. -/
def Fault.isViolation : Fault → Bool
  | violation _ => true
  | _ => false

/-- A computation is not refused for a disagreement of measures. -/
def Silent {α : Type} (x : Except Fault α) : Prop :=
  ∀ v, x ≠ .error (.violation v)

namespace Silent

variable {α β : Type} {x y : Except Fault α}

theorem ok (a : α) : Silent (.ok a) :=
  nofun

theorem error {f : Fault} (h : f.isViolation = false) : Silent (.error f : Except Fault α) := by
  intro v hv
  obtain rfl := Except.error.inj hv
  cases h

theorem bind {f : α → Except Fault β} (h : Silent x) (hf : ∀ a, Silent (f a)) :
    Silent (x >>= f) := by
  intro v hv
  rcases Except.bind_eq_error_iff.1 hv with hx | ⟨a, -, ha⟩
  · exact h v hx
  · exact hf a v ha

theorem map (h : Silent x) (f : α → β) : Silent (x.map f) := by
  cases x with
  | ok a => exact .ok (f a)
  | error e => exact fun v hv => h v (congrArg Except.error (Except.error.inj hv))

theorem ite {c : Prop} [Decidable c] (hx : Silent x) (hy : Silent y) :
    Silent (if c then x else y) := by
  split
  · exact hx
  · exact hy

end Silent

namespace Session

variable {α β : Type}

/-! ## Runs -/

theorem run_bind (x : SessionM α) (f : α → SessionM β) (s : Session) :
    (x >>= f).run.run s =
      match x.run.run s with
      | (.ok a, s') => (f a).run.run s'
      | (.error r, s') => (.error r, s') := by
  rw [ExceptT.run_bind, StateT.run_bind]
  rcases x.run.run s with ⟨a | r, s'⟩ <;> rfl

theorem run_bind_ok {x : SessionM α} {s s' : Session} {a : α} (h : x.run.run s = (.ok a, s'))
    (f : α → SessionM β) : (x >>= f).run.run s = (f a).run.run s' := by
  rw [run_bind, h]

theorem run_bind_error {x : SessionM α} {s s' : Session} {r : Refusal}
    (h : x.run.run s = (.error r, s')) (f : α → SessionM β) :
    (x >>= f).run.run s = (.error r, s') := by
  rw [run_bind, h]

theorem run_get (s : Session) : (get : SessionM Session).run.run s = (.ok s, s) := rfl

theorem run_withObjects (f : Objects → SessionM α) (s : Session) :
    (withObjects f).run.run s = (f s.objects).run.run s := rfl

theorem run_ofExcept (x : Except Fault α) (s : Session) :
    (ofExcept x : SessionM α).run.run s = (x.mapError .fault, s) := by
  cases x <;> rfl

/-! ## Reports -/

/-- A computation that comes to `x`. If `x` is refused for a disagreement, it reports that, once and
    in the end, and it reports nothing else. -/
def lift : Except Fault α → SessionM α
  | .ok a => return a
  | .error (.violation v) => violated v
  | .error f => refuse f

theorem lift_pure (a : α) : lift (pure a) = pure a := rfl

theorem lift_violated (v : Violation) : lift (violated v) = (violated v : SessionM α) := rfl

theorem lift_bind (x : Except Fault α) (f : α → Except Fault β) :
    lift (x >>= f) = lift x >>= fun a => lift (f a) := by
  cases x with
  | ok a => rfl
  | error f => cases f <;> rfl

/-- What reports step by step does so as a whole. -/
theorem lift_bind_congr {x : Except Fault α} {y : SessionM α} {f : α → Except Fault β}
    {g : α → SessionM β} (hx : lift x = y) (hf : ∀ a, lift (f a) = g a) :
    lift (x >>= f) = y >>= g := by
  rw [lift_bind, hx]
  exact congrArg _ (funext hf)

theorem lift_map (f : α → β) (x : Except Fault α) : lift (f <$> x) = f <$> lift x := by
  cases x with
  | ok a => rfl
  | error f => cases f <;> rfl

theorem lift_ite {c : Prop} [Decidable c] (x y : Except Fault α) :
    lift (if c then x else y) = if c then lift x else lift y :=
  apply_ite lift c x y

/-- What is refused for anything but a disagreement has nothing to report. -/
theorem lift_ofExcept {x : Except Fault α} (h : Silent x) : lift (ofExcept x) = ofExcept x := by
  cases x with
  | ok a => rfl
  | error f =>
    cases f with
    | violation v => exact absurd rfl (h v)
    | _ => rfl

theorem lift_refuse {f : Fault} (h : f.isViolation = false) :
    lift (refuse f) = (refuse f : SessionM α) :=
  lift_ofExcept (.error h)

theorem lift_mismatch (m : Mismatch) :
    lift (refuse (.mismatch m)) = (refuse (.mismatch m) : SessionM α) := rfl

/-! ## Answers -/

/-- The answers that a computation can come to, in whatever session. -/
def Returns (x : SessionM α) (a : α) : Prop :=
  ∃ s s', x.run.run s = (.ok a, s')

theorem returns_pure_iff {a b : α} : Returns (pure a) b ↔ b = a := by
  constructor
  · rintro ⟨s, s', h⟩
    cases h
    rfl
  · rintro rfl
    exact ⟨.start [], .start [], rfl⟩

theorem returns_ofExcept_iff {x : Except Fault α} {a : α} :
    Returns (ofExcept x) a ↔ x = .ok a := by
  constructor
  · rintro ⟨s, s', h⟩
    cases x <;> cases h
    rfl
  · rintro rfl
    exact ⟨.start [], .start [], rfl⟩

theorem Returns.bind {x : SessionM α} {f : α → SessionM β} {b : β} (h : Returns (x >>= f) b) :
    ∃ a, Returns x a ∧ Returns (f a) b := by
  obtain ⟨s, s', h⟩ := h
  rw [run_bind] at h
  split at h
  · rename_i a t hx
    exact ⟨a, ⟨s, t, hx⟩, t, s', h⟩
  · cases h

/-! ## Settings -/

/-- A choice of checking that is left open is decided in a given way. -/
def Resolves (s : Session) (checked : Bool) : Prop :=
  match s.cache with
  | some settings => settings.checked = checked
  | none => ∃ level, Settings.load s.environment = .ok ⟨checked, level⟩

theorem run_settings_of_cached {s : Session} {c : Settings} (h : s.cache = some c) :
    settings.run.run s = (.ok c, s) := by
  rw [settings, run_bind_ok (run_get s), h]
  rfl

theorem run_settings_of_load {s : Session} {c : Settings} (h : s.cache = none)
    (hload : Settings.load s.environment = .ok c) :
    settings.run.run s = (.ok c, { s with cache := some c }) := by
  have hloaded : loadSettings.run.run s = (.ok c, s) := by
    show (ofExcept (Settings.load s.environment) : SessionM Settings).run.run s = _
    rw [hload]
    rfl
  rw [settings, run_bind_ok (run_get s), h]
  exact run_bind_ok hloaded fun c => do
    modify fun t : Session => { t with cache := some c }
    return c

/-- The settings are read and kept, unless they are kept already. -/
theorem Resolves.run_resolve {s : Session} {checked : Bool} (h : s.Resolves checked) :
    ∃ c : Settings, c.checked = checked ∧
      (resolve none).run.run s = (.ok checked, { s with cache := some c }) := by
  unfold Resolves at h
  cases hcache : s.cache with
  | some c =>
    rw [hcache] at h
    obtain rfl : c.checked = checked := h
    refine ⟨c, rfl, ?_⟩
    rw [resolve, run_bind_ok (run_settings_of_cached hcache), ← hcache]
    rfl
  | none =>
    rw [hcache] at h
    obtain ⟨level, hload⟩ := h
    refine ⟨⟨checked, level⟩, rfl, ?_⟩
    rw [resolve, run_bind_ok (run_settings_of_load hcache hload)]
    rfl

end Session

end Caret
