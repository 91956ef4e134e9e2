/-
  Sessions that keep nothing but sound values.

  * `Session.Sound`: what the requests came to is sound, and so is what error objects say;
  * `Keeps`: a computation keeps sessions sound, and answers what has a property;
  * `Keeps.bind`: step by step, this is so of the whole;
  * `keeps_newReport`, `keeps_assign`: changes of objects;
  * `keeps_watched`: a composite with its choice of checking.
-/
import Caret.Proofs.Reporting.Values
import Caret.Proofs.WellFormed.Answers
import Caret.Script.Argument

namespace Caret

open Session

/-- What the requests so far came to is sound, and so is what error objects say by now. -/
structure Session.Sound (s : Session) : Prop where
  objects : s.objects.Sound
  past : ∀ v, some v ∈ s.past → v.Sound

theorem Session.sound_start (env : Environment) : (start env).Sound :=
  ⟨Objects.sound_initial, nofun⟩

/-- In sound sessions `x` answers what has the property `P`, and what goes with an error object that
    it raises is well-formed. The session is sound afterwards, whatever `x` comes to. -/
def Keeps {α : Type} (P : α → Prop) (x : SessionM α) : Prop :=
  ∀ ⦃s⦄, s.Sound → (x.run.run s).2.Sound ∧
    match (x.run.run s).1 with
    | .ok a => P a
    | .error refusal => refusal.WellFormed

namespace Keeps

variable {α β : Type} {P : α → Prop} {Q : β → Prop}

theorem pure {a : α} (h : P a) : Keeps P (pure a) :=
  fun _ hs => ⟨hs, h⟩

theorem bind {x : SessionM α} {f : α → SessionM β} (h : Keeps P x)
    (hf : ∀ a, P a → Keeps Q (f a)) : Keeps Q (x >>= f) := by
  intro s hs
  obtain ⟨hs', ha⟩ := h hs
  rcases hx : x.run.run s with ⟨a | refusal, s'⟩
  · rw [run_bind_error hx]
    rw [hx] at hs' ha
    exact ⟨hs', ha⟩
  · rw [run_bind_ok hx]
    rw [hx] at hs' ha
    exact hf _ ha hs'

theorem throw {refusal : Refusal} (h : refusal.WellFormed) : Keeps P (throw refusal) :=
  fun _ hs => ⟨hs, h⟩

theorem ofExcept {x : Except Fault α} (h : Ensures P x) : Keeps P (Caret.ofExcept x) := by
  intro s hs
  cases x with
  | ok a => exact ⟨hs, h a rfl⟩
  | error f => exact ⟨hs, trivial⟩

/-- To report a disagreement does no more to a session than to log it. -/
theorem violated (v : Violation) : Keeps P (violated v) :=
  fun _ hs => ⟨⟨hs.objects, hs.past⟩, trivial⟩

/-- A computation that reports what it is refused for, and nothing else. -/
theorem of_lift {x : SessionM α} {y : Except Fault α} (hx : Session.lift y = x)
    (h : Ensures P y) : Keeps P x := by
  subst hx
  cases y with
  | ok a => exact .pure (h a rfl)
  | error f =>
    cases f with
    | violation v => exact .violated v
    | _ => exact .ofExcept (.error _)

/-- A computation that depends on the session as it is. -/
theorem get {f : Session → SessionM α} (h : ∀ ⦃s⦄, s.Sound → Keeps P (f s)) :
    Keeps P (do f (← MonadState.get)) :=
  fun _ hs => h hs hs

theorem withObjects {f : Objects → SessionM α} (h : ∀ o, o.Sound → Keeps P (f o)) :
    Keeps P (Session.withObjects f) :=
  get fun s hs => h s.objects hs.objects

theorem modify {f : Session → Session} (h : ∀ s, s.Sound → (f s).Sound) :
    Keeps (fun _ => True) (modify f) :=
  fun s hs => ⟨h s hs, trivial⟩

end Keeps

/-! ## Settings and log -/

theorem keeps_loadSettings : Keeps (fun _ => True) loadSettings :=
  .get fun _ _ => .ofExcept (.trivial _)

theorem keeps_settings : Keeps (fun _ => True) settings := by
  refine .get fun s _ => ?_
  cases s.cache with
  | some c => exact .pure trivial
  | none =>
    refine keeps_loadSettings.bind fun c _ => ?_
    refine Keeps.bind (.modify ?_) fun _ _ => .pure trivial
    exact fun _ hs => ⟨hs.objects, hs.past⟩

theorem keeps_resetSettings : Keeps (fun _ => True) resetSettings :=
  .modify fun _ hs => ⟨hs.objects, hs.past⟩

theorem keeps_resolve (choice : Option Bool) : Keeps (fun _ => True) (resolve choice) := by
  cases choice with
  | some checked => exact .pure trivial
  | none => exact keeps_settings.bind fun _ _ => .pure trivial

theorem keeps_changeEnvironment (f : Environment → Environment) :
    Keeps (fun _ => True) (changeEnvironment f) :=
  .modify fun _ hs => ⟨hs.objects, hs.past⟩

theorem keeps_changeLog (f : Log → Log) : Keeps (fun _ => True) (changeLog f) :=
  .modify fun _ hs => ⟨hs.objects, hs.past⟩

theorem keeps_setUpLog (level : Level) : Keeps Value.Sound (setUpLog level) :=
  (keeps_changeLog _).bind fun _ _ => .pure (.logger _)

theorem keeps_partLogger (part : Text) : Keeps Value.Sound (partLogger part) :=
  (keeps_changeLog _).bind fun _ _ => .pure (.logger _)

/-! ## Objects -/

theorem keeps_newMark : Keeps (fun _ => True) newMark := by
  refine .get fun s _ => Keeps.bind (.modify ?_) fun _ _ => .pure trivial
  exact fun _ hs => ⟨hs.objects, hs.past⟩

theorem keeps_marked {v : Value} (hv : v.Sound) : Keeps Value.Sound (marked v) :=
  keeps_newMark.bind fun n _ => .pure (hv.marked n)

/-- An error object says what it was made from. -/
theorem keeps_newReport (kind : ReportKind) {given : List Value} (h : ∀ v ∈ given, v.Sound) :
    Keeps Value.Sound (newReport kind given) := by
  refine keeps_newMark.bind fun mark _ => ?_
  refine Keeps.bind (.modify ?_) fun _ _ => .pure (.report mark kind)
  have hcontents : Contents.Sound ⟨given.getD 0 .null, given.getD 1 .null, given⟩ :=
    ⟨Value.sound_getD h 0, Value.sound_getD h 1, h⟩
  exact fun s hs => ⟨hs.objects.withContents mark hcontents, hs.past⟩

theorem keeps_assign (v : Value) (name : Text) {w : Value} (hw : w.Sound) :
    Keeps (fun _ => True) (Session.assign v name w) :=
  (Keeps.withObjects fun _ ho => .ofExcept (Value.ensures_assign ho name hw v)).bind fun _ ho =>
    .modify fun _ hs => ⟨ho, hs.past⟩

/-! ## Composites -/

/-- A composite is looked at when its choice of checking is known. -/
theorem keeps_watched (c : Composite) (choice : Value) :
    Keeps Kind.composite.Sound (watched c choice) :=
  (Keeps.ofExcept (.trivial _)).bind fun choice _ => (keeps_resolve choice).bind fun checked _ =>
    .of_lift (c.lift_withChecked checked) (c.ensures_withChecked checked)

end Caret
