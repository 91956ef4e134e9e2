/-
  Where nothing asks for the settings, neither they nor the environment make a difference.

  * `Script.LeavesSettings`: requests none of which asks for the settings or loads them;
  * `Step.answer_leaving`: such a request in peers;
  * `Step.onGiven`: requests that never ask, in whatever session;
  * `Script.runFrom_leaving`: peers come to the same with requests that do not ask;
  * `Script.no_influence_of_settings`: they do at every point, and keep what they keep.
-/
import Caret.Proofs.Settings.Caching

namespace Caret

open Session

/-! ## Requests -/

/-- An argument is given data, or what an earlier request answered. -/
def Expr.isGiven : Expr → Bool
  | .data _ | .ref _ => true
  | _ => false

namespace Step

/-- A request that does not ask, in a session and in a peer of it. To forget the settings is no
    question for them, but it is what changes those that are kept. -/
theorem answer_leaving {step : Step} (hload : step ≠ .loadSettings) {s t : Session}
    (hasks : step.asks s = false) (hst : s.Peers t) :
    (step.answer t).1 = (step.answer s).1 ∧ (step.answer s).2.Peers (step.answer t).2 ∧
      (step ≠ .resetSettings → (step.answer t).2.cache = t.cache) ∧
      (step = .resetSettings → (step.answer t).2.cache = none) := by
  by_cases hreset : step = .resetSettings
  · subst hreset
    refine ⟨rfl, ?_, fun h => absurd rfl h, fun _ => cache_answer_resetSettings t⟩
    exact ⟨hst.objects_eq, congrArg (· + 1) hst.marks_eq,
      congrArg (· ++ [some Value.null]) hst.past_eq⟩
  · obtain ⟨houtcome, hpeers, hcache⟩ := answer_peers hload hreset hst fun h => by
      rw [hasks] at h
      cases h
    exact ⟨houtcome, hpeers, fun _ => hcache, fun h => absurd h hreset⟩

/-- An operation on given data and on what earlier requests answered, or the end of such a text with
    no choice of checking left open. -/
def onGiven : Step → Bool
  | unary _ x => x.isGiven
  | binary _ x y => x.isGiven && y.isGiven
  | fieldSum name x y => name.isGiven && x.isGiven && y.isGiven
  | measure text none => text.isGiven
  | measure text (some (.data (.bool _))) => text.isGiven
  | _ => false

theorem anyAsks_given {e : Expr} {rest : List Expr} {after : List Value → Bool} {s : Session}
    (he : e.isGiven = true)
    (hrest : ∀ v s', e.eval.run.run s = (.ok v, s') →
      anyAsks (fun vs => after (v :: vs)) rest s' = false) :
    anyAsks after (e :: rest) s = false := by
  have hasks : e.asks s = false := by
    match e with
    | .data d => rfl
    | .ref i => rfl
  rw [anyAsks, hasks, Bool.false_or]
  rcases hrun : e.eval.run.run s with ⟨r | v, s'⟩
  · exact leadsTo_of_refused hrun _
  · rw [leadsTo_of_run hrun]
    exact hrest v s' hrun

/-- What positions and ranges are asked to do never asks for the settings. -/
theorem asks_of_onGiven {step : Step} (h : step.onGiven = true) (s : Session) :
    step.asks s = false := by
  match step with
  | unary _ x => exact anyAsks_given h fun _ _ _ => rfl
  | binary _ x y =>
    obtain ⟨hx, hy⟩ := Bool.and_eq_true_iff.1 h
    exact anyAsks_given hx fun _ _ _ => anyAsks_given hy fun _ _ _ => rfl
  | fieldSum name x y =>
    obtain ⟨hnx, hy⟩ := Bool.and_eq_true_iff.1 h
    obtain ⟨hname, hx⟩ := Bool.and_eq_true_iff.1 hnx
    refine anyAsks_given hname fun _ _ _ => anyAsks_given hx fun _ _ _ => ?_
    exact anyAsks_given hy fun _ _ _ => rfl
  | measure text none => exact anyAsks_given h fun _ _ _ => Bool.and_false _
  | measure text (some (.data (.bool checked))) =>
    refine anyAsks_given h fun _ _ _ => anyAsks_given rfl fun w s' hw => ?_
    obtain rfl : Value.bool checked = w := Except.ok.inj (congrArg Prod.fst hw)
    exact Bool.and_false _

end Step

/-! ## Runs -/

namespace Script

/-- None of the requests asks for the settings of the session in which it is answered, or loads
    those of the environment. -/
def LeavesSettings : List Step → Session → Prop
  | [], _ => True
  | step :: rest, s =>
    step ≠ .loadSettings ∧ step.asks s = false ∧ LeavesSettings rest (step.answer s).2

theorem LeavesSettings.take {steps : List Step} {s : Session} (h : LeavesSettings steps s)
    (n : Nat) : LeavesSettings (steps.take n) s := by
  induction steps generalizing s n with
  | nil =>
    rw [List.take_nil]
    exact trivial
  | cons step rest ih =>
    cases n with
    | zero => exact trivial
    | succ n => exact ⟨h.1, h.2.1, ih h.2.2 n⟩

/-- **A run without questions.** Peers have the same outcomes and stay peers, and each keeps what it
    keeps unless it is told to forget it. -/
theorem runFrom_leaving {steps : List Step} {s t : Session} (h : LeavesSettings steps s)
    (hst : s.Peers t) :
    (runFrom steps t).1 = (runFrom steps s).1 ∧ (after steps s).Peers (after steps t) ∧
      (.resetSettings ∉ steps → (after steps t).cache = t.cache) ∧
      (.resetSettings ∈ steps → (after steps t).cache = none) := by
  induction steps generalizing s t with
  | nil => exact ⟨rfl, hst, fun _ => rfl, nofun⟩
  | cons step rest ih =>
    obtain ⟨hload, hasks, hrest⟩ := h
    obtain ⟨houtcome, hpeers, hkeeps, hforgets⟩ := Step.answer_leaving hload hasks hst
    obtain ⟨houtcomes, hpeers', hkeeps', hforgets'⟩ := ih hrest hpeers
    refine ⟨?_, hpeers', fun hnot => ?_, fun hmem => ?_⟩
    · show (step.answer t).1 :: _ = (step.answer s).1 :: _
      rw [houtcome]
      exact congrArg _ houtcomes
    · rw [List.mem_cons, not_or] at hnot
      exact (hkeeps' hnot.2).trans (hkeeps (Ne.symm hnot.1))
    · by_cases hlater : .resetSettings ∈ rest
      · exact hforgets' hlater
      · have hstep : .resetSettings = step := (List.mem_cons.1 hmem).resolve_right hlater
        exact (hkeeps' hlater).trans (hforgets hstep.symm)

/-- **No influence.** Take two sessions that differ only in the environment and in the settings that
    they keep, whether those make sense or not, and requests none of which asks for the settings or
    loads them. At every point both come to the same: all outcomes are the same, and so are the log,
    the error objects and the values so far. What each of them keeps does not change, except that it
    is forgotten when that is requested.

    What positions and ranges are asked to do, and the end of a text that is watched or not, are
    such requests in whatever session. -/
theorem no_influence_of_settings :
    (∀ (steps : List Step) (s t : Session), s.Peers t → LeavesSettings steps s →
      (runFrom steps t).1 = (runFrom steps s).1 ∧
      ∀ n, (after (steps.take n) s).Peers (after (steps.take n) t) ∧
        ∀ u, u = s ∨ u = t →
          (.resetSettings ∉ steps.take n → (after (steps.take n) u).cache = u.cache) ∧
          (.resetSettings ∈ steps.take n → (after (steps.take n) u).cache = none)) ∧
    ∀ (step : Step) (s t : Session), step.onGiven = true → s.Peers t →
      (step.answer t).1 = (step.answer s).1 ∧ (step.answer s).2.Peers (step.answer t).2 ∧
      (step.answer s).2.cache = s.cache ∧ (step.answer t).2.cache = t.cache := by
  constructor
  · intro steps s t hst h
    refine ⟨(runFrom_leaving h hst).1, fun n => ⟨(runFrom_leaving (h.take n) hst).2.1, ?_⟩⟩
    intro u hu
    have hsu : s.Peers u := by
      rcases hu with rfl | rfl
      · exact .refl u
      · exact hst
    exact (runFrom_leaving (h.take n) hsu).2.2
  · intro step s t hstep hst
    have hasks := Step.asks_of_onGiven hstep s
    have hload : step ≠ .loadSettings := by
      rintro rfl
      cases hstep
    have hreset : step ≠ .resetSettings := by
      rintro rfl
      cases hstep
    obtain ⟨houtcome, hpeers, ht, -⟩ := Step.answer_leaving hload hasks hst
    obtain ⟨-, -, hs, -⟩ := Step.answer_leaving hload hasks (.refl s)
    exact ⟨houtcome, hpeers, hs hreset, ht hreset⟩

/-- A composite that is watched and one that is not, their sum, how they compare, and to forget the
    settings. -/
def sumThenForget : List Step :=
  let numbers (ns : List Int) (checked : Bool) : Expr :=
    .build .numbers (ns.map (.data <| .int ·) ++ [.data (.bool checked)])
  [.unary .value (numbers [4, 1, 2, 2] true), .unary .value (numbers [3, 1, 0, 1] false),
    .binary .add (.ref 0) (.ref 1), .binary (.test .lt) (.ref 0) (.ref 1), .resetSettings]

/-- They come to the same where a variable makes no sense but settings are kept, and where nothing
    is set or kept. The settings are kept until they are forgotten. -/
theorem no_influence_of_settings_sumThenForget :
    let odd := Environment.ofList [(Settings.checkedVariable, "maybe")]
    let t : Session := { Session.start odd with cache := some ⟨true, .debug⟩ }
    (runFrom sumThenForget t).1 = (runFrom sumThenForget (.start [])).1 ∧
      (after (sumThenForget.take 4) t).cache = some ⟨true, .debug⟩ ∧
      (after (sumThenForget.take 5) t).cache = none ∧
      ((Step.measure (.data (.text "a")) none).answer t).1 =
        ((Step.measure (.data (.text "a")) none).answer (.start [])).1 := by
  intro odd t
  have hleaves : LeavesSettings sumThenForget (.start []) :=
    ⟨nofun, by decide +kernel, nofun, by decide +kernel, nofun, by decide +kernel, nofun,
      by decide +kernel, nofun, by decide +kernel, trivial⟩
  obtain ⟨hsame, hpoint⟩ :=
    no_influence_of_settings.1 sumThenForget (.start []) t ⟨rfl, rfl, rfl⟩ hleaves
  have hkeeps := ((hpoint 4).2 t (.inr rfl)).1
  have hforgets := ((hpoint 5).2 t (.inr rfl)).2
  obtain ⟨hmeasured, -⟩ :=
    no_influence_of_settings.2 (.measure (.data (.text "a")) none) (.start []) t rfl ⟨rfl, rfl, rfl⟩
  refine ⟨hsame, hkeeps ?_, hforgets ?_, hmeasured⟩
  · simp [sumThenForget]
  · simp [sumThenForget]

/-- To forget the settings asks for nothing, but they are not kept. -/
theorem not_kept_when_forgotten :
    ¬∀ (steps : List Step) (s t : Session), s.Peers t → LeavesSettings steps s →
      (runFrom steps t).1 = (runFrom steps s).1 ∧ (after steps s).cache = s.cache ∧
        (after steps t).cache = t.cache := by
  intro h
  let s : Session := after [.settings] (.start [])
  have hcache : s.cache = some ⟨false, .warning⟩ := by decide +kernel
  obtain ⟨-, hkept, -⟩ := h [.resetSettings] s s (.refl s) ⟨nofun, rfl, trivial⟩
  rw [hcache] at hkept
  cases hkept

end Script

end Caret
