/-
  What measuring comes to for any text: where surrogates are reported, and what else is refused.

  * `Text.FirstRun`: the first surrogates of a text that follow one another;
  * `firstSurrogates?_eq_some_iff`: these are the ones that encoding reports;
  * `utf8Length_eq_error_iff`: the length of a text is refused for nothing else;
  * `measure_of_lastLine`, `measure_of_earlier`: the last line is looked at first, and counted from
    its own start;
  * `measure_eq_error_iff`: all refusals;
  * `measure_answers_or_refuses`: what measuring comes to.
-/
import Caret.Proofs.Measure.EndPosition

namespace Caret.Text

/-! ## The first surrogates -/

/-- The first surrogates of a text are those of a run: nothing in front of it is one, and what
    follows it directly is none. -/
inductive FirstRun : Text → SurrogateRun → Prop
  /-- A run behind `before` and in front of `behind`. -/
  | intro (before more behind : Text) (c : CodePoint) (hbefore : before.Encodable)
      (hfirst : c.isSurrogate = true) (hmore : ∀ d ∈ more, d.isSurrogate = true)
      (hbehind : ∀ d ∈ behind.head?, d.isSurrogate = false) :
      FirstRun (before ++ c :: (more ++ behind)) ⟨before.length, c, more.length⟩

variable {t : Text} {r : SurrogateRun} {f : Fault}

theorem FirstRun.exists_surrogate (h : t.FirstRun r) : ∃ c ∈ t, c.isSurrogate = true := by
  cases h with
  | intro before more behind c hbefore hfirst => exact ⟨c, by simp, hfirst⟩

theorem not_encodable_of_mem {c : CodePoint} (hc : c ∈ t) (h : c.isSurrogate = true) :
    ¬t.Encodable := by
  intro ht
  cases h.symm.trans (ht c hc)

/-- What stops a run does not go on with it. -/
theorem of_mem_head?_dropWhile {p : CodePoint → Bool} {d : CodePoint}
    (h : d ∈ (t.dropWhile p).head?) : p d = false := by
  have hhead := List.head?_dropWhile_not p t
  rw [h] at hhead
  exact hhead

/-- A text is taken apart at its first surrogate, and again behind the last that follows it. -/
theorem firstSurrogates?_eq_some_iff : t.firstSurrogates? = some r ↔ t.FirstRun r := by
  constructor
  · intro h
    rw [firstSurrogates?, refusedRun?] at h
    cases hdrop : t.dropWhile (!·.isSurrogate) with
    | nil =>
      rw [hdrop] at h
      cases h
    | cons c rest =>
      rw [hdrop] at h
      cases h
      have hfirst : c.isSurrogate = true := by
        have hhead : c ∈ (t.dropWhile (!·.isSurrogate)).head? := by
          rw [hdrop]
          rfl
        simpa using of_mem_head?_dropWhile hhead
      have hrun := FirstRun.intro (t.takeWhile (!·.isSurrogate)) (rest.takeWhile (·.isSurrogate))
        (rest.dropWhile (·.isSurrogate)) c
        (fun d hd => by simpa using List.mem_takeWhile_imp hd) hfirst
        (fun d hd => List.mem_takeWhile_imp hd) (fun d hd => of_mem_head?_dropWhile hd)
      rwa [List.takeWhile_append_dropWhile, ← hdrop, List.takeWhile_append_dropWhile] at hrun
  · rintro ⟨before, more, behind, c, hbefore, hfirst, hmore, hbehind⟩
    have hbefore' : ∀ d ∈ before, (!d.isSurrogate) = true := by
      intro d hd
      rw [hbefore d hd]
      rfl
    have hstop : behind.takeWhile (·.isSurrogate) = [] := by
      cases behind with
      | nil => rfl
      | cons d rest => exact List.takeWhile_cons_of_neg (by simp [hbehind d rfl])
    rw [firstSurrogates?, refusedRun?, List.dropWhile_append_of_pos hbefore',
      List.takeWhile_append_of_pos hbefore', List.dropWhile_cons_of_neg (by simp [hfirst]),
      List.takeWhile_cons_of_neg (by simp [hfirst])]
    simp [List.takeWhile_append_of_pos hmore, hstop]

theorem exists_firstRun (h : ¬t.Encodable) : ∃ r, t.FirstRun r := by
  rw [← firstSurrogates?_eq_none_iff, ← Ne, Option.ne_none_iff_exists'] at h
  obtain ⟨r, hr⟩ := h
  exact ⟨r, firstSurrogates?_eq_some_iff.1 hr⟩

/-! ## Measuring -/

theorem utf8Length_eq_error_iff :
    t.utf8Length = .error f ↔ ∃ r, f = .unencodable r ∧ t.FirstRun r := by
  simp only [← firstSurrogates?_eq_some_iff, utf8Length, encodeUtf8]
  cases t.firstSurrogates? with
  | none => simp
  | some r => simp [eq_comm]

/-- The last line is encoded first, and by itself. -/
theorem measure_of_lastLine (h : t.lastLine.FirstRun r) (checked : Bool) :
    t.measure checked = .error (.unencodable r) := by
  rw [measure, endPosition, utf8Length_eq_error_iff.2 ⟨r, rfl, h⟩]
  rfl

/-- Then the whole text is. -/
theorem measure_of_earlier (hlast : t.lastLine.Encodable) (h : t.FirstRun r) (checked : Bool) :
    t.measure checked = .error (.unencodable r) := by
  rw [measure, endPosition, utf8Length_of_encodable hlast, utf8Length_eq_error_iff.2 ⟨r, rfl, h⟩]
  rfl

theorem measure_eq_error_iff {checked : Bool} :
    t.measure checked = .error f ↔
      (∃ r, f = .unencodable r ∧
        (t.lastLine.FirstRun r ∨ t.lastLine.Encodable ∧ t.FirstRun r)) ∨
      f = .tooLarge "index" t.bytes ∧ t.Encodable ∧ Coordinate.limit < t.bytes := by
  constructor
  · intro hf
    by_cases hlast : t.lastLine.Encodable
    · by_cases ht : t.Encodable
      · refine .inr ?_
        by_cases hb : t.bytes ≤ Coordinate.limit
        · obtain ⟨c, hc⟩ : ∃ c, t.measure checked = .ok c := exists_measure_iff.2 ⟨ht, hb⟩
          cases hf.symm.trans hc
        · have hlt := Nat.lt_of_not_le hb
          cases hf.symm.trans (measure_of_lt ht hlt)
          exact ⟨rfl, ht, hlt⟩
      · obtain ⟨r, hr⟩ := exists_firstRun ht
        cases hf.symm.trans (measure_of_earlier hlast hr checked)
        exact .inl ⟨r, rfl, .inr ⟨hlast, hr⟩⟩
    · obtain ⟨r, hr⟩ := exists_firstRun hlast
      cases hf.symm.trans (measure_of_lastLine hr checked)
      exact .inl ⟨r, rfl, .inl hr⟩
  · rintro (⟨r, rfl, hlast | ⟨hlast, hr⟩⟩ | ⟨rfl, ht, hb⟩)
    · exact measure_of_lastLine hlast checked
    · exact measure_of_earlier hlast hr checked
    · exact measure_of_lt ht hb

/-- **Any surrogate is refused**, in the last line or in front of it. -/
theorem exists_unencodable_iff {checked : Bool} :
    (∃ r, t.measure checked = .error (.unencodable r)) ↔ ∃ c ∈ t, c.isSurrogate = true := by
  constructor
  · rintro ⟨r, hr⟩
    rcases measure_eq_error_iff.1 hr with ⟨_, -, hlast | ⟨-, ht⟩⟩ | ⟨hf, -⟩
    · obtain ⟨c, hc, hsurrogate⟩ := hlast.exists_surrogate
      exact ⟨c, (lastLine_suffix t).mem hc, hsurrogate⟩
    · exact ht.exists_surrogate
    · cases hf
  · rintro ⟨c, hc, hsurrogate⟩
    by_cases hlast : t.lastLine.Encodable
    · obtain ⟨r, hr⟩ := exists_firstRun (not_encodable_of_mem hc hsurrogate)
      exact ⟨r, measure_of_earlier hlast hr checked⟩
    · obtain ⟨r, hr⟩ := exists_firstRun hlast
      exact ⟨r, measure_of_lastLine hr checked⟩

/-! ## Main statement -/

/-- **What measuring comes to.** Any text with surrogates is refused for the first of them: counted
    from the start of the last line if that has some, and from the start of the text otherwise. A
    text without surrogates is refused for its index exactly if that is beyond the limit. All others
    are answered by the end of the text, and nothing else is ever refused, whether the answer is to
    be watched or not. -/
theorem measure_answers_or_refuses (t : Text) (checked : Bool) :
    ((∃ r, t.measure checked = .error (.unencodable r)) ↔ ∃ c ∈ t, c.isSurrogate = true) ∧
    (∀ f, t.measure checked = .error f ↔
      (∃ r, f = .unencodable r ∧
        (t.lastLine.FirstRun r ∨ t.lastLine.Encodable ∧ t.FirstRun r)) ∨
      f = .tooLarge "index" t.bytes ∧ t.Encodable ∧ Coordinate.limit < t.bytes) ∧
    ((∃ c, t.measure checked = .ok c) ↔ t.Encodable ∧ t.bytes ≤ Coordinate.limit) ∧
    ∀ c, t.measure checked = .ok c ↔ t.EndsAt c ∧ c.checked = checked :=
  ⟨exists_unencodable_iff, fun _ => measure_eq_error_iff, exists_measure_iff,
    fun _ => measure_eq_ok_iff⟩

/-- Two surrogates on the last line hide the one on the first, and are counted from where the last
    line starts. Without them the other one is found, counted from where the text starts. -/
theorem measure_answers_or_refuses_with_surrogates :
    ∃ (first second : CodePoint) (s t : Text), s = [.ofChar 'é', first, CodePoint.newline] ∧
      t = s ++ [.ofChar 'a', second, second] ∧
      t.measure true = .error (.unencodable ⟨1, second, 1⟩) ∧
      (∃ r, t.measure true = .error (.unencodable r)) ∧
      s.measure true = .error (.unencodable ⟨1, first, 0⟩) ∧
      ∃ c, (Text.ofString "é\nab").measure true = .ok c ∧ (Text.ofString "é\nab").EndsAt c := by
  let first : CodePoint := ⟨0xD800, by decide⟩
  let second : CodePoint := ⟨0xDC00, by decide⟩
  let s : Text := [.ofChar 'é', first, CodePoint.newline]
  let t : Text := s ++ [.ofChar 'a', second, second]
  obtain ⟨hany, herror, -, -⟩ := measure_answers_or_refuses t true
  obtain ⟨-, herror', -, -⟩ := measure_answers_or_refuses s true
  obtain ⟨-, -, hexists, hok⟩ := measure_answers_or_refuses "é\nab" true
  have hlast : t.lastLine.FirstRun ⟨1, second, 1⟩ :=
    .intro [.ofChar 'a'] [second] [] second (by decide) rfl (by decide) nofun
  have hfirst : s.FirstRun ⟨1, first, 0⟩ :=
    .intro [.ofChar 'é'] [] [CodePoint.newline] first (by decide) rfl nofun (by decide)
  obtain ⟨c, hc⟩ := hexists.2 ⟨by decide, by decide⟩
  exact ⟨first, second, s, t, rfl, rfl, (herror _).2 (.inl ⟨_, rfl, .inl hlast⟩),
    hany.2 ⟨second, by decide, rfl⟩, (herror' _).2 (.inl ⟨_, rfl, .inr ⟨by decide, hfirst⟩⟩),
    c, hc, ((hok c).1 hc).1⟩

end Caret.Text
