/-
  Sample texts, whatever their random numbers are.

  * `Corpus.GrowingTexts`: texts of few pieces that stay as they are when more are asked for;
  * `Corpus.GrowingDocument`: so many lines that stay as they are when more are asked for;
  * `growingTexts_drawTexts`, `growingDocument_drawDocument`: any source of random numbers gives
    such;
  * `samples_grow`: this holds of the texts and the document of each seed.
-/
import Caret.Corpus
import Caret.Proofs.Measure.EndPosition
import Caret.Proofs.Random.Source

namespace Caret

namespace Text

/-! ## Lines -/

/-- A line terminator ends the text, and there is no other one. -/
def IsLine (t : Text) : Prop :=
  ∃ s : Text, CodePoint.newline ∉ s ∧ t = s ++ [CodePoint.newline]

variable {t : Text} {lines : List Text}

theorem IsLine.rows_eq (h : t.IsLine) : t.rows = 1 := by
  obtain ⟨s, hs, rfl⟩ := h
  rw [rows_append, rows_eq_zero_iff.2 hs]
  rfl

theorem IsLine.lastLine_eq (h : t.IsLine) : t.lastLine = [] := by
  obtain ⟨s, -, rfl⟩ := h
  exact lastLine_append_of_mem s (List.mem_singleton_self _)

theorem IsLine.newline_mem (h : t.IsLine) : CodePoint.newline ∈ t := by
  obtain ⟨s, -, rfl⟩ := h
  exact List.mem_concat_self

theorem rows_join (h : ∀ t ∈ lines, t.IsLine) : (join lines).rows = lines.length := by
  induction lines with
  | nil => rfl
  | cons t lines ih =>
    obtain ⟨ht, hlines⟩ := List.forall_mem_cons.1 h
    rw [join, List.flatten_cons, rows_append, ht.rows_eq, ← join, ih hlines, List.length_cons,
      Nat.add_comm]

/-- Nothing follows the last of the lines. -/
theorem lastLine_join (h : ∀ t ∈ lines, t.IsLine) : (join lines).lastLine = [] := by
  rcases List.eq_nil_or_concat lines with rfl | ⟨before, t, rfl⟩
  · rfl
  · have ht : t.IsLine := h t (by simp)
    rw [join, List.concat_eq_append, List.flatten_append, List.flatten_singleton,
      lastLine_append_of_mem _ ht.newline_mem, ht.lastLine_eq]

theorem exists_measure_join (hlines : ∀ t ∈ lines, t.IsLine) (ht : ∀ t ∈ lines, t.Encodable)
    (hbytes : (join lines).bytes ≤ Coordinate.limit) :
    ∃ c, (join lines).measure true = .ok c ∧ c.utf8.row.val = lines.length ∧
      c.utf16.row.val = lines.length ∧ c.utf8.column = .zero ∧ c.utf16.column = .zero := by
  obtain ⟨c, hc, hchecked⟩ := exists_endsAt (encodable_join.2 ht) hbytes true
  have hrows := rows_join hlines
  have hlast := lastLine_join hlines
  refine ⟨c, measure_eq_ok_iff.2 ⟨hc, hchecked⟩, hc.row8_eq.trans hrows, hc.row16_eq.trans hrows,
    Coordinate.eq_zero_iff.2 ?_, Coordinate.eq_zero_iff.2 ?_⟩
  · rw [hc.column8_eq, hlast]
    rfl
  · rw [hc.column16_eq, hlast]
    rfl

end Text

namespace Corpus

variable {σ : Type} (source : RandomSource σ) (maxAtoms : Nat) (g : σ)

/-! ## Texts -/

/-- The texts that are there are kept when more are asked for; there are as many as asked for; and
    each consists of pieces, not more than so many. -/
structure GrowingTexts (maxAtoms : Nat) (texts : Int → List Text) : Prop where
  take_eq {n m : Int} : n ≤ m → texts n = (texts m).take n.toNat
  length_eq (n : Int) : (texts n).length = n.toNat
  exists_pieces (n : Int) : ∀ t ∈ texts n, ∃ pieces : List Text,
    pieces.length ≤ maxAtoms ∧ (∀ piece ∈ pieces, piece ∈ atoms) ∧ t = Text.join pieces

theorem exists_pieces_drawText : ∃ pieces : List Text, pieces.length ≤ maxAtoms ∧
    (∀ piece ∈ pieces, piece ∈ atoms) ∧ (drawText source maxAtoms g).1 = Text.join pieces := by
  let n := source.below (maxAtoms + 1) (Nat.succ_pos _) g
  let draw := source.choose atoms (List.cons_ne_nil _ _)
  refine ⟨(RandomSource.times draw n.1 n.2).1, ?_, ?_, rfl⟩
  · rw [RandomSource.length_times]
    exact Nat.le_of_lt_succ n.1.isLt
  · exact RandomSource.forall_mem_times (source.choose_mem _) n.2

theorem growingTexts_drawTexts :
    GrowingTexts maxAtoms fun n => (drawTexts source maxAtoms n.toNat g).1 where
  take_eq {n m} h := by
    have hprefix : (drawTexts source maxAtoms n.toNat g).1 <+:
        (drawTexts source maxAtoms m.toNat g).1 :=
      RandomSource.isPrefix_times (Int.toNat_le_toNat h) g
    rw [List.prefix_iff_eq_take] at hprefix
    rwa [drawTexts, RandomSource.length_times] at hprefix
  length_eq n := RandomSource.length_times _ _ g
  exists_pieces n := RandomSource.forall_mem_times (exists_pieces_drawText source maxAtoms) g

/-- The texts of a seed are drawn from the generator that starts from it. -/
theorem texts_eq_ok {seed maxAtoms : Int} (h : 0 ≤ maxAtoms) (count : Int) :
    texts seed count maxAtoms =
      .ok (drawTexts MersenneTwister.source maxAtoms.toNat count.toNat (.ofSeed seed)).1 := by
  rw [texts]
  split
  · rename_i hcount
    rw [Int.toNat_eq_zero.2 hcount]
    rfl
  · rw [if_neg (Int.not_lt.2 h)]

/-! ## Documents -/

/-- The document starts with what it is when fewer lines are asked for; it has so many line
    terminators; and if it can be measured, it ends at the start of a row. -/
structure GrowingDocument (document : Int → Text) : Prop where
  isPrefix {n m : Int} : n ≤ m → document n <+: document m
  rows_eq (n : Int) : (document n).rows = n.toNat
  exists_measure (n : Int) : (document n).bytes ≤ Coordinate.limit →
    ∃ c, (document n).measure true = .ok c ∧ c.utf8.row.val = n.toNat ∧
      c.utf16.row.val = n.toNat ∧ c.utf8.column = .zero ∧ c.utf16.column = .zero

theorem encodable_drawText : (drawText source maxAtoms g).1.Encodable := by
  obtain ⟨pieces, -, hpieces, htext⟩ := exists_pieces_drawText source maxAtoms g
  have hatoms : ∀ atom ∈ atoms, atom.Encodable := by decide
  rw [htext, Text.encodable_join]
  exact fun piece hpiece => hatoms piece (hpieces piece hpiece)

/-- A line is a text that lost its line terminators, and an end with one line terminator. -/
theorem exists_lineEnd_drawLine : ∃ lineEnd ∈ lineEnds,
    (drawLine source g).1 =
      (drawText source lineMaxAtoms g).1.filter (· ≠ CodePoint.newline) ++ lineEnd :=
  ⟨_, source.choose_mem (List.cons_ne_nil _ _) (drawText source lineMaxAtoms g).2, rfl⟩

theorem isLine_drawLine : (drawLine source g).1.IsLine := by
  obtain ⟨lineEnd, hend, hline⟩ := exists_lineEnd_drawLine source g
  have hends : ∀ lineEnd ∈ lineEnds, lineEnd.IsLine := by
    simp only [lineEnds, List.forall_mem_cons]
    exact ⟨⟨[], by decide, rfl⟩, ⟨[.ofChar '\r'], by decide, rfl⟩, nofun⟩
  obtain ⟨s, hs, rfl⟩ := hends lineEnd hend
  refine ⟨_ ++ s, ?_, hline.trans (List.append_assoc _ _ _).symm⟩
  rw [List.mem_append, List.mem_filter]
  rintro (⟨-, hne⟩ | hmem)
  · exact absurd hne (by decide)
  · exact hs hmem

theorem encodable_drawLine : (drawLine source g).1.Encodable := by
  obtain ⟨lineEnd, hend, hline⟩ := exists_lineEnd_drawLine source g
  have hends : ∀ lineEnd ∈ lineEnds, lineEnd.Encodable := by decide
  rw [hline, Text.encodable_append]
  exact ⟨fun c hc => encodable_drawText source lineMaxAtoms g c (List.mem_of_mem_filter hc),
    hends lineEnd hend⟩

theorem exists_lines_drawDocument (n : Nat) : ∃ lines : List Text, lines.length = n ∧
    (∀ t ∈ lines, t.IsLine ∧ t.Encodable) ∧ (drawDocument source n g).1 = Text.join lines :=
  ⟨_, RandomSource.length_times _ n g,
    RandomSource.forall_mem_times
      (fun g => ⟨isLine_drawLine source g, encodable_drawLine source g⟩) g, rfl⟩

theorem growingDocument_drawDocument :
    GrowingDocument fun n => (drawDocument source n.toNat g).1 where
  isPrefix h := Text.isPrefix_join (RandomSource.isPrefix_times (Int.toNat_le_toNat h) g)
  rows_eq n := by
    obtain ⟨lines, hlength, hlines, hdocument⟩ := exists_lines_drawDocument source g n.toNat
    rw [hdocument, Text.rows_join fun t ht => (hlines t ht).1, hlength]
  exists_measure n hbytes := by
    obtain ⟨lines, hlength, hlines, hdocument⟩ := exists_lines_drawDocument source g n.toNat
    rw [hdocument] at hbytes ⊢
    rw [← hlength]
    exact Text.exists_measure_join (fun t ht => (hlines t ht).1) (fun t ht => (hlines t ht).2)
      hbytes

/-! ## Main statement -/

/-- **Samples grow at their end.** Whatever a source of random numbers gives: texts that are drawn
    from it stay the same when more are drawn, there are as many as asked for, and each is made of
    so many pieces at most; a document stays the start of what it is with more lines, has as many
    line terminators as lines, and ends at the start of the row behind them, which is found without
    any disagreement of measures. So it is for the texts and the document of every seed. -/
theorem samples_grow :
    (∀ {σ : Type} (source : RandomSource σ) (g : σ),
      (∀ maxAtoms : Nat,
        GrowingTexts maxAtoms fun n => (drawTexts source maxAtoms n.toNat g).1) ∧
      GrowingDocument fun n => (drawDocument source n.toNat g).1) ∧
    ∀ seed : Int,
      (∀ maxAtoms : Int, 0 ≤ maxAtoms → ∃ samples : Int → List Text,
        (∀ n, texts seed n maxAtoms = .ok (samples n)) ∧ GrowingTexts maxAtoms.toNat samples) ∧
      GrowingDocument (document seed) := by
  refine ⟨fun source g => ⟨fun maxAtoms => growingTexts_drawTexts source maxAtoms g, ?_⟩,
    fun seed => ⟨fun maxAtoms hle => ?_, ?_⟩⟩
  · exact growingDocument_drawDocument source g
  · exact ⟨_, texts_eq_ok hle, growingTexts_drawTexts MersenneTwister.source maxAtoms.toNat _⟩
  · exact growingDocument_drawDocument MersenneTwister.source _

/-- The numbers that it counts, each taken below the bound. -/
def counting : RandomSource Nat :=
  ⟨fun n h g => (⟨g % n, Nat.mod_lt g h⟩, g + 1)⟩

/-- The first line is drawn as a line end of two characters and a letter, and keeps one of the
    characters of that line end. -/
theorem samples_grow_counting :
    (drawDocument counting 1 28).1 = Text.ofString "\ra\r\n" ∧
    Text.ofString "\ra\r\n" <+: (drawDocument counting 2 28).1 ∧
    (∃ c, (Text.ofString "\ra\r\n").measure true = .ok c ∧ c.utf8.row.val = 1 ∧
      c.utf8.column = .zero) ∧
    ∃ samples : Int → List Text, (∀ n, texts (-7) n 3 = .ok (samples n)) ∧
      samples (-1) = (samples 4).take 0 ∧ (samples 4).length = 4 := by
  obtain ⟨hsource, hseed⟩ := samples_grow
  obtain ⟨-, hdocument⟩ := hsource counting 28
  have hfirst : (drawDocument counting 1 28).1 = Text.ofString "\ra\r\n" := by decide
  obtain ⟨c, hc, hrow, -, hcolumn, -⟩ := hdocument.exists_measure 1 (by decide)
  obtain ⟨samples, hsamples, hgrow⟩ := (hseed (-7)).1 3 (by decide)
  have hprefix := hdocument.isPrefix (n := 1) (m := 2) (by decide)
  exact ⟨hfirst, hfirst ▸ hprefix, ⟨c, hfirst ▸ hc, hrow, hcolumn⟩, samples, hsamples,
    hgrow.take_eq (n := -1) (m := 4) (by decide), hgrow.length_eq 4⟩

end Corpus

end Caret
