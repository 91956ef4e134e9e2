/-
  Lengths of texts in both encodings, and how rows, last lines and lengths go together.

  * `Text.Encodable`: no surrogates, which is what both encodings ask for;
  * `Text.bytes`, `Text.units`: the number of code units of a text in UTF-8 and in UTF-16;
  * `utf8Length_eq_ok_iff`: the length that measuring looks for is `bytes`, of encodable texts only;
  * `rows_append`, `lastLine_append_of_mem`: a line terminator in the second text hides the last
    line of the first;
  * `units_le_bytes`, `bytes_le_units`, `rows_add_bytes_lastLine_le`: what the lengths of a text
    allow each other.
-/
import Caret.Measure
import Mathlib.Data.List.DropRight

namespace Caret

/-! ## Code points -/

namespace CodePoint

theorem length_utf16_le (c : CodePoint) : c.utf16.length ≤ c.utf8.length := by
  simp only [utf16, utf8]
  repeat' split
  all_goals simp_all only [List.length_cons, List.length_nil]
  all_goals omega

theorem length_utf8_le (c : CodePoint) : c.utf8.length ≤ 3 * c.utf16.length := by
  simp only [utf16, utf8]
  repeat' split
  all_goals simp_all only [List.length_cons, List.length_nil]
  all_goals omega

theorem length_utf8_pos (c : CodePoint) : 0 < c.utf8.length := by
  simp only [utf8]
  repeat' split
  all_goals exact Nat.succ_pos _

end CodePoint

namespace Text

/-! ## Encodable texts -/

/-- A text without surrogates. -/
def Encodable (t : Text) : Prop :=
  ∀ c ∈ t, c.isSurrogate = false

instance (t : Text) : Decidable t.Encodable :=
  inferInstanceAs (Decidable (∀ c ∈ t, c.isSurrogate = false))

@[simp]
theorem encodable_nil : Encodable [] :=
  fun _ h => absurd h List.not_mem_nil

@[simp]
theorem encodable_cons {c : CodePoint} {t : Text} :
    Encodable (c :: t) ↔ c.isSurrogate = false ∧ t.Encodable :=
  List.forall_mem_cons

@[simp]
theorem encodable_append {s t : Text} : (s ++ t).Encodable ↔ s.Encodable ∧ t.Encodable :=
  List.forall_mem_append

theorem encodable_join {pieces : List Text} :
    (join pieces).Encodable ↔ ∀ t ∈ pieces, t.Encodable :=
  List.forall_mem_flatten

theorem encodable_replicate {n : Nat} {c : CodePoint} (h : c.isSurrogate = false) :
    Encodable (List.replicate n c) :=
  fun _ hd => List.eq_of_mem_replicate hd ▸ h

theorem Encodable.of_suffix {s t : Text} (h : t.Encodable) (hs : s <:+ t) : s.Encodable :=
  fun c hc => h c (hs.mem hc)

theorem firstSurrogates?_eq_none_iff {t : Text} : t.firstSurrogates? = none ↔ t.Encodable := by
  have key : t.dropWhile (!·.isSurrogate) = [] ↔ t.Encodable := by
    rw [List.dropWhile_eq_nil_iff]
    simp only [Bool.not_eq_eq_eq_not, Bool.not_true, Encodable]
  rw [← key]
  unfold firstSurrogates? refusedRun?
  split
  · rename_i h; simp [h]
  · rename_i h; simp [h]

/-! ## Lengths -/

/-- The number of code units of a text in UTF-8. -/
def bytes (t : Text) : Nat :=
  (t.flatMap CodePoint.utf8).length

/-- The number of code units of a text in UTF-16. -/
def units (t : Text) : Nat :=
  t.encodeUtf16.length

@[simp] theorem bytes_nil : bytes [] = 0 := rfl
@[simp] theorem units_nil : units [] = 0 := rfl

@[simp]
theorem bytes_cons (c : CodePoint) (t : Text) : bytes (c :: t) = c.utf8.length + t.bytes := by
  simp only [bytes, List.flatMap_cons, List.length_append]

@[simp]
theorem units_cons (c : CodePoint) (t : Text) : units (c :: t) = c.utf16.length + t.units := by
  simp only [units, encodeUtf16, List.flatMap_cons, List.length_append]

@[simp]
theorem bytes_append (s t : Text) : (s ++ t).bytes = s.bytes + t.bytes := by
  simp only [bytes, List.flatMap_append, List.length_append]

@[simp]
theorem units_append (s t : Text) : (s ++ t).units = s.units + t.units := by
  simp only [units, encodeUtf16, List.flatMap_append, List.length_append]

@[simp]
theorem bytes_replicate (n : Nat) (c : CodePoint) :
    bytes (List.replicate n c) = n * c.utf8.length := by
  induction n with
  | zero => rw [Nat.zero_mul]; rfl
  | succ n ih => rw [List.replicate_succ, bytes_cons, ih, Nat.succ_mul, Nat.add_comm]

@[simp]
theorem units_replicate (n : Nat) (c : CodePoint) :
    units (List.replicate n c) = n * c.utf16.length := by
  induction n with
  | zero => rw [Nat.zero_mul]; rfl
  | succ n ih => rw [List.replicate_succ, units_cons, ih, Nat.succ_mul, Nat.add_comm]

theorem units_le_bytes (t : Text) : t.units ≤ t.bytes := by
  induction t with
  | nil => exact le_rfl
  | cons c t ih =>
    have := c.length_utf16_le
    rw [units_cons, bytes_cons]; omega

theorem bytes_le_units (t : Text) : t.bytes ≤ 3 * t.units := by
  induction t with
  | nil => exact le_rfl
  | cons c t ih =>
    have := c.length_utf8_le
    rw [units_cons, bytes_cons]; omega

theorem length_le_bytes (t : Text) : t.length ≤ t.bytes := by
  induction t with
  | nil => exact le_rfl
  | cons c t ih =>
    have := c.length_utf8_pos
    rw [bytes_cons, List.length_cons]; omega

theorem utf8Length_of_encodable {t : Text} (h : t.Encodable) : t.utf8Length = .ok t.bytes := by
  simp only [utf8Length, encodeUtf8, firstSurrogates?_eq_none_iff.2 h, bytes]

theorem utf8Length_eq_ok_iff {t : Text} {n : Nat} :
    t.utf8Length = .ok n ↔ t.Encodable ∧ n = t.bytes := by
  constructor
  · intro h
    have ht : t.Encodable := by
      rw [← firstSurrogates?_eq_none_iff]
      cases hs : t.firstSurrogates? with
      | none => rfl
      | some r => simp [utf8Length, encodeUtf8, hs] at h
    rw [utf8Length_of_encodable ht] at h
    exact ⟨ht, (Except.ok.inj h).symm⟩
  · rintro ⟨ht, rfl⟩
    exact utf8Length_of_encodable ht

/-- More pieces make a text that starts as it did without them. -/
theorem isPrefix_join {pieces more : List Text} (h : pieces <+: more) :
    join pieces <+: join more := by
  obtain ⟨rest, rfl⟩ := h
  exact ⟨join rest, List.flatten_append.symm⟩

/-! ## Rows and last lines -/

@[simp]
theorem rows_append (s t : Text) : (s ++ t).rows = s.rows + t.rows :=
  List.count_append

@[simp]
theorem rows_cons_newline (t : Text) : rows (CodePoint.newline :: t) = t.rows + 1 :=
  List.count_cons_self

theorem rows_eq_zero_iff {t : Text} : t.rows = 0 ↔ CodePoint.newline ∉ t :=
  List.count_eq_zero

theorem lastLine_eq_rtakeWhile (t : Text) :
    t.lastLine = t.rtakeWhile (· ≠ CodePoint.newline) := rfl

theorem lastLine_suffix (t : Text) : t.lastLine <:+ t :=
  List.rtakeWhile_suffix _ t

theorem newline_notMem_lastLine (t : Text) : CodePoint.newline ∉ t.lastLine := fun h => by
  simpa using List.mem_rtakeWhile_imp h

theorem lastLine_of_notMem {t : Text} (h : CodePoint.newline ∉ t) : t.lastLine = t := by
  rw [lastLine_eq_rtakeWhile, List.rtakeWhile_eq_self_iff]
  intro c hc
  simpa using fun hn : c = CodePoint.newline => h (hn ▸ hc)

theorem lastLine_append_of_notMem (s : Text) {t : Text} (h : CodePoint.newline ∉ t) :
    (s ++ t).lastLine = s.lastLine ++ t := by
  have ht : ∀ c ∈ t.reverse, decide (c ≠ CodePoint.newline) = true := by
    intro c hc
    simpa using fun hn : c = CodePoint.newline => h (hn ▸ List.mem_reverse.1 hc)
  rw [lastLine, List.reverse_append, List.takeWhile_append_of_pos ht, List.reverse_append,
    List.reverse_reverse]
  rfl

theorem lastLine_append_of_mem (s : Text) {t : Text} (h : CodePoint.newline ∈ t) :
    (s ++ t).lastLine = t.lastLine := by
  have ht : (t.reverse.takeWhile (· ≠ CodePoint.newline)).length ≠ t.reverse.length := by
    intro hl
    have hself : t.lastLine = t := (lastLine_suffix t).eq_of_length <| by
      rw [lastLine, List.length_reverse, hl, List.length_reverse]
    exact newline_notMem_lastLine t (hself.symm ▸ h)
  rw [lastLine, List.reverse_append, List.takeWhile_append, if_neg ht]
  rfl

/-- What precedes the last line of a text of several lines ends in a line terminator. -/
theorem exists_eq_append_lastLine {t : Text} (h : CodePoint.newline ∈ t) :
    ∃ s : Text, t = s ++ CodePoint.newline :: t.lastLine := by
  induction t with
  | nil => exact absurd h List.not_mem_nil
  | cons c u ih =>
    by_cases hu : CodePoint.newline ∈ u
    · obtain ⟨s, hs⟩ := ih hu
      have hlast : lastLine (c :: u) = lastLine u := lastLine_append_of_mem [c] hu
      exact ⟨c :: s, by rw [hlast, List.cons_append, ← hs]⟩
    · obtain rfl : CodePoint.newline = c := (List.mem_cons.1 h).resolve_right hu
      have hlast : lastLine (CodePoint.newline :: u) = u :=
        lastLine_append_of_notMem [CodePoint.newline] hu
      exact ⟨[], by rw [hlast, List.nil_append]⟩

/-- Every line terminator takes a byte, and so does whatever the last line takes. -/
theorem rows_add_bytes_lastLine_le (t : Text) : t.rows + t.lastLine.bytes ≤ t.bytes := by
  by_cases h : CodePoint.newline ∈ t
  · obtain ⟨s, hs⟩ := exists_eq_append_lastLine h
    have hcount : s.rows ≤ s.bytes := List.count_le_length.trans (length_le_bytes s)
    have hlast : t.lastLine.rows = 0 := rows_eq_zero_iff.2 (newline_notMem_lastLine t)
    have hrows : t.rows = s.rows + 1 := by
      rw [hs, rows_append, rows_cons_newline, hlast]
    have hbytes : t.bytes = s.bytes + (1 + t.lastLine.bytes) := by
      conv_lhs => rw [hs, bytes_append, bytes_cons]
      rfl
    omega
  · rw [lastLine_of_notMem h, rows_eq_zero_iff.2 h, Nat.zero_add]

end Text

end Caret
