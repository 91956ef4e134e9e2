/-
  Composite positions: three measures of one place, with the rules by which they agree.

  * `Composite.Consistent`: the measures can describe one place in one text;
  * `Composite.violation?`: the first rule that a composite breaks, none exactly if it is
    consistent (`violation?_eq_none_iff`);
  * `Composite.of`, `Composite.ofInts`: composites from parts and from numbers;
  * `Composite.OrderedAlike`: all three measures order two composites in the same way;
  * `Composite.comparable`: refuses to compare composites that are watched and not ordered alike;
  * `Composite.add`, `Composite.saturatingSub`: arithmetic measure by measure.
-/
import Caret.Position.Arithmetic

namespace Caret.Composite

/-! ## Agreement within one composite -/

/-- The measures can describe one place: they count the same line terminators; a UTF-16 code unit
    takes one to three bytes, and a pair of them four; the index counts a byte for every line
    terminator at least and the last line, and nothing but that line if it is the first. -/
structure Consistent (c : Composite) : Prop where
  /-- Both measures are on one row. -/
  row_eq : c.utf8.row = c.utf16.row
  /-- A code unit takes a byte at least. -/
  column16_le : c.utf16.column.val ≤ c.utf8.column.val
  /-- A code unit takes three bytes at most. -/
  column8_le : c.utf8.column.val ≤ 3 * c.utf16.column.val
  /-- Line terminators and the last line precede the place. -/
  le_index : c.utf8.row.val + c.utf8.column.val ≤ c.index.index.val
  /-- On the first line nothing else does. -/
  index_eq : c.utf8.row = .zero → c.index.index = c.utf8.column

/-- The first rule of agreement that a composite breaks. -/
def violation? (c : Composite) : Option Violation :=
  if c.utf8.row ≠ c.utf16.row then
    some (.rowsDiffer c.utf8.row c.utf16.row)
  else if ¬(c.utf16.column.val ≤ c.utf8.column.val ∧
      c.utf8.column.val ≤ 3 * c.utf16.column.val) then
    some (.columnRatio c.utf8.column c.utf16.column)
  else if c.index.index.val < c.utf8.row.val + c.utf8.column.val then
    some (.indexTooSmall c.index c.utf8.row c.utf8.column)
  else if c.utf8.row = .zero ∧ c.index.index ≠ c.utf8.column then
    some (.indexOffFirstLine c.index c.utf8.column)
  else none

theorem violation?_eq_none_iff (c : Composite) : c.violation? = none ↔ c.Consistent := by
  constructor
  · intro h
    simp only [violation?] at h
    split at h
    · simp at h
    split at h
    · simp at h
    split at h
    · simp at h
    split at h
    · simp at h
    rename_i hrow hratio hindex hfirst
    refine ⟨by simpa using hrow, ?_, ?_, by omega, fun h0 => ?_⟩
    · omega
    · omega
    · exact Classical.not_not.1 fun hne => hfirst ⟨h0, hne⟩
  · intro ⟨hrow, h16, h8, hindex, hfirst⟩
    simp only [violation?]
    rw [if_neg (by simpa using hrow), if_neg (by omega), if_neg (by omega),
      if_neg fun h => h.2 (hfirst h.1)]

instance (c : Composite) : Decidable c.Consistent :=
  decidable_of_iff _ (violation?_eq_none_iff c)

/-- Refuses a composite that is not consistent. -/
def checkConsistency (c : Composite) (m : Type → Type := Except Fault) [Monad m] [Reporting m] :
    m Unit :=
  match c.violation? with
  | some v => violated v
  | none => return ()

/-! ## Composites from parts -/

/-- The composite of three measures, which have to agree if they are to be watched. -/
def of (index : ByteIndex) (utf8 : RowColumn .utf8) (utf16 : RowColumn .utf16) (checked : Bool)
    (m : Type → Type := Except Fault) [Monad m] [Reporting m] : m Composite :=
  let c : Composite := ⟨index, utf8, utf16, checked⟩
  if checked then (fun _ => c) <$> c.checkConsistency m else return c

/-- The composite of an index and of columns on one row. -/
def ofInts (index row column8 column16 : Int) (checked : Bool)
    (m : Type → Type := Except Fault) [Monad m] [Reporting m] : m Composite := do
  let index ← ofExcept (ByteIndex.ofInt index)
  let utf8 ← ofExcept (RowColumn.ofInts row column8)
  let utf16 ← ofExcept (RowColumn.ofInts row column16)
  of index utf8 utf16 checked m

/-- The same place, watched or not. -/
def withChecked (c : Composite) (checked : Bool)
    (m : Type → Type := Except Fault) [Monad m] [Reporting m] : m Composite :=
  of c.index c.utf8 c.utf16 checked m

/-! ## Agreement between two composites -/

/-- All three measures order the two composites in the same way. -/
def OrderedAlike (a b : Composite) : Prop :=
  a.utf8.order b.utf8 = a.index.order b.index ∧ a.utf16.order b.utf16 = a.index.order b.index

instance (a b : Composite) : Decidable (OrderedAlike a b) :=
  inferInstanceAs (Decidable (_ ∧ _))

/-- Refuses two composites that the measures order differently. -/
def checkComparable (a b : Composite) (m : Type → Type := Except Fault) [Monad m] [Reporting m] :
    m Unit :=
  if OrderedAlike a b then return () else violated (.ordersDiffer a b)

/-- Refuses the same, but only if one of the two is watched. -/
def comparable (a b : Composite) (m : Type → Type := Except Fault) [Monad m] [Reporting m] :
    m Unit :=
  if a.checked || b.checked then checkComparable a b m else return ()

/-! ## Arithmetic -/

/-- The position `b` seen from `a`, measure by measure. The sum is watched if a summand is. -/
def add (a b : Composite) (m : Type → Type := Except Fault) [Monad m] [Reporting m] :
    m Composite := do
  let index ← ofExcept (a.index.add b.index)
  let utf8 ← ofExcept (a.utf8.add b.utf8)
  let utf16 ← ofExcept (a.utf16.add b.utf16)
  of index utf8 utf16 (a.checked || b.checked) m

/-- How far `a` is behind `b`, measure by measure. If one of the two is watched, they have to be
    ordered alike, and the difference is watched too. -/
def saturatingSub (a b : Composite) (m : Type → Type := Except Fault) [Monad m] [Reporting m] :
    m Composite := do
  comparable a b m
  let checked := a.checked || b.checked
  of (a.index.monus b.index) (a.utf8.monus b.utf8) (a.utf16.monus b.utf16) checked m

end Caret.Composite
