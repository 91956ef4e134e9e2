/-
  The operations of positions and ranges on values: the value that an operation is asked of has to
  be one that has it, and its argument one that it can be applied to.

  * `Value.sum`, `Value.fieldSum`: sums of values;
  * `Value.add`, `Value.saturatingSub`, …: operations asked of a position;
  * `Value.contains`, `Value.covers`, …: operations asked of a range.
-/
import Caret.Value.Building
import Caret.Value.Written

namespace Caret.Value

/-! ## Sums -/

/-- The sum of two values: positions of one kind, numbers, or one sequence behind another. -/
def sum (a b : Value) (m : Type → Type := Except Fault) [Monad m] [Reporting m] : m Value :=
  match a, b with
  | position p, position q => position <$> p.sum q m
  | text a, text b => return text (a ++ b)
  | list _ as, list _ bs => return list none (as ++ bs)
  | tuple as, tuple bs => return tuple (as ++ bs)
  | a, b =>
    match a, a.number?, b.number? with
    | _, some x, some y => ofExcept ((x.sum y).map ofNumber)
    | text _, _, _ | list _ _, _, _ | tuple _, _, _ =>
      refuse (.mismatch (.unjoinable a.kindName b.kindName))
    | _, _, _ => refuse (.mismatch (.unaddable a.kindName b.kindName))

/-- The sum of two numbers as the field of a given name, which must not be beyond the limit. -/
def fieldSum (o : Objects) (name a b : Value)
    (m : Type → Type := Except Fault) [Monad m] [Reporting m] : m Value := do
  let total ← sum a b m
  match total.number? with
  | none => refuse (.mismatch (.unordered .gt total.kindName (int 0).kindName))
  | some n =>
    if n.test .gt (.int Coordinate.limit) then
      ofExcept do throw (.sumTooLarge (← name.display o) (← a.display o) (← b.display o))
    else return total

/-- A value as the field of a name that is displayed only if the value is refused. -/
def namedField (o : Objects) (name v : Value) : Except Fault Coordinate :=
  match field [] v with
  | .ok a => .ok a
  | .error _ => do field (← name.display o) v

/-- The number of possibilities from zero up to a value, which must not have a fraction. -/
def drawBound (v : Value) (m : Type → Type := Except Fault) [Monad m] [Reporting m] : m Int := do
  let bound ← v.sum (int 1) m
  match bound.number? with
  | none => refuse (.mismatch (.notAnInteger bound.kindName))
  | some x =>
    let n ← ofExcept x.truncate
    if x.test .eq (.int n) then return n else refuse (.badValue .fractionalDraw)

/-- Two values are of one kind, or refused. -/
def requireSameKind (a b : Value) : Except Fault Unit :=
  if a.kindName = b.kindName then .ok () else .error (.mismatch (.combine a.kindName b.kindName))

/-- The integer that a value stands for: that of a byte index, a number without its fraction, or
    what a text spells. -/
def toInt : Value → Except Fault Value
  | position ⟨.byteIndex, p⟩ => .ok (ofCoordinate p.index)
  | text t =>
    match t.excess?, t.integer? with
    | some digits, _ => .error (.badValue (.tooManyDigits digits))
    | none, some n => .ok (int n)
    | none, none => .error (.badValue (.notAnInteger t))
  | v =>
    match v.number? with
    | some n => n.truncate.map int
    | none => .error (.mismatch (.notNumeric v.kindName))

/-! ## Asked of a position -/

/-- The position `b` seen from `a`. -/
def add (a b : Value) (m : Type → Type := Except Fault) [Monad m] [Reporting m] : m Value :=
  match a, b with
  | position p, position q => position <$> p.add q m
  | position p, b => refuse (.mismatch (.combine p.kindName b.kindName))
  | a, _ => refuse (a.lacks "add")

/-- How far `a` is behind `b`. -/
def saturatingSub (a b : Value) (m : Type → Type := Except Fault) [Monad m] [Reporting m] :
    m Value :=
  match a, b with
  | position p, position q => position <$> p.saturatingSub q m
  | position p, b => refuse (.mismatch (.combine p.kindName b.kindName))
  | a, _ => refuse (a.lacks "saturating_sub")

/-- Row and column as a pair, where they are all there is. -/
def asTuple : Value → Except Fault Value
  | position ⟨.rowColumn _, p⟩ => .ok (tuple [ofCoordinate p.row, ofCoordinate p.column])
  | v => .error (v.lacks "as_tuple")

/-- Row and column as a pair, in bytes if there is a choice. -/
def gnuRowColumn : Value → Except Fault Value
  | position ⟨.rowColumn _, p⟩ => .ok (tuple [ofCoordinate p.row, ofCoordinate p.column])
  | position ⟨.composite, p⟩ => .ok (tuple [ofCoordinate p.utf8.row, ofCoordinate p.utf8.column])
  | v => .error (v.lacks "gnu_row_column")

/-- A composite, which alone has the attribute `name`. -/
def compositeWith (name : Text) : Value → Except Fault Composite
  | position ⟨.composite, p⟩ => .ok p
  | v => .error (v.lacks name)

/-- Refuses a composite whose measures disagree. -/
def checkConsistency (v : Value) (m : Type → Type := Except Fault) [Monad m] [Reporting m] :
    m Unit := do
  (← ofExcept (v.compositeWith "check_consistency")).checkConsistency m

/-- Refuses two composites that the measures order differently. Anything else has no index to
    compare with: a byte index has a number there, texts and sequences an operation, and some
    classes what belongs to their values. -/
def checkComparable (a b : Value) (m : Type → Type := Except Fault) [Monad m] [Reporting m] :
    m Unit := do
  let p ← ofExcept (a.compositeWith "check_comparable")
  match b with
  | position ⟨.composite, q⟩ => p.checkComparable q m
  | position ⟨.byteIndex, q⟩ =>
    refuse (.mismatch (.unordered .gt ByteIndex.kindName (ofCoordinate q.index).kindName))
  | text _ | list _ _ | tuple _ =>
    refuse (.mismatch (.unordered .gt ByteIndex.kindName "builtin_function_or_method"))
  | cls c =>
    match c.memberKind? "index" with
    | some kind => refuse (.mismatch (.unordered .gt ByteIndex.kindName kind))
    | none => refuse (b.lacks "index")
  | b => refuse (b.lacks "index")

/-- The object by which editors speak of a position or a range. -/
def toEditor : Value → Except Fault Value
  | position ⟨.rowColumn .utf16, p⟩ => .ok (ofEditorPosition p)
  | range ⟨.rowColumn .utf16, r⟩ => .ok (ofEditorRange r)
  | range r => .error (.mismatch (.notUtf16 r.kindName))
  | v => .error (v.lacks "to_lsp")

/-! ## Asked of a range -/

/-- A range, which alone has the attribute `name`. -/
def rangeWith (name : Text) : Value → Except Fault PositionRange
  | range r => .ok r
  | v => .error (v.lacks name)

/-- The range whose ends are looked at. The class of ranges has ends too, but no positions there;
    `apart` is the refusal to compare with those. -/
def rangeToCompare (v : Value) (apart : Text → Mismatch) : Except Fault PositionRange :=
  match v with
  | range r => .ok r
  | cls c =>
    match c.memberKind? "start" with
    | some kind => .error (.mismatch (apart kind))
    | none => .error (v.lacks "start")
  | v => .error (v.lacks "start")

/-- How far the end of a range is behind its start. -/
def len (v : Value) (m : Type → Type := Except Fault) [Monad m] [Reporting m] : m Value := do
  return position (← (← ofExcept (v.rangeWith "len")).len m)

/-- Whether the ends of a range are the same place. -/
def isEmpty (v : Value) (m : Type → Type := Except Fault) [Monad m] [Reporting m] : m Bool := do
  (← ofExcept (v.rangeWith "is_empty")).isEmpty m

/-- The empty range at the start of a range. -/
def startPoint (v : Value) (m : Type → Type := Except Fault) [Monad m] [Reporting m] : m Value := do
  return range (← (← ofExcept (v.rangeWith "start_point")).startPoint m)

/-- The empty range at the end of a range. -/
def endPoint (v : Value) (m : Type → Type := Except Fault) [Monad m] [Reporting m] : m Value := do
  return range (← (← ofExcept (v.rangeWith "end_point")).endPoint m)

/-- Whether `b` is in a range, its end excluded. -/
def contains (a b : Value) (m : Type → Type := Except Fault) [Monad m] [Reporting m] : m Bool := do
  let r ← ofExcept (a.rangeWith "contains")
  match b with
  | position p => r.contains p m
  | b => refuse (.mismatch (.unordered .le r.kindName b.kindName))

/-- Whether `b` is in a range or at its end. -/
def containsInclusive (a b : Value) (m : Type → Type := Except Fault) [Monad m] [Reporting m] :
    m Bool := do
  let r ← ofExcept (a.rangeWith "contains_inclusive")
  match b with
  | position p => r.containsInclusive p m
  | b => refuse (.mismatch (.unordered .le r.kindName b.kindName))

/-- Whether all of a range is in another one. -/
def covers (a b : Value) (m : Type → Type := Except Fault) [Monad m] [Reporting m] : m Bool := do
  let r ← ofExcept (a.rangeWith "covers")
  r.covers (← ofExcept (b.rangeToCompare (.unordered .le r.kindName ·))) m

/-- Whether some position is in both ranges. Nothing is asked of `b` if `a` is empty. -/
def overlaps (a b : Value) (m : Type → Type := Except Fault) [Monad m] [Reporting m] : m Bool := do
  let r ← ofExcept (a.rangeWith "overlaps")
  if ← r.isEmpty m then return false else r.overlaps (← ofExcept (b.rangeWith "is_empty")) m

/-- The common part of two ranges, or nothing if they are apart. -/
def intersect (a b : Value) (m : Type → Type := Except Fault) [Monad m] [Reporting m] :
    m Value := do
  let r ← ofExcept (a.rangeWith "intersect")
  let s ← ofExcept (b.rangeToCompare (.unordered .gt · r.kindName))
  return ((← r.intersect s m).map range).getD null

/-- The smallest range that covers both ranges. -/
def cover (a b : Value) (m : Type → Type := Except Fault) [Monad m] [Reporting m] : m Value := do
  let r ← ofExcept (a.rangeWith "cover")
  return range (← r.cover (← ofExcept (b.rangeToCompare (.unordered .lt · r.kindName))) m)

/-- The smallest range that covers a range and a position. There is no empty range at anything
    else. -/
def coverPosition (a b : Value) (m : Type → Type := Except Fault) [Monad m] [Reporting m] :
    m Value := do
  let r ← ofExcept (a.rangeWith "cover_position")
  match b with
  | position p => return range (← r.coverPosition p m)
  | b => return range (← r.cover (← rangeOf b b m) m)

/-! ## Errors -/

/-- Whether a value is an error that can be caught under a given name. -/
def isError : Value → Value → Bool
  | report _ kind, text name => kind.ancestors.contains name
  | _, _ => false

end Caret.Value
