/-
  Positions and ranges of any kind, for callers that learn the kind only when they look.

  * `Position`: a position together with its kind;
  * `Position.as?`: the position as one of a given kind;
  * `Position.add`, `Position.saturatingSub`, `Position.sum`, `Position.test`: operations on two
    positions, refused for two kinds, except that positions of two kinds are never the same;
  * `PositionRange`: a range of positions of some kind, with the operations of `Range`; where these
    would compare positions of two kinds, they are refused as that comparison is.
-/
import Caret.Range

namespace Caret

/-! ## Positions -/

/-- A position of some kind. -/
structure Position where
  /-- The kind. -/
  kind : Kind
  /-- The position among those of its kind. -/
  place : kind.Place

namespace Position

/-- The position as one of kind `k`, if it is one. -/
def as? (k : Kind) (p : Position) : Option k.Place :=
  if h : p.kind = k then some (h ▸ p.place) else none

@[simp]
theorem as?_mk (k : Kind) (p : k.Place) : as? k ⟨k, p⟩ = some p := by
  simp [as?]

theorem as?_eq_none_iff {k : Kind} {p : Position} : p.as? k = none ↔ p.kind ≠ k := by
  simp [as?]

/-- The name of the kind of a position. -/
def kindName (p : Position) : Text :=
  p.kind.name

/-- The start of a text in the measure of kind `k`. -/
def zero (k : Kind) : Position :=
  ⟨k, PositionKind.zero⟩

/-- The short form of a position. -/
def display (p : Position) : Text :=
  PositionKind.display p.place

/-- The full form of a position. -/
def written (p : Position) : Text :=
  PositionKind.written p.place

/-- The position `b` seen from `a`. -/
def add (a b : Position) (m : Type → Type := Except Fault) [Monad m] [Reporting m] : m Position :=
  match b.as? a.kind with
  | some q => (⟨a.kind, ·⟩) <$> PositionKind.add a.place q m
  | none => refuse (.mismatch (.combine a.kindName b.kindName))

/-- How far `a` is behind `b`. -/
def saturatingSub (a b : Position) (m : Type → Type := Except Fault) [Monad m] [Reporting m] :
    m Position :=
  match b.as? a.kind with
  | some q => (⟨a.kind, ·⟩) <$> PositionKind.saturatingSub a.place q m
  | none => refuse (.mismatch (.combine a.kindName b.kindName))

/-- Addition as an operator, which has words of its own for two kinds. -/
def sum (a b : Position) (m : Type → Type := Except Fault) [Monad m] [Reporting m] : m Position :=
  match b.as? a.kind with
  | some q => (⟨a.kind, ·⟩) <$> PositionKind.add a.place q m
  | none => refuse (.mismatch (.unaddable a.kindName b.kindName))

/-- The outcome of a comparison of things of two kinds: they differ, and have no order. -/
def testApart (c : Comparison) (left right : Text)
    (m : Type → Type := Except Fault) [Monad m] [Reporting m] : m Bool :=
  match c with
  | .eq => return false
  | .ne => return true
  | c => refuse (.mismatch (.unordered c left right))

/-- The comparison of two positions. -/
def test (c : Comparison) (a b : Position)
    (m : Type → Type := Except Fault) [Monad m] [Reporting m] : m Bool :=
  match b.as? a.kind with
  | some q => PositionKind.test c a.place q m
  | none => testApart c a.kindName b.kindName m

/-- Whether two positions are of one kind and have the same numbers, watched or not. -/
def alike (a b : Position) : Bool :=
  match b.as? a.kind with
  | some q => PositionKind.order a.place q == .eq
  | none => false

end Position

/-! ## Ranges -/

/-- A range between positions of some kind. -/
structure PositionRange where
  /-- The kind of its positions. -/
  kind : Kind
  /-- The range among those of its kind. -/
  range : Range kind.Place

namespace PositionRange

/-- The range as one of kind `k`, if it is one. -/
def as? (k : Kind) (r : PositionRange) : Option (Range k.Place) :=
  if h : r.kind = k then some (h ▸ r.range) else none

@[simp]
theorem as?_mk (k : Kind) (r : Range k.Place) : as? k ⟨k, r⟩ = some r := by
  simp [as?]

/-- The name of the kind of positions in a range. -/
def kindName (r : PositionRange) : Text :=
  r.kind.name

/-- The first position in a range. -/
def start (r : PositionRange) : Position :=
  ⟨r.kind, r.range.start⟩

/-- The first position behind a range. -/
def stop (r : PositionRange) : Position :=
  ⟨r.kind, r.range.stop⟩

/-- The range between two positions, which have to be of one kind and in order. -/
def of (start stop : Position) (m : Type → Type := Except Fault) [Monad m] [Reporting m] :
    m PositionRange :=
  match stop.as? start.kind with
  | some q => (⟨start.kind, ·⟩) <$> Range.of start.place q m
  | none => refuse (.mismatch (.rangeEnds start.kindName stop.kindName))

/-- The empty range at a position. -/
def empty (p : Position) (m : Type → Type := Except Fault) [Monad m] [Reporting m] :
    m PositionRange :=
  (⟨p.kind, ·⟩) <$> Range.empty p.place m

/-- The empty range at the start of a text. -/
def zero (k : Kind) (m : Type → Type := Except Fault) [Monad m] [Reporting m] : m PositionRange :=
  empty (.zero k) m

/-- The range from the start of the text to a position. -/
def upTo (p : Position) (m : Type → Type := Except Fault) [Monad m] [Reporting m] :
    m PositionRange :=
  (⟨p.kind, ·⟩) <$> Range.upTo p.place m

/-- The empty range at the start of a range. -/
def startPoint (r : PositionRange) (m : Type → Type := Except Fault) [Monad m] [Reporting m] :
    m PositionRange :=
  (⟨r.kind, ·⟩) <$> r.range.startPoint m

/-- The empty range at the end of a range. -/
def endPoint (r : PositionRange) (m : Type → Type := Except Fault) [Monad m] [Reporting m] :
    m PositionRange :=
  (⟨r.kind, ·⟩) <$> r.range.endPoint m

/-- How far the end is behind the start. -/
def len (r : PositionRange) (m : Type → Type := Except Fault) [Monad m] [Reporting m] :
    m Position :=
  (⟨r.kind, ·⟩) <$> r.range.len m

/-- Whether the ends are the same place. -/
def isEmpty (r : PositionRange) (m : Type → Type := Except Fault) [Monad m] [Reporting m] :
    m Bool :=
  r.range.isEmpty m

/-- Whether `p` is in the range, its end excluded. -/
def contains (r : PositionRange) (p : Position)
    (m : Type → Type := Except Fault) [Monad m] [Reporting m] : m Bool :=
  match p.as? r.kind with
  | some q => r.range.contains q m
  | none => refuse (.mismatch (.unordered .le r.kindName p.kindName))

/-- Whether `p` is in the range or at its end. -/
def containsInclusive (r : PositionRange) (p : Position)
    (m : Type → Type := Except Fault) [Monad m] [Reporting m] : m Bool :=
  match p.as? r.kind with
  | some q => r.range.containsInclusive q m
  | none => refuse (.mismatch (.unordered .le r.kindName p.kindName))

/-- Whether all of `s` is in `r`. -/
def covers (r s : PositionRange) (m : Type → Type := Except Fault) [Monad m] [Reporting m] :
    m Bool :=
  match s.as? r.kind with
  | some s => r.range.covers s m
  | none => refuse (.mismatch (.unordered .le r.kindName s.kindName))

/-- Whether some position is in both ranges, which an empty one rules out whatever the other is. -/
def overlaps (r s : PositionRange) (m : Type → Type := Except Fault) [Monad m] [Reporting m] :
    m Bool :=
  match s.as? r.kind with
  | some s => r.range.overlaps s m
  | none => do
    if ← r.isEmpty m then return false
    else if ← s.isEmpty m then return false
    else refuse (.mismatch (.unordered .lt r.kindName s.kindName))

/-- The common part of two ranges, if they are not apart. -/
def intersect (r s : PositionRange) (m : Type → Type := Except Fault) [Monad m] [Reporting m] :
    m (Option PositionRange) :=
  match s.as? r.kind with
  | some s => Option.map (⟨r.kind, ·⟩) <$> r.range.intersect s m
  | none => refuse (.mismatch (.unordered .gt s.kindName r.kindName))

/-- The smallest range that covers both ranges. -/
def cover (r s : PositionRange) (m : Type → Type := Except Fault) [Monad m] [Reporting m] :
    m PositionRange :=
  match s.as? r.kind with
  | some s => (⟨r.kind, ·⟩) <$> r.range.cover s m
  | none => refuse (.mismatch (.unordered .lt s.kindName r.kindName))

/-- The smallest range that covers a range and a position. -/
def coverPosition (r : PositionRange) (p : Position)
    (m : Type → Type := Except Fault) [Monad m] [Reporting m] : m PositionRange :=
  match p.as? r.kind with
  | some q => (⟨r.kind, ·⟩) <$> r.range.coverPosition q m
  | none => refuse (.mismatch (.unordered .lt p.kindName r.kindName))

/-- The comparison of two ranges. -/
def test (c : Comparison) (r s : PositionRange)
    (m : Type → Type := Except Fault) [Monad m] [Reporting m] : m Bool :=
  match s.as? r.kind with
  | some s => r.range.test c s m
  | none => Position.testApart c r.kindName s.kindName m

/-- The short form of a range. -/
def display (r : PositionRange) : Text :=
  r.range.display

/-- The full form of a range. -/
def written (r : PositionRange) : Text :=
  r.range.written

end PositionRange

end Caret
