/-
  The operations of requests on values, which need no session.

  * `Unary.apply`: an operation on one value;
  * `Binary.apply`: an operation on two values.
-/
import Caret.Script.Basic
import Caret.Value.Choosing
import Caret.Value.Operations
import Caret.Value.Reading

namespace Caret

/-- An operation on one value. -/
def Unary.apply (o : Objects) (op : Unary) (v : Value)
    (m : Type → Type := Except Fault) [Monad m] [Reporting m] : m Value :=
  match op with
  | .value => return v
  | .display => return .text (← ofExcept (v.display o))
  | .written => return .text (← ofExcept (v.written o))
  | .toInt => ofExcept v.toInt
  | .greatest => v.greatest o m
  | .least => v.least o m
  | .sort => v.sort o m
  | .distinct => ofExcept v.distinct
  | .isPosition => return .bool v.isPosition
  | .zero => ofExcept (v.get o "ZERO")
  | .byteIndex => return .position ⟨.byteIndex, ← ofExcept v.byteIndexOf⟩
  | .editorPosition => return .position ⟨.rowColumn .utf16, ← ofExcept v.editorPosition⟩
  | .editorRange => return .range ⟨.rowColumn .utf16, ← v.editorRange m⟩
  | .toEditor => ofExcept v.toEditor
  | .zeroRange => return .range (← v.zeroRange m)
  | .emptyRange => return .range (← v.rangeOf v m)
  | .rangeUpTo => return .range (← v.rangeUpTo m)
  | .asTuple => ofExcept v.asTuple
  | .gnuRowColumn => ofExcept v.gnuRowColumn
  | .checkConsistency => (fun _ => .null) <$> v.checkConsistency m
  | .len => v.len m
  | .isEmpty => return .bool (← v.isEmpty m)
  | .startPoint => v.startPoint m
  | .endPoint => v.endPoint m

/-- An operation on two values. -/
def Binary.apply (o : Objects) (op : Binary) (v w : Value)
    (m : Type → Type := Except Fault) [Monad m] [Reporting m] : m Value :=
  match op with
  | .sum => v.sum w m
  | .test c => return .bool (← Value.test o c v w m)
  | .get => ofExcept do v.get o (← w.asName)
  | .field => return .ofCoordinate (← ofExcept (v.namedField o w))
  | .requireSameKind => ofExcept ((v.requireSameKind w).map fun _ => .null)
  | .add => v.add w m
  | .saturatingSub => v.saturatingSub w m
  | .checkComparable => (fun _ => .null) <$> v.checkComparable w m
  | .contains => return .bool (← v.contains w m)
  | .containsInclusive => return .bool (← v.containsInclusive w m)
  | .covers => return .bool (← v.covers w m)
  | .overlaps => return .bool (← v.overlaps w m)
  | .intersect => v.intersect w m
  | .cover => v.cover w m
  | .coverPosition => v.coverPosition w m
  | .isError => return .bool (v.isError w)

end Caret
