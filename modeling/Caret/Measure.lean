/-
  Measuring texts: the position of the end of a text, found by looking at the whole of it.

  * `Text.utf8Length`: the number of bytes of a text, refused for surrogates;
  * `Text.endPosition`, `Text.measure`: the end of a text in all measures.
-/
import Caret.Position.Composite

namespace Caret.Text

/-- The number of bytes of a text in UTF-8. -/
def utf8Length (t : Text) : Except Fault Nat :=
  match t.encodeUtf8 with
  | .ok bytes => .ok bytes.length
  | .error r => .error (.unencodable r)

/-- The end of a text, not watched: the rows are its line terminators, the columns measure what
    follows the last of them, and the index counts all bytes. The last line is encoded first, so
    surrogates in it are found before others. -/
def endPosition (t : Text) : Except Fault Composite := do
  let column8 ← t.lastLine.utf8Length
  let column16 := t.lastLine.encodeUtf16.length
  let index ← ByteIndex.ofLength (← t.utf8Length)
  let utf8 ← RowColumn.ofInts t.rows column8
  let utf16 ← RowColumn.ofInts t.rows column16
  return ⟨index, utf8, utf16, false⟩

/-- The end of a text, watched or not. -/
def measure (t : Text) (checked : Bool) (m : Type → Type := Except Fault) [Monad m] [Reporting m] :
    m Composite := do
  (← ofExcept t.endPosition).withChecked checked m

end Caret.Text
