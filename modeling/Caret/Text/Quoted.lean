/-
  Quoted texts: a text in quotation marks on one line, with escapes for what cannot be shown.

  * `Text.quoteMark`: the mark around a text, a double one only where that saves escapes;
  * `Text.quoted`: the quoted text.
-/
import Caret.Text
import Caret.Text.Printable

namespace Caret

namespace CodePoint

/-- The single quotation mark. -/
def singleQuote : CodePoint := ⟨0x27, by decide⟩

/-- The double quotation mark. -/
def doubleQuote : CodePoint := ⟨0x22, by decide⟩

/-- The backslash, which starts an escape. -/
def backslash : CodePoint := ⟨0x5C, by decide⟩

/-- A code point inside quotation marks: the mark and the backslash behind a backslash, the tab and
    the line ends by letter, and whatever cannot be shown by its number in two, four or eight
    digits. -/
def escaped (mark c : CodePoint) : Text :=
  if c = mark ∨ c = backslash then [backslash, c]
  else if c.val = 0x09 then backslash :: Text.ofString "t"
  else if c.val = 0x0A then backslash :: Text.ofString "n"
  else if c.val = 0x0D then backslash :: Text.ofString "r"
  else if c.isPrintable then [c]
  else if c.val < 0x100 then backslash :: Text.ofString "x" ++ Text.hexadecimal 2 c.val
  else if c.val < 0x10000 then backslash :: Text.ofString "u" ++ Text.hexadecimal 4 c.val
  else backslash :: Text.ofString "U" ++ Text.hexadecimal 8 c.val

end CodePoint

namespace Text

/-- The mark around a text: single, unless the text holds single marks and no double one. -/
def quoteMark (t : Text) : CodePoint :=
  if CodePoint.singleQuote ∈ t ∧ CodePoint.doubleQuote ∉ t then CodePoint.doubleQuote
  else CodePoint.singleQuote

/-- The text between quotation marks, with escapes. -/
def quoted (t : Text) : Text :=
  quoteMark t :: t.flatMap (CodePoint.escaped (quoteMark t)) ++ [quoteMark t]

end Text

end Caret
