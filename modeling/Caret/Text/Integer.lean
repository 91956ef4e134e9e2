/-
  Integers as they are read from texts.

  * `CodePoint.digit?`: the value of a decimal digit, of whatever script;
  * `Text.integer?`: the integer that a text spells;
  * `Text.excess?`: the number of its digits, if it has more of them than are read.
-/
import Caret.Text

namespace Caret

namespace CodePoint

/-- The zeros of all scripts. The digits from one to nine follow each of them. -/
def zeros : List Nat :=
  [0x0030, 0x0660, 0x06F0, 0x07C0, 0x0966, 0x09E6, 0x0A66, 0x0AE6, 0x0B66, 0x0BE6, 0x0C66, 0x0CE6,
    0x0D66, 0x0DE6, 0x0E50, 0x0ED0, 0x0F20, 0x1040, 0x1090, 0x17E0, 0x1810, 0x1946, 0x19D0, 0x1A80,
    0x1A90, 0x1B50, 0x1BB0, 0x1C40, 0x1C50, 0xA620, 0xA8D0, 0xA900, 0xA9D0, 0xA9F0, 0xAA50, 0xABF0,
    0xFF10, 0x104A0, 0x10D30, 0x11066, 0x110F0, 0x11136, 0x111D0, 0x112F0, 0x11450, 0x114D0,
    0x11650, 0x116C0, 0x11730, 0x118E0, 0x11950, 0x11C50, 0x11D50, 0x11DA0, 0x16A60, 0x16AC0,
    0x16B50, 0x1D7CE, 0x1D7D8, 0x1D7E2, 0x1D7EC, 0x1D7F6, 0x1E140, 0x1E2F0, 0x1E950, 0x1FBF0]

/-- The value of a decimal digit. -/
def digit? (c : CodePoint) : Option Nat :=
  (zeros.find? fun z => z ≤ c.val && c.val < z + 10).map (c.val - ·)

/-- The low line, which may stand between two digits. -/
def lowLine : CodePoint := ⟨0x5F, by decide⟩

/-- Whether a code point may surround an integer: the blanks, except for the separators of files,
    groups, records and units. -/
def isPadding (c : CodePoint) : Bool :=
  c.isBlank && !(0x1C ≤ c.val && c.val < 0x20)

end CodePoint

namespace Text

/-- The natural number that digits spell behind those of `value`, with single low lines between
    two of them. -/
def naturalFrom? (value : Nat) (behindDigit : Bool) : Text → Option Nat
  | [] => if behindDigit then some value else none
  | c :: t =>
    match c.digit? with
    | some d => naturalFrom? (10 * value + d) true t
    | none => if c = CodePoint.lowLine ∧ behindDigit then naturalFrom? value false t else none

/-- The natural number that a text spells. -/
def natural? (t : Text) : Option Nat :=
  naturalFrom? 0 false t

/-- The text without padding at either end. -/
def unpadded (t : Text) : Text :=
  ((t.dropWhile CodePoint.isPadding).reverse.dropWhile CodePoint.isPadding).reverse

/-- Whether a text starts with a minus sign, and what is behind its sign if it has one. -/
def signAndRest : Text → Bool × Text
  | [] => (false, [])
  | c :: t =>
    if c.val = 0x2D then (true, t) else if c.val = 0x2B then (false, t) else (false, c :: t)

/-- The integer that a text spells: digits behind an optional sign, and blanks around. -/
def integer? (t : Text) : Option Int :=
  let (negative, digits) := t.unpadded.signAndRest
  digits.natural?.map fun n => if negative then -(n : Int) else n

/-- Whether low lines stand only between two digits, in a text of digits and low lines. -/
def wellParted (behindDigit : Bool) : Text → Bool
  | [] => behindDigit
  | c :: t => if c = CodePoint.lowLine then behindDigit && wellParted false t else wellParted true t

/-- The number of digits with which a text starts, behind blanks and a sign, if they are more than
    are read. This comes before whatever stands behind the digits. -/
def excess? (t : Text) : Option Nat :=
  let (_, unsigned) := signAndRest (t.dropWhile CodePoint.isPadding)
  let numeral := unsigned.takeWhile fun c => c.digit?.isSome || c = CodePoint.lowLine
  let digits := numeral.countP (· ≠ CodePoint.lowLine)
  if digitLimit < digits ∧ wellParted false numeral then some digits else none

end Text

end Caret
