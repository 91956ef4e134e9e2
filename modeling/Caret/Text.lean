/-
  Texts as lists of code points: the rows that line terminators make of them, the blanks around
  them, and the numerals that are written into them.

  * `Text.ofString`: the text of a string, also as a coercion, so that wording can be written as
    string literals;
  * `Text.times`: a text repeated;
  * `Text.rows`, `Text.lastLine`: the number of line terminators and what follows the last one;
  * `Text.strip`: a text without blanks at either end;
  * `Text.decimal`, `Text.signed`: all digits of a natural number or an integer, to the base ten;
  * `Text.hexadecimal`: lower-case digits to the base sixteen, filled up with zeros;
  * `Text.digitLimit`, `Text.signed?`: the most digits that are read or written, and the digits of
    an integer unless there are more.
-/
import Caret.CodePoint

namespace Caret

/-- A text: any sequence of code points. -/
abbrev Text := List CodePoint

namespace Text

/-- The text of a string. -/
def ofString (s : String) : Text :=
  s.toList.map CodePoint.ofChar

instance : Coe String Text := ⟨ofString⟩

/-- The pieces one after the other. -/
def join (pieces : List Text) : Text :=
  pieces.flatten

/-- The pieces one after the other with `separator` between two of them. -/
def joinWith (separator : Text) : List Text → Text
  | [] => []
  | [piece] => piece
  | piece :: rest => piece ++ separator ++ joinWith separator rest

/-- `t` repeated `n` times; no times if `n` is negative. -/
def times (t : Text) (n : Int) : Text :=
  (List.replicate n.toNat t).flatten

/-! ## Rows -/

/-- The number of line terminators in a text. -/
def rows (t : Text) : Nat :=
  t.count CodePoint.newline

/-- What follows the last line terminator: the whole text if there is none. -/
def lastLine (t : Text) : Text :=
  (t.reverse.takeWhile (· ≠ CodePoint.newline)).reverse

end Text

/-! ## Blanks -/

/-- The blanks, as ranges with both ends included. The zero-width space and the byte order mark
    are none. -/
def CodePoint.blanks : List (Nat × Nat) :=
  [(0x09, 0x0D), (0x1C, 0x20), (0x85, 0x85), (0xA0, 0xA0), (0x1680, 0x1680), (0x2000, 0x200A),
    (0x2028, 0x2029), (0x202F, 0x202F), (0x205F, 0x205F), (0x3000, 0x3000)]

/-- Whether a code point is a blank. -/
def CodePoint.isBlank (c : CodePoint) : Bool :=
  blanks.any fun r => r.1 ≤ c.val && c.val ≤ r.2

namespace Text

/-- The text without blanks at its start and its end. -/
def strip (t : Text) : Text :=
  ((t.dropWhile CodePoint.isBlank).reverse.dropWhile CodePoint.isBlank).reverse

/-! ## Numerals -/

/-- The decimal digits of `n`, without leading zeros. -/
def decimal (n : Nat) : Text :=
  (Nat.toDigits 10 n).map CodePoint.ofChar

/-- The decimal digits of an integer, after a minus sign if it is negative. -/
def signed : Int → Text
  | .ofNat n => decimal n
  | .negSucc n => ofString "-" ++ decimal (n + 1)

/-- The lower-case hexadecimal digits of `n`, with zeros in front up to `width` of them. -/
def hexadecimal (width n : Nat) : Text :=
  let digits := (Nat.toDigits 16 n).map CodePoint.ofChar
  List.replicate (width - digits.length) (CodePoint.ofChar '0') ++ digits

/-- The most digits of an integer that are read from a text, or written into one. -/
def digitLimit : Nat := 4300

/-- The decimal digits of an integer, unless there are too many of them to be written. -/
def signed? (n : Int) : Option Text :=
  if (decimal n.natAbs).length ≤ digitLimit then some (signed n) else none

end Text

end Caret
