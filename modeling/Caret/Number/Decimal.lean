/-
  Binary floating-point numbers in decimal notation.

  * `Binary64.shortest`: the fewest decimal digits that are nearest to no other number;
  * `Binary64.display`: a number as it is written;
  * `Binary64.read?`: the number that is nearest to what a text spells.
-/
import Caret.Number.Binary64
import Caret.Text.Integer
import Caret.Text.LetterCase
import Caret.Text

namespace Caret.Binary64

/-! ## Writing -/

/-- The number of digits in front of the decimal point of a positive ratio; of a ratio below one,
    the number of zeros behind the point up to the first other digit, as a negative number. -/
def pointPlace (num den : Nat) : Int :=
  if den ≤ num then (Nat.toDigits 10 (num / den)).length
  else 1 - ((Nat.toDigits 10 ((num - 1 + den) / num - 1)).length : Int)

/-- A ratio multiplied by a power of ten, as numerator and denominator. -/
def scaleTen (num den : Nat) (shift : Int) : Nat × Nat :=
  match shift with
  | .ofNat n => (num * Nat.pow 10 n, den)
  | .negSucc n => (num, den * Nat.pow 10 (n + 1))

/-- Whether `digits · 10 ^ place` is nearest to the number `significand · 2 ^ exponent`. -/
def readsBack (significand : Nat) (exponent : Int) (digits : Nat) (place : Int) : Bool :=
  let (num, den) := scaleTen digits 1 place
  match ofRatio false num den with
  | finite _ s e =>
    let (a, b) := ratio s e
    let (c, d) := ratio significand exponent
    a * d == c * b
  | _ => false

/-- The multiples of `10 ^ place` next to a number, as far as they read back: the nearest first, and
    the even one of two. -/
def candidates (significand : Nat) (exponent place : Int) : List Nat :=
  let (num, den) := ratio significand exponent
  let (n, d) := scaleTen num den (-place)
  let below := n / d
  let ordered := if roundDiv n d = below then [below, below + 1] else [below + 1, below]
  ordered.filter fun digits => readsBack significand exponent digits place

/-- The fewest digits that read back, tried from `count` digits on, with the place of the last one.
    Seventeen digits always do. -/
def shortestFrom (significand : Nat) (exponent point : Int) : Nat → Nat → Nat × Int
  | 0, count => ((candidates significand exponent (point - count)).headD 0, point - count)
  | tries + 1, count =>
    match candidates significand exponent (point - count) with
    | digits :: _ => (digits, point - count)
    | [] => shortestFrom significand exponent point tries (count + 1)

/-- The fewest decimal digits that read back as a positive number, with the place of the last. -/
def shortest (significand : Nat) (exponent : Int) : Nat × Int :=
  let (num, den) := ratio significand exponent
  shortestFrom significand exponent (pointPlace num den) 16 1

/-- The digits without zeros at the end. -/
def trimmed (digits : Text) : Text :=
  (digits.reverse.dropWhile (· = CodePoint.ofChar '0')).reverse

/-- Zeros. -/
def zeros (n : Nat) : Text :=
  List.replicate n (CodePoint.ofChar '0')

/-- A number written by its digits, with `point` of them in front of the decimal point. The point
    stays where it is up to sixteen places in front of it and four zeros behind it; beyond, it
    follows the first digit, and a power of ten says where it belongs. -/
def written (digits : Text) (point : Int) : Text :=
  if 16 < point ∨ point ≤ -4 then
    let power := point - 1
    let tail : Text := if digits.length ≤ 1 then [] else Text.ofString "." ++ digits.drop 1
    let powerDigits := Text.decimal power.natAbs
    Text.join [digits.take 1, tail, if power < 0 then "e-" else "e+",
      zeros (2 - powerDigits.length), powerDigits]
  else if point ≤ 0 then Text.join ["0.", zeros (-point).toNat, digits]
  else if digits.length ≤ point.toNat then
    Text.join [digits, zeros (point.toNat - digits.length), ".0"]
  else Text.join [digits.take point.toNat, ".", digits.drop point.toNat]

/-- A number as it is written. -/
def display : Binary64 → Text
  | finite negative significand exponent =>
    let sign : Text := if negative then "-" else ""
    if significand = 0 then sign ++ Text.ofString "0.0"
    else
      let (digits, place) := shortest significand exponent
      let digits := Text.decimal digits
      sign ++ written (trimmed digits) (digits.length + place)
  | infinite negative => if negative then "-inf" else "inf"
  | notANumber => "nan"

/-! ## Reading -/

/-- The number nearest to `digits · 10 ^ place`. What is far beyond all numbers, or far below them,
    is not computed with. -/
def ofDecimal (negative : Bool) (digits : Nat) (place : Int) : Binary64 :=
  let point := place + (Nat.toDigits 10 digits).length
  if digits = 0 ∨ point < -400 then finite negative 0 0
  else if 400 < point then infinite negative
  else
    let (num, den) := scaleTen digits 1 place
    ofRatio negative num den

/-- The digits at the start of a text, and the rest. -/
def spanDigits (t : Text) : Text × Text :=
  t.span (·.digit?.isSome)

/-- The power of ten that a text spells behind a letter for it. Nothing spells none. -/
def power? : Text → Option Int
  | [] => some 0
  | c :: t =>
    if c = CodePoint.ofChar 'e' then
      let (negative, digits) := Text.signAndRest t
      (Text.natural? digits).map fun n => if negative then -(n : Int) else n
    else none

/-- The number that is nearest to what a text without sign and in lower case spells. -/
def readUnsigned? (negative : Bool) (t : Text) : Option Binary64 :=
  if t = Text.ofString "inf" ∨ t = Text.ofString "infinity" then some (infinite negative)
  else if t = Text.ofString "nan" then some notANumber
  else
    let (whole, t) := spanDigits t
    let (fraction, t) :=
      if t.head? = some (CodePoint.ofChar '.') then spanDigits t.tail else ([], t)
    match Text.natural? (whole ++ fraction), power? t with
    | some digits, some power =>
      some (ofDecimal negative digits (power - fraction.length))
    | _, _ => none

/-- The number that is nearest to what a text spells. -/
def read? (t : Text) : Option Binary64 :=
  let (negative, t) := t.unpadded.signAndRest
  readUnsigned? negative t.lower

end Caret.Binary64
