/-
  Numbers: integers and binary floating-point numbers, compared and added across the two.

  * `Number`: a number of either sort;
  * `Number.compare?`: their order, which is that of their exact values;
  * `Number.sum`: their sum, an integer only for two integers.
-/
import Caret.Fault
import Caret.Number.Decimal

namespace Caret

/-- A number. -/
inductive Number
  /-- An integer. -/
  | int (n : Int)
  /-- A number with a fraction. -/
  | float (x : Binary64)

namespace Number

/-- Whether a number is below all finite ones, one of them, or above them; none if it is no
    number. -/
def rank? : Number → Option Int
  | int _ | float (.finite ..) => some 0
  | float (.infinite negative) => some (if negative then -1 else 1)
  | float .notANumber => none

/-- A finite number as a multiple of a power of two. -/
def dyadic : Number → Int × Int
  | int n => (n, 0)
  | float (.finite negative significand exponent) =>
    (if negative then -(significand : Int) else significand, exponent)
  | float _ => (0, 0)

/-- Two multiples of powers of two as multiples of the smaller one. -/
def aligned (a b : Int × Int) : Int × Int × Int :=
  let exponent := min a.2 b.2
  (a.1 * Nat.pow 2 (a.2 - exponent).toNat, b.1 * Nat.pow 2 (b.2 - exponent).toNat, exponent)

/-- The order of two numbers by their exact values, unless one of them is no number. -/
def compare? : Number → Number → Option Ordering
  | int m, int n => some (compare m n)
  | a, b =>
    match a.rank?, b.rank? with
    | some 0, some 0 =>
      let (m, n, _) := aligned a.dyadic b.dyadic
      some (compare m n)
    | some i, some j => some (compare i j)
    | _, _ => none

/-- Whether a comparison holds for two numbers. What is no number differs from everything, and has
    no order. -/
def test (c : Comparison) (a b : Number) : Bool :=
  match a.compare? b with
  | some o => c.holds o
  | none => c == .ne

/-! ## Sums -/

/-- A number as one with a fraction, refused if it is too large. -/
def toFloat : Number → Except Fault Binary64
  | float x => .ok x
  | int n =>
    match Binary64.ofDyadic n 0 with
    | .infinite _ => .error (.unrepresentable .largeInteger)
    | x => .ok x

/-- The sum of two numbers with fractions. Zeros that are both negative make one. -/
def sumFloats : Binary64 → Binary64 → Binary64
  | .notANumber, _ | _, .notANumber => .notANumber
  | .infinite a, .infinite b => if a = b then .infinite a else .notANumber
  | .infinite a, _ | _, .infinite a => .infinite a
  | x@(.finite a s _), y@(.finite b t _) =>
    if s = 0 ∧ t = 0 then .finite (a && b) 0 0
    else
      let (m, n, exponent) := aligned (float x).dyadic (float y).dyadic
      Binary64.ofDyadic (m + n) exponent

/-- The sum of two numbers. -/
def sum : Number → Number → Except Fault Number
  | int m, int n => .ok (int (m + n))
  | a, b => do return float (sumFloats (← a.toFloat) (← b.toFloat))

/-- A number without its fraction. -/
def truncate : Number → Except Fault Int
  | int n => .ok n
  | float (.infinite _) => .error (.unrepresentable .infinity)
  | float .notANumber => .error (.badValue .notANumber)
  | float (.finite negative significand exponent) =>
    let (num, den) := Binary64.ratio significand exponent
    .ok (if negative then -(num / den : Nat) else (num / den : Nat))

/-- Whether a number counts as yes: any but zero. -/
def isTruthy : Number → Bool
  | int n => n != 0
  | float (.finite _ significand _) => significand != 0
  | float _ => true

end Number

end Caret
