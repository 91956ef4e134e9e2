/-
  Binary floating-point numbers of 64 bits, as exact multiples of powers of two.

  * `Binary64`: a number, an infinity, or none;
  * `Binary64.ofRatio`: the number nearest to a ratio, the even one of two;
  * `Binary64.ofDyadic`: the number nearest to a multiple of a power of two.
-/

namespace Caret

/-- A binary floating-point number of 64 bits. -/
inductive Binary64
  /-- The number `± significand · 2 ^ exponent`. -/
  | finite (negative : Bool) (significand : Nat) (exponent : Int)
  /-- Beyond all numbers. -/
  | infinite (negative : Bool)
  /-- No number. -/
  | notANumber
  deriving DecidableEq

namespace Binary64

/-- How many bits a significand has. -/
def precision : Nat := 53

/-- The exponent of the smallest numbers. -/
def minExponent : Int := -1074

/-- The least natural number that is beyond all numbers. -/
def bound : Nat := Nat.pow 2 1024

/-- The quotient of two natural numbers, rounded to the nearest one, and to the even one of two. -/
def roundDiv (num den : Nat) : Nat :=
  let quotient := num / den
  match compare (2 * (num % den)) den with
  | .lt => quotient
  | .eq => quotient + quotient % 2
  | .gt => quotient + 1

/-- A ratio multiplied by a power of two, as numerator and denominator. -/
def scale (num den : Nat) (shift : Int) : Nat × Nat :=
  match shift with
  | .ofNat n => (num * Nat.pow 2 n, den)
  | .negSucc n => (num, den * Nat.pow 2 (n + 1))

/-- The exponent of the highest power of two that a positive ratio reaches. -/
def magnitude (num den : Nat) : Int :=
  let guess := (Nat.log2 num : Int) - Nat.log2 den
  let (n, d) := scale num den (-guess)
  if n < d then guess - 1 else guess

/-- The number nearest to `num / den`. -/
def ofRatio (negative : Bool) (num den : Nat) : Binary64 :=
  if num = 0 then finite negative 0 0
  else
    let exponent := max (magnitude num den - (precision - 1)) minExponent
    let (n, d) := scale num den (-exponent)
    let significand := roundDiv n d
    let (whole, part) := scale significand 1 exponent
    if whole < bound * part then finite negative significand exponent else infinite negative

/-- The number nearest to `a · 2 ^ exponent`. -/
def ofDyadic (a exponent : Int) : Binary64 :=
  let (n, d) := scale a.natAbs 1 exponent
  ofRatio (a < 0) n d

/-- The size of the number `significand · 2 ^ exponent` as a ratio. -/
def ratio (significand : Nat) (exponent : Int) : Nat × Nat :=
  scale significand 1 exponent

end Binary64

end Caret
