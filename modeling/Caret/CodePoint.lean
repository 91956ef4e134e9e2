/-
  Code points: the units that texts are made of, and their two encodings.

  * `CodePoint`: a number below `0x110000`, surrogates included;
  * `utf8`, `utf16`: the code units that a code point encodes to.
-/

namespace Caret

/-- A Unicode code point. Surrogates are code points too, so a text that no encoding can hold
    still has a value, and the encoder is what refuses it. -/
structure CodePoint where
  /-- The number of the code point. -/
  val : Nat
  /-- The code space ends at `0x10FFFF`. -/
  val_lt : val < 0x110000
  deriving DecidableEq

namespace CodePoint

/-- The code point of a character. -/
def ofChar (c : Char) : CodePoint :=
  ⟨c.toNat, by
    have h := c.valid
    simp only [UInt32.isValidChar, Nat.isValidChar] at h
    simp only [Char.toNat]
    omega⟩

/-- The code point of a number in the code space. -/
def ofNat? (n : Nat) : Option CodePoint :=
  if h : n < 0x110000 then some ⟨n, h⟩ else none

/-- The line terminator. -/
def newline : CodePoint := ⟨0x0A, by decide⟩

/-- The halves of surrogate pairs, which no encoded text may hold. -/
def isSurrogate (c : CodePoint) : Bool :=
  0xD800 ≤ c.val && c.val < 0xE000

/-! ## Encodings -/

/-- The UTF-8 code units of a code point: one to four bytes. -/
def utf8 (c : CodePoint) : List UInt8 :=
  if c.val < 0x80 then [c.val.toUInt8]
  else if c.val < 0x800 then [(0xC0 + c.val / 0x40).toUInt8, (0x80 + c.val % 0x40).toUInt8]
  else if c.val < 0x10000 then
    [(0xE0 + c.val / 0x1000).toUInt8, (0x80 + c.val / 0x40 % 0x40).toUInt8,
      (0x80 + c.val % 0x40).toUInt8]
  else
    [(0xF0 + c.val / 0x40000).toUInt8, (0x80 + c.val / 0x1000 % 0x40).toUInt8,
      (0x80 + c.val / 0x40 % 0x40).toUInt8, (0x80 + c.val % 0x40).toUInt8]

/-- The UTF-16 code units of a code point: one, or a surrogate pair beyond `0xFFFF`. -/
def utf16 (c : CodePoint) : List UInt16 :=
  if c.val < 0x10000 then [c.val.toUInt16]
  else
    let n := c.val - 0x10000
    [(0xD800 + n / 0x400).toUInt16, (0xDC00 + n % 0x400).toUInt16]

end CodePoint

end Caret
