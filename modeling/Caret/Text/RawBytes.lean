/-
  Texts that stand for any bytes: a byte that is part of no UTF-8 sequence is a low surrogate.

  * `CodePoint.rawByte?`, `CodePoint.ofRawByte`: the bytes that surrogates stand for;
  * `Text.toBytes`: the bytes that a text stands for, refused for surrogates that stand for none;
  * `Text.ofBytes`: the text that stands for given bytes.
-/
import Caret.Text.Encoding

namespace Caret

namespace CodePoint

/-- The byte that a surrogate stands for, if it is one of those that stand for the bytes beyond
    ASCII. -/
def rawByte? (c : CodePoint) : Option UInt8 :=
  if 0xDC80 ≤ c.val ∧ c.val < 0xDD00 then some (c.val - 0xDC00).toUInt8 else none

/-- What stands for a byte on its own: the character in ASCII, and a surrogate beyond. -/
def ofRawByte (b : UInt8) : CodePoint :=
  if h : b.toNat < 0x80 then ⟨b.toNat, by omega⟩
  else ⟨0xDC00 + b.toNat, by have := b.toNat_lt; omega⟩

/-- How many bytes follow the first one of a UTF-8 sequence, as its leading bits say. -/
def followers (b : UInt8) : Nat :=
  if b.toNat < 0xC0 then 0 else if b.toNat < 0xE0 then 1 else if b.toNat < 0xF0 then 2 else 3

/-- The number that a UTF-8 sequence spells: the low bits of its first byte, and six bits of each
    of the others. -/
def spelled (b : UInt8) (others : List UInt8) : Nat :=
  others.foldl (fun n d => 0x40 * n + d.toNat % 0x40) <|
    match followers b with
    | 0 => b.toNat
    | 1 => b.toNat % 0x20
    | 2 => b.toNat % 0x10
    | _ => b.toNat % 0x08

/-- The code point whose UTF-8 sequence is at the start of some bytes, and the bytes behind it. The
    sequence has to be the one that the code point is encoded by. -/
def ofUtf8? (b : UInt8) (rest : List UInt8) : Option (CodePoint × List UInt8) :=
  let others := rest.take (followers b)
  match ofNat? (spelled b others) with
  | some c =>
    if !c.isSurrogate && c.utf8 == b :: others then some (c, rest.drop (followers b)) else none
  | none => none

theorem length_of_ofUtf8? {b : UInt8} {rest more : List UInt8} {c : CodePoint}
    (h : ofUtf8? b rest = some (c, more)) : more.length ≤ rest.length := by
  simp only [ofUtf8?] at h
  split at h
  · split at h
    · simp only [Option.some.injEq, Prod.mk.injEq] at h
      rw [← h.2, List.length_drop]
      omega
    · simp at h
  · simp at h

end CodePoint

namespace Text

/-- The bytes that a text stands for: the bytes of its encoding, but a surrogate that stands for a
    byte is that byte. Other surrogates are refused. -/
def toBytes (t : Text) : Except SurrogateRun (List UInt8) :=
  match t.refusedRun? (fun c => !c.isSurrogate || c.rawByte?.isSome) with
  | some r => .error r
  | none => .ok (t.flatMap fun c => match c.rawByte? with
    | some b => [b]
    | none => c.utf8)

/-- The text that stands for some bytes. -/
def ofBytes : List UInt8 → Text
  | [] => []
  | b :: rest =>
    match h : CodePoint.ofUtf8? b rest with
    | some (c, more) =>
      have : more.length ≤ rest.length := CodePoint.length_of_ofUtf8? h
      c :: ofBytes more
    | none => CodePoint.ofRawByte b :: ofBytes rest
termination_by bytes => bytes.length

end Text

end Caret
