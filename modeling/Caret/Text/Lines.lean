/-
  The lines of a text as readers see them, whatever ends a line.

  * `CodePoint.isLineBreak`: the code points that end a line;
  * `Text.lines`: the lines of a text without what ends them;
  * `Text.withoutStamp`: a line without the date and the time in front of it.
-/
import Caret.Text.Integer

namespace Caret

/-- The carriage return. -/
def CodePoint.carriageReturn : CodePoint := ⟨0x0D, by decide⟩

/-- The code points that end a line, as ranges with both ends included: the line ends and the
    separators of pages, files, groups and records, but not that of units. -/
def CodePoint.lineBreaks : List (Nat × Nat) :=
  [(0x0A, 0x0D), (0x1C, 0x1E), (0x85, 0x85), (0x2028, 0x2029)]

/-- Whether a code point ends a line. -/
def CodePoint.isLineBreak (c : CodePoint) : Bool :=
  lineBreaks.any fun r => r.1 ≤ c.val && c.val ≤ r.2

/-- The lines of a text, without what ends them. A carriage return in front of a line terminator
    ends no line of its own, and nothing is no line: what follows the last line break counts only
    if there is something. -/
def Text.lines : Text → List Text
  | [] => []
  | c :: t =>
    if c = CodePoint.carriageReturn ∧ t.head? = some CodePoint.newline then lines t
    else if c.isLineBreak then [] :: lines t
    else match lines t with
      | [] => [[c]]
      | line :: rest => (c :: line) :: rest

/-! ## Stamps -/

namespace Text

/-- The shape of a stamp, with zeros for any digits. -/
def stamp : Text := "0000-00-00 00:00:00.000 "

/-- Whether a code point is what the shape of a stamp asks for. -/
def fitsStamp (wanted c : CodePoint) : Bool :=
  if wanted = CodePoint.ofChar '0' then c.digit?.isSome else c = wanted

/-- Whether a line starts with a stamp. -/
def hasStamp (line : Text) : Bool :=
  stamp.length ≤ line.length && (stamp.zip line).all fun (wanted, c) => fitsStamp wanted c

/-- A line without the stamp in front of it, if there is one. -/
def withoutStamp (line : Text) : Text :=
  if line.hasStamp then line.drop stamp.length else line

end Text

end Caret
