/-
  Sample texts: random mixtures of characters of every width and of both line ends.

  * `Corpus.atoms`: the pieces that texts are made of;
  * `Corpus.drawText`, `drawTexts`, `drawDocument`: texts from any source of random numbers;
  * `Corpus.texts`, `Corpus.document`: the texts that belong to a seed.
-/
import Caret.Fault
import Caret.Random.MersenneTwister

namespace Caret.Corpus

variable {σ : Type}

/-- The pieces: characters of one to four bytes, and both line ends. -/
def atoms : List Text :=
  ["a", "Z", "0", " ", "\t", "\r", "é", "ß", "€", "い", "ろ", "🐧", "𝄞", "\n", "\r\n"]

/-- The ends of a line. -/
def lineEnds : List Text := ["\n", "\r\n"]

/-- How many pieces a text has at most, if nothing is said. -/
def defaultMaxAtoms : Nat := 24

/-- How many pieces a line of a document has at most. -/
def lineMaxAtoms : Nat := 12

/-- How many lines a document has, if nothing is said. -/
def defaultLines : Nat := 20

/-- A text of at most `maxAtoms` pieces: first their number is drawn, then they are. -/
def drawText (source : RandomSource σ) (maxAtoms : Nat) (g : σ) : Text × σ :=
  let (n, g) := source.below (maxAtoms + 1) (Nat.succ_pos _) g
  let (pieces, g) := RandomSource.times (source.choose atoms (List.cons_ne_nil _ _)) n g
  (Text.join pieces, g)

/-- As many texts as asked for. -/
def drawTexts (source : RandomSource σ) (maxAtoms count : Nat) (g : σ) : List Text × σ :=
  RandomSource.times (drawText source maxAtoms) count g

/-- A line: a text without line terminators, and an end. -/
def drawLine (source : RandomSource σ) (g : σ) : Text × σ :=
  let (t, g) := drawText source lineMaxAtoms g
  let (lineEnd, g) := source.choose lineEnds (List.cons_ne_nil _ _) g
  (t.filter (· ≠ CodePoint.newline) ++ lineEnd, g)

/-- A text of as many lines as asked for. -/
def drawDocument (source : RandomSource σ) (lines : Nat) (g : σ) : Text × σ :=
  let (parts, g) := RandomSource.times (drawLine source) lines g
  (Text.join parts, g)

/-- The texts that belong to a seed. Less than none are none; a text of less than no pieces cannot
    be drawn. -/
def texts (seed count maxAtoms : Int) : Except Fault (List Text) :=
  if count ≤ 0 then .ok []
  else if maxAtoms < 0 then
    .error (.showing (maxAtoms + 1) (.badValue (.emptyDraw (maxAtoms + 1))))
  else .ok (drawTexts MersenneTwister.source maxAtoms.toNat count.toNat (.ofSeed seed)).1

/-- The document that belongs to a seed. -/
def document (seed lines : Int) : Text :=
  (drawDocument MersenneTwister.source lines.toNat (.ofSeed seed)).1

end Caret.Corpus
