/-
  The Mersenne Twister MT19937: 624 words of state that are renewed together.

  * `MersenneTwister`: the words of the state and how many of them have been used;
  * `MersenneTwister.ofSeed`: the state for an integer, whose sign does not matter;
  * `next`, `bits`, `below`: the next word, a number of given length, a number below a bound;
  * `MersenneTwister.source`: the generator as a source of random numbers.
-/
import Caret.Random.Source

namespace Caret

/-- The state of the generator. -/
structure MersenneTwister where
  /-- The words of the state. -/
  words : Array UInt32
  /-- How many words have been used since they were renewed. -/
  used : Nat

namespace MersenneTwister

/-- The number of words of the state. -/
def size : Nat := 624

/-- The word at a place in the state, counted around its end. -/
def word (words : Array UInt32) (i : Nat) : UInt32 :=
  words.getD (i % size) 0

/-! ## Seeding -/

/-- A word with its upper bits folded onto the lower ones. -/
def folded (w : UInt32) : UInt32 :=
  w ^^^ (w >>> 30)

/-- The state that grows from a single word. -/
def wordsOfWord (seed : UInt32) : Array UInt32 :=
  (List.range (size - 1)).foldl
    (fun words i => words.push (1812433253 * folded (word words i) + (i + 1).toUInt32)) #[seed]

/-- Replaces the word at place `i`, which is never the first; the first word follows the last. -/
def replace (words : Array UInt32) (i : Nat) (w : UInt32) : Array UInt32 :=
  let words := words.setIfInBounds i w
  if i + 1 = size then words.setIfInBounds 0 w else words

/-- The place after `i`, the first one left out. -/
def following (i : Nat) : Nat :=
  if i + 1 < size then i + 1 else 1

/-- Mixes the words of a key into the state, one for each of so many steps. -/
def mixKey (key : Array UInt32) : (steps i j : Nat) → Array UInt32 → Nat × Array UInt32
  | 0, i, _, words => (i, words)
  | steps + 1, i, j, words =>
    let w := (word words i ^^^ (folded (word words (i - 1)) * 1664525)) + key.getD j 0 + j.toUInt32
    mixKey key steps (following i) (if j + 1 < key.size then j + 1 else 0) (replace words i w)

/-- Mixes the places of the words into the state. -/
def mixPlaces : (steps i : Nat) → Array UInt32 → Array UInt32
  | 0, _, words => words
  | steps + 1, i, words =>
    let w := (word words i ^^^ (folded (word words (i - 1)) * 1566083941)) - i.toUInt32
    mixPlaces steps (following i) (replace words i w)

/-- How many words there are. -/
abbrev wordCount : Nat := 4294967296

/-- The words of a number, lowest first; a single zero for zero. -/
def keyOfNat (n : Nat) : List UInt32 :=
  if _h : n < wordCount then [n.toUInt32]
  else (n % wordCount).toUInt32 :: keyOfNat (n / wordCount)
termination_by n
decreasing_by
  unfold wordCount at *
  omega

/-- The state for an integer. -/
def ofSeed (seed : Int) : MersenneTwister :=
  let key := (keyOfNat seed.natAbs).toArray
  let (i, words) := mixKey key (max size key.size) 1 0 (wordsOfWord 19650218)
  ⟨(mixPlaces (size - 1) i words).setIfInBounds 0 0x80000000, size⟩

/-! ## Drawing -/

/-- The renewed word at place `i`: it depends on its neighbour and on the word 397 places on. -/
def renewed (words : Array UInt32) (i : Nat) : UInt32 :=
  let y := (word words i &&& 0x80000000) ||| (word words (i + 1) &&& 0x7FFFFFFF)
  word words (i + 397) ^^^ (y >>> 1) ^^^ (if y &&& 1 = 0 then 0 else 0x9908B0DF)

/-- All words renewed in order of place. -/
def renew (words : Array UInt32) : Array UInt32 :=
  (List.range size).foldl (fun words i => words.setIfInBounds i (renewed words i)) words

/-- A word of the state as it is given out. -/
def temper (y : UInt32) : UInt32 :=
  let y := y ^^^ (y >>> 11)
  let y := y ^^^ ((y <<< 7) &&& 0x9D2C5680)
  let y := y ^^^ ((y <<< 15) &&& 0xEFC60000)
  y ^^^ (y >>> 18)

/-- The next word. -/
def next (g : MersenneTwister) : UInt32 × MersenneTwister :=
  if g.used < size then (temper (word g.words g.used), { g with used := g.used + 1 })
  else
    let words := renew g.words
    (temper (word words 0), ⟨words, 1⟩)

/-- A number of `k` bits: the upper bits of a word, with whole words below them. -/
def bits (k : Nat) (g : MersenneTwister) : Nat × MersenneTwister :=
  let (w, g) := g.next
  if k ≤ 32 then (w.toNat >>> (32 - k), g)
  else
    let (upper, g) := bits (k - 32) g
    (w.toNat + upper <<< 32, g)
termination_by k

/-- A number below `n`: numbers of the length of `n` are drawn until one is small enough. Each draw
    is with a chance of a half at least; after so many in vain, which does not happen in practice,
    the least number is taken. -/
def below (n : Nat) (h : 0 < n) : (draws : Nat) → MersenneTwister → Fin n × MersenneTwister
  | 0, g => (⟨0, h⟩, g)
  | draws + 1, g =>
    let (r, g) := bits (n.log2 + 1) g
    if hr : r < n then (⟨r, hr⟩, g) else below n h draws g

/-- The generator as a source of random numbers. -/
def source : RandomSource MersenneTwister :=
  ⟨fun n h => below n h 1000⟩

end MersenneTwister

end Caret
