/-
  Encoding texts: the code units of a text, and the surrogates that stand in the way.

  * `SurrogateRun`: surrogates of a text that follow one another;
  * `Text.refusedRun?`: the first code point that is refused, with the surrogates behind it;
  * `Text.firstSurrogates?`: the first run of surrogates, if the text has any;
  * `Text.encodeUtf8`: the bytes of a text without surrogates, or the run that prevents them;
  * `Text.encodeUtf16`: the UTF-16 code units of a text, a surrogate standing for itself.
-/
import Caret.Text

namespace Caret

/-- A run of surrogates in a text. -/
structure SurrogateRun where
  /-- How many code points precede the run. -/
  start : Nat
  /-- The first surrogate. -/
  first : CodePoint
  /-- How many surrogates follow the first one directly. -/
  more : Nat

/-- What is wrong with the text, and where. -/
def SurrogateRun.message (r : SurrogateRun) : Text :=
  if r.more = 0 then
    Text.join ["'utf-8' codec can't encode character '\\u", Text.hexadecimal 4 r.first.val,
      "' in position ", Text.decimal r.start, ": surrogates not allowed"]
  else
    Text.join ["'utf-8' codec can't encode characters in position ", Text.decimal r.start, "-",
      Text.decimal (r.start + r.more), ": surrogates not allowed"]

namespace Text

/-- The first code point that is not accepted, together with the surrogates that follow it. -/
def refusedRun? (accepts : CodePoint → Bool) (t : Text) : Option SurrogateRun :=
  match t.dropWhile accepts with
  | [] => none
  | c :: rest =>
    some ⟨(t.takeWhile accepts).length, c, (rest.takeWhile (·.isSurrogate)).length⟩

/-- The first run of surrogates in a text. -/
def firstSurrogates? (t : Text) : Option SurrogateRun :=
  t.refusedRun? (!·.isSurrogate)

/-- The UTF-8 code units of a text, which must hold no surrogate. -/
def encodeUtf8 (t : Text) : Except SurrogateRun (List UInt8) :=
  match t.firstSurrogates? with
  | some r => .error r
  | none => .ok (t.flatMap CodePoint.utf8)

/-- The UTF-16 code units of a text. -/
def encodeUtf16 (t : Text) : List UInt16 :=
  t.flatMap CodePoint.utf16

end Text

end Caret
