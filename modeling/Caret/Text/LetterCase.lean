/-
  Lower and upper case of whole texts.

  * `CodePoint.lower`, `CodePoint.upper`: the other case of one code point, which may be longer;
  * `Text.upper`: code point by code point;
  * `Text.lower`: likewise, but a capital sigma at the end of a word has a form of its own.
-/
import Caret.Text
import Caret.Text.CaseTable

namespace Caret

namespace CodePoint

/-- The other case of a code point, found among the long cases or the runs; most have none. -/
def otherCase (long : List (Nat × List Nat)) (runs : List CaseRun) (c : CodePoint) : Text :=
  match long.lookup c.val with
  | some ns => ns.filterMap ofNat?
  | none =>
    match runs.find? (·.holds c.val) with
    | some r => ((ofNat? (c.val + r.offset).toNat).getD c) :: []
    | none => [c]

/-- The lower case of a code point on its own. -/
def lower (c : CodePoint) : Text :=
  otherCase CaseTable.lowerLong CaseTable.lowerRuns c

/-- The upper case of a code point. -/
def upper (c : CodePoint) : Text :=
  otherCase CaseTable.upperLong CaseTable.upperRuns c

/-- Whether a look for the neighbouring letter passes over the code point. -/
def isCaseIgnorable (c : CodePoint) : Bool :=
  CaseTable.caseIgnorable.any fun r => r.1 ≤ c.val && c.val ≤ r.2

/-- Whether the code point has a case. -/
def isCased (c : CodePoint) : Bool :=
  CaseTable.cased.any fun r => r.1 ≤ c.val && c.val ≤ r.2

/-- The capital sigma. -/
def capitalSigma : CodePoint := ⟨0x3A3, by decide⟩

/-- The small sigma at the end of a word. -/
def finalSigma : CodePoint := ⟨0x3C2, by decide⟩

end CodePoint

namespace Text

/-- The text in upper case. -/
def upper (t : Text) : Text :=
  t.flatMap CodePoint.upper

/-- Whether the nearest code point that counts is a letter with a case. -/
def startsCased (t : Text) : Bool :=
  match t.dropWhile CodePoint.isCaseIgnorable with
  | [] => false
  | c :: _ => c.isCased

/-- The lower case of `t`, where `before` is what precedes it, nearest first: a capital sigma
    behind a letter and in front of none gets its final form. -/
def lowerAfter (before : Text) : Text → Text
  | [] => []
  | c :: t =>
    (if c = CodePoint.capitalSigma && startsCased before && !startsCased t
      then [CodePoint.finalSigma] else c.lower) ++ lowerAfter (c :: before) t

/-- The text in lower case. -/
def lower (t : Text) : Text :=
  lowerAfter [] t

end Text

end Caret
