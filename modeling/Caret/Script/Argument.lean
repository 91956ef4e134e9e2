/-
  Arguments of requests: what they stand for in a session.

  * `watched`: a composite with its choice of checking;
  * `Builder.build`: what is built from values;
  * `Expr.eval`, `evalAll`: the value of an argument, and those of several from left to right.
-/
import Caret.Script.Basic
import Caret.Session
import Caret.Value.Building

namespace Caret

open Session

/-! ## Building -/

/-- A composite with its choice of checking, which the settings decide if it is left open. -/
def watched (c : Composite) (choice : Value) : SessionM Composite := do
  let choice ← ofExcept choice.choiceOf
  let checked ← resolve choice
  c.withChecked checked SessionM

/-- The value given for a part of a composite, and that at the start of a text otherwise. -/
def partGiven (given : List (CompositePart × Value)) (part : CompositePart) : Value :=
  (given.lookup part).getD <|
    match part with
    | .index => .position (.zero .byteIndex)
    | .utf8 => .position (.zero (.rowColumn .utf8))
    | .utf16 => .position (.zero (.rowColumn .utf16))
    | .checked => .null

/-- What is built from the values of the arguments. -/
def Builder.build (b : Builder) (args : List Value) : SessionM Value :=
  let number (i : Nat) := args.getD i (.int 0)
  let other (i : Nat) := args.getD i .null
  match b with
  | .byteIndex => do
    return .position ⟨.byteIndex, ← ofExcept (number 0).byteIndexOf⟩
  | .rowColumn u => do
    return .position ⟨.rowColumn u, ← ofExcept (Value.rowColumnOf u (number 0) (number 1))⟩
  | .noUnit => refuse (.mismatch .noUnit)
  | .numbers => do
    let c ← ofExcept (Value.numbersOf (number 0) (number 1) (number 2) (number 3))
    return .position ⟨.composite, ← watched c (other 4)⟩
  | .parts given => do
    let part := partGiven (given.zip args)
    let c ← ofExcept (Value.partsOf (part .index) (part .utf8) (part .utf16))
    return .position ⟨.composite, ← watched c (part .checked)⟩
  | .range => do
    return .range (← Value.rangeOf (other 0) (other 1) SessionM)
  | .config => marked (.config none (other 0) (other 1))
  | .report k => newReport k args

/-! ## Arguments -/

/-- The value that an earlier request came to. -/
def answered (past : List (Option Value)) (step : Int) : Except Fault Value :=
  match if step < 0 then none else past[step.toNat]? with
  | some (some v) => .ok v
  | _ => .error (.noResult step)

mutual

/-- The value of an argument. -/
def Expr.eval : Expr → SessionM Value
  | .data d => marked d.toValue
  | .list items => do marked (.list none (← evalAll items))
  | .ref step => do ofExcept (answered (← get).past step)
  | .build b args => do b.build (← evalAll args)

/-- The values of arguments, from left to right. -/
def evalAll : List Expr → SessionM (List Value)
  | [] => return []
  | e :: rest => return (← e.eval) :: (← evalAll rest)

end

/-- The value of an argument that may be left out. -/
def evalOr (default : Value) : Option Expr → SessionM Value
  | some e => e.eval
  | none => return default

end Caret
