/-
  Running scripts: the arguments of a request are evaluated from left to right, and then it is
  answered.

  * `Step.perform`: the answer to a request in a session;
  * `Step.answer`: its outcome, and the session after it;
  * `Script.run`: the outcomes of a run of requests. A refusal does not end it.
-/
import Caret.Corpus
import Caret.Measure
import Caret.Script.Argument
import Caret.Script.Operation
import Caret.Value.Reading

namespace Caret

open Session

/-- The level of logging in a record of settings. Nothing stands for the settings of the session. -/
def levelOf (config : Value) : SessionM Level :=
  match config with
  | .null => return .number (← settings).level.number
  | config => withObjects fun o => ofExcept do (← config.get o "log_level").asLevel o

/-- Raises an error object, which is displayed for that. -/
def raiseReport (v : Value) : SessionM Value := do
  match v with
  | .report mark kind => do
    let message ← withObjects (ofExcept <| v.display ·)
    let hint ← withObjects fun o => ofExcept ((o.contents mark).hint.answer o)
    throw (.raised kind message hint)
  | _ => refuse (.mismatch .notAnError)

/-- The texts that belong to a seed. How many pieces each of them has is looked at only if there are
    any. -/
def sampleTexts (seed count maxAtoms : Value) : SessionM (List Text) := do
  let seed ← ofExcept seed.asInteger
  let count ← ofExcept count.asInteger
  if count ≤ 0 then return []
  else ofExcept (Corpus.texts seed count ((← maxAtoms.drawBound SessionM) - 1))

/-- Logs a message, unless it cannot be displayed. -/
def logMessage (logger : Text) (severity : Severity) (message : Value) : SessionM Unit := do
  match message.display (← get).objects with
  | .ok t => changeLog (·.write ⟨severity, logger, t⟩)
  | .error _ => return ()

/-- The answer to a request. -/
def Step.perform : Step → SessionM Value
  | .unary op x => do
    let v ← x.eval
    withObjects (op.apply · v SessionM)
  | .binary op x y => do
    let v ← x.eval
    let w ← y.eval
    withObjects (op.apply · v w SessionM)
  | .limit => return .int Coordinate.limit
  | .fieldSum name x y => do
    let name ← name.eval
    let v ← x.eval
    let w ← y.eval
    withObjects (name.fieldSum · v w SessionM)
  | .assign x name y => do
    let v ← x.eval
    let name ← name.eval
    let w ← y.eval
    Session.assign v (← ofExcept name.asName) w
    return .null
  | .raise x => do raiseReport (← x.eval)
  | .withChecked x checked => do
    let v ← x.eval
    let choice ← checked.eval
    let c ← ofExcept (v.compositeWith "with_checked")
    return .position ⟨.composite, ← watched c choice⟩
  | .measure text checked => do
    let v ← text.eval
    let choice ← evalOr (.bool false) checked
    let c ← ofExcept do (← v.measurable).endPosition
    return .position ⟨.composite, ← watched c choice⟩
  | .texts seed count maxAtoms => do
    let seed ← seed.eval
    let count ← count.eval
    let maxAtoms ← evalOr (.int Corpus.defaultMaxAtoms) maxAtoms
    return .list none ((← sampleTexts seed count maxAtoms).map .text)
  | .document seed lines => do
    let seed ← seed.eval
    let lines ← evalOr (.int Corpus.defaultLines) lines
    ofExcept do return .text (Corpus.document (← seed.asInteger) (← lines.asInteger))
  | .setVariable name value => do
    let name ← name.eval
    let value ← value.eval
    let env := (← get).environment
    let env ← ofExcept do
      let name ← Environment.kept (← name.asText)
      let value ← Environment.kept (← value.asText)
      env.set name value
    changeEnvironment fun _ => env
    return .null
  | .unsetVariable name => do
    let name ← name.eval
    let name ← ofExcept do Environment.kept (← name.asText)
    changeEnvironment (·.unset name)
    return .null
  | .loadSettings => return .ofSettings (← Session.loadSettings)
  | .settings => return .ofSettings (← Session.settings)
  | .resetSettings => do
    Session.resetSettings
    return .null
  | .setUpLog config => do
    let config ← evalOr .null config
    Session.setUpLog (← levelOf config)
  | .logger name => do
    let name ← name.eval
    partLogger (← withObjects (ofExcept <| name.display ·))
  | .log name severity message => do
    let name ← name.eval
    let severity ← severity.eval
    let message ← message.eval
    let name ← withObjects (ofExcept <| name.display ·)
    let severity ← ofExcept severity.asSeverity
    let _ ← partLogger name
    logMessage (Log.partName name) severity message
    return .null
  | .drainLog => do
    let lines := (← get).log.lines
    changeLog Log.drain
    return .list none (lines.map .text)

/-- The outcome of a request in a session, as it is then, and the session after it. -/
def Step.answer (step : Step) (s : Session) : Outcome × Session :=
  match (step.perform >>= marked).run.run s with
  | (.ok v, s) =>
    ((v.answer s.objects).mapError .fault, { s with past := s.past ++ [some v] })
  | (.error refusal, s) => (.error refusal, { s with past := s.past ++ [none] })

namespace Script

/-- The outcomes of requests in a session, and the session after them. -/
def runFrom : List Step → Session → List Outcome × Session
  | [], s => ([], s)
  | step :: rest, s =>
    let (outcome, s) := step.answer s
    let (outcomes, s) := runFrom rest s
    (outcome :: outcomes, s)

/-- The outcomes of requests, one after the other, in a new session with some variables set, given
    as pairs of name and value. -/
def run (pairs : List (Text × Text)) (steps : List Step) : List Outcome :=
  (runFrom steps (.start (.ofList pairs))).1

end Script

end Caret
