import Caret.Script.Run
import Caret.Proofs.Corpus
import Caret.Proofs.Log.Setup
import Caret.Proofs.Log.Violations
import Caret.Proofs.Measure.Closure
import Caret.Proofs.Measure.Document
import Caret.Proofs.Measure.Pieces
import Caret.Proofs.Measure.Refusals
import Caret.Proofs.Measure.Subtraction
import Caret.Proofs.Position.Associativity
import Caret.Proofs.Position.Comparisons
import Caret.Proofs.Position.Componentwise
import Caret.Proofs.Position.SingleMeasure
import Caret.Proofs.Position.Translation
import Caret.Proofs.Range.Display
import Caret.Proofs.Range.Editor
import Caret.Proofs.Range.Lattice
import Caret.Proofs.Range.Length
import Caret.Proofs.Range.Membership
import Caret.Proofs.Range.Mixing
import Caret.Proofs.Range.Refusals
import Caret.Proofs.Range.Translation
import Caret.Proofs.Settings.Influence
import Caret.Proofs.Watching.Scripts
import Caret.Proofs.WellFormed.Scripts
