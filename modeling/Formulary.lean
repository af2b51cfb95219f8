import Formulary.Session.Run
import Formulary.Proofs.Grammar.Derivation
import Formulary.Proofs.Number.Reading
import Formulary.Proofs.Grammar.Language
import Formulary.Proofs.Grammar.Infix
import Formulary.Proofs.Number.Nearest
import Formulary.Proofs.Number.Rounding
import Formulary.Proofs.Number.Shortest
import Formulary.Proofs.Number.Rendering
import Formulary.Proofs.Precision
import Formulary.Proofs.Token.Scan
import Formulary.Proofs.Token.Canonical
import Formulary.Proofs.Formula.Construction
import Formulary.Proofs.Formula.Canonical
import Formulary.Proofs.Number.RoundTrip
import Formulary.Proofs.Text.Capitals
import Formulary.Proofs.Token.Pieces
import Formulary.Proofs.Formula.Spelling
import Formulary.Proofs.Session.OptionValues
import Formulary.Proofs.Formula.Failure
import Formulary.Proofs.Grammar.Detection
import Formulary.Proofs.Number.Minimal
import Formulary.Proofs.Session.Restoring
import Formulary.Proofs.Number.Layout
import Formulary.Proofs.Number.Closest
import Formulary.Proofs.Number.Value
import Formulary.Proofs.Grammar.Overflow
import Formulary.Proofs.Number.Spacing
import Formulary.Proofs.Formula.FewDigits
import Formulary.Proofs.Number.Significant
import Formulary.Proofs.Session.Warnings
import Formulary.Proofs.Formula.Composition
import Formulary.Proofs.Grammar.Rules
import Formulary.Proofs.Number.Continuation
import Formulary.Proofs.Token.Segments
import Formulary.Proofs.Formula.Shapes
import Formulary.Proofs.Token.Locality
