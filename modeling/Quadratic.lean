import Quadratic.Main
import Quadratic.Coefficients.Assign
import Quadratic.Console.Request
import Quadratic.Json.Reader
import Quadratic.Proofs.Nearest
import Quadratic.Proofs.Arithmetic
import Quadratic.Proofs.Classification
import Quadratic.Proofs.Shortest
import Quadratic.Proofs.Numeral
import Quadratic.Proofs.Tokens
import Quadratic.Proofs.Transcript
import Quadratic.Proofs.Isolation
import Quadratic.Proofs.RoundTrip
import Quadratic.Proofs.Buffering
import Quadratic.Proofs.Report
import Quadratic.Proofs.Rerun
import Quadratic.Proofs.Integers
import Quadratic.Proofs.Installation
import Quadratic.Proofs.JsonNumber
import Quadratic.Proofs.JsonRoundTrip
import Quadratic.Proofs.Members
import Quadratic.Proofs.JsonForms
import Quadratic.Proofs.Lines
import Quadratic.Proofs.Hierarchy
import Quadratic.Proofs.Delivery
import Quadratic.Proofs.Trace
import Quadratic.Proofs.FiniteRange
import Quadratic.Proofs.CorrectReading
import Quadratic.Proofs.Agreement
import Quadratic.Proofs.Memory
import Quadratic.Proofs.Remembering
import Quadratic.Proofs.LogLines
import Quadratic.Proofs.Operations
import Quadratic.Proofs.FewestDigits
import Quadratic.Proofs.DigitsOfText
import Quadratic.Proofs.Layout
import Quadratic.Proofs.WholeLines
import Quadratic.Proofs.ErrorBound
import Quadratic.Proofs.Degeneration
import Quadratic.Proofs.EqualCoefficients
import Quadratic.Proofs.FirstConfiguration
import Quadratic.Proofs.Symmetry
import Quadratic.Proofs.SeventeenDigits
import Quadratic.Proofs.InvalidSettings
import Quadratic.Proofs.Unambiguous
import Quadratic.Proofs.LineMembers
import Quadratic.Proofs.UsableSettings
