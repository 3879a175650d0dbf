/-
Quadratic.Console.Run — one run of the calculator: the title, the three
coefficients, and the report.

A run is a reading too. Its value is the evaluation; if the input ends
before the third coefficient there is none, and nothing of the report is
written.
-/
import Quadratic.Console.Reader

namespace Quadratic.Console

/-- The first line of the transcript. -/
def title : String := "=== Discriminant Calculator ==="

/-- One run on a text. -/
def run (input : List Char) : Reading Evaluation :=
  ((Reader.start input).readAll.andThen fun q r =>
    { value := some (Evaluation.of q), written := (Evaluation.of q).report,
      rejected := [], rest := r }).afterText
    (title ++ "\n")

end Quadratic.Console
