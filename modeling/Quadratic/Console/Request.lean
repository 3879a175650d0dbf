/-
Quadratic.Console.Request — what a reader is asked for, one request after
another.

A request is for one coefficient under a prompt, for all three, or for
the next token as it stands. A RESTART puts a new reader in the place of
the old one, on the same input: it goes on with the next line, and the
tokens that the old one kept are lost.

A request that comes to the end of the input has no reply. The reader can
be asked again afterwards.
-/
import Quadratic.Console.Reader

namespace Quadratic.Console

inductive Request
  | coefficient (prompt : String)
  | coefficients
  | token
  | restart
deriving DecidableEq

inductive Reply
  | coefficient (x : Binary64)
  | coefficients (q : Coefficients)
  | token (t : String)
  | restarted
deriving DecidableEq

/-- A reading with its value put into another form. -/
def Reading.map {α β : Type} (f : α → β) (r : Reading α) : Reading β :=
  { value := r.value.map f, written := r.written, rejected := r.rejected, rest := r.rest }

namespace Reader

/-- The reading that a request stands for. -/
def answer (r : Reader) : Request → Reading Reply
  | .coefficient prompt => (r.readCoefficient prompt).map .coefficient
  | .coefficients => r.readAll.map .coefficients
  | .token => r.readToken.map .token
  | .restart =>
      { value := some .restarted, written := "", rejected := [], rest := start r.unread }

/-- The reader after some requests. -/
def after (r : Reader) (qs : List Request) : Reader :=
  qs.foldl (fun r q => (r.answer q).rest) r

end Reader

end Quadratic.Console
