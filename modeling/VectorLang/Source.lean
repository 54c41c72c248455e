import VectorLang.Evaluation
import VectorLang.Fault
import VectorLang.Reader.Program
import VectorLang.Typing

/-!
# From source text to output

Reading, checking and running a source text; the first error of any phase ends
the work.
-/

namespace VectorLang

/-- Read a program. -/
def Program.ofSource (source : String) : Except Fault Program := do
  let tokens ← (tokenize source).mapError .lexical
  (Program.ofTokens tokens).mapError .syntactic

/-- Read the longest expression at the front of a text. The whole text has to
consist of tokens, but what stands behind the expression is of no concern. -/
def Expr.ofSource (source : String) : Except Fault Expr := do
  let tokens ← (tokenize source).mapError .lexical
  let (expr, _) ← (Expr.ofTokens tokens).mapError .syntactic
  return expr

namespace Source

/-- Read a program and check its types. -/
def check (source : String) : Except Fault Unit := do
  let program ← Program.ofSource source
  program.check.mapError .typing

/-- Read a program and, if asked for, check its types. -/
def prepare (source : String) (typecheck : Bool) : Except Fault Program := do
  let program ← Program.ofSource source
  if typecheck then program.check.mapError .typing
  return program

/-- Read, check if asked for, and run a program. The outcome holds the printed
values; an error before the run leaves none. -/
def run (source : String) (typecheck : Bool) : Outcome Fault (Array Value) :=
  .withValue #[] (prepare source typecheck) fun program =>
    let outcome := program.exec
    ⟨outcome.error?.map .runtime, outcome.state.output⟩

end Source

end VectorLang
