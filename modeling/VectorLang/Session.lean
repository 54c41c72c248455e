import VectorLang.Evaluation
import VectorLang.Typing

/-!
# Sessions

A session checks and runs several programs one after the other. The types and the
values declared at top level stay, also those that a failing program declared
before its error. Checking and running are independent of each other.
-/

namespace VectorLang

/-- What a session remembers. -/
structure Session where
  types : Env Ty
  machine : Machine
  deriving DecidableEq, Repr

namespace Session

/-- A session without any declaration. -/
def start : Session := ⟨.empty, .start⟩

/-- Check a program. -/
def check (session : Session) (program : Program) : Outcome TypeError Session :=
  (Stmt.checkAll session.types program).mapState fun types => { session with types }

/-- Run a program, whether it was checked or not. -/
def run (session : Session) (program : Program) : Outcome EvalError Session :=
  (Stmt.execAll session.machine program).mapState fun machine => { session with machine }

/-- The type of an expression. -/
def typeOf (session : Session) (expr : Expr) : Except TypeError Ty :=
  expr.typeIn session.types

/-- The value of an expression. -/
def eval (session : Session) (expr : Expr) : Except EvalError Value :=
  expr.eval session.machine.env

/-- The value of a variable. -/
def find? (session : Session) (name : Name) : Option Value :=
  session.machine.env.find? name

/-- The text of everything printed since `earlier`. -/
def printedSince (session earlier : Session) : String :=
  Value.lines (session.machine.output.toList.drop earlier.machine.output.size)

end Session

end VectorLang
