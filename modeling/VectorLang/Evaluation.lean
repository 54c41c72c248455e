import VectorLang.Env
import VectorLang.Outcome
import VectorLang.Value.Operator

/-!
# Running programs

Expressions are evaluated from the left and change nothing. Statements declare,
assign and print; blocks run in scopes of their own, and a loop runs its block
once for each element of a vector. The first error stops the program; what was
printed before stays printed.
-/

namespace VectorLang

/-- The value of an expression, or its first error from the left. Both operands
of an operator are always evaluated. -/
def Expr.eval (env : Env Value) : Expr → Except EvalError Value
  | .int value => .ok (.int value)
  | .bool value => .ok (.bool value)
  | .var name => (env.lookup name).mapError .binding
  | .unary op operand => do op.apply (← operand.eval env)
  | .binary op left right => do
      let leftValue ← left.eval env
      op.apply leftValue (← right.eval env)
  | .oneHot length index => do
      let lengthValue ← (← length.eval env).asInt
      let indexValue ← (← index.eval env).asInt
      Value.oneHot lengthValue indexValue

/-- What a running program changes. -/
structure Machine where
  env : Env Value
  /-- The printed values, in order. -/
  output : Array Value
  deriving DecidableEq, Repr

namespace Machine

/-- Nothing declared and nothing printed. -/
def start : Machine := ⟨.empty, #[]⟩

/-- Bind a new name in the innermost scope. -/
def declare (machine : Machine) (name : Name) (value : Value) : Outcome EvalError Machine :=
  .withValue machine ((machine.env.declare name value).mapError .binding) fun env =>
    .done { machine with env }

/-- Overwrite the innermost binding of a name. -/
def assign (machine : Machine) (name : Name) (value : Value) : Outcome EvalError Machine :=
  .withValue machine ((machine.env.update name value).mapError .binding) fun (_, env) =>
    .done { machine with env }

/-- Print a value. -/
def print (machine : Machine) (value : Value) : Outcome EvalError Machine :=
  .done { machine with output := machine.output.push value }

/-- Work in a new scope, which is closed after a success and a failure alike. -/
@[inline] def inScope (machine : Machine) (body : Machine → Outcome EvalError Machine) :
    Outcome EvalError Machine :=
  (body { machine with env := machine.env.enter }).mapState fun machine =>
    { machine with env := machine.env.leave }

/-- The text of everything printed. -/
def printed (machine : Machine) : String :=
  Value.lines machine.output.toList

end Machine

namespace Stmt

mutual

/-- Run one statement. -/
def exec (machine : Machine) : Stmt → Outcome EvalError Machine
  | .declare name value =>
      .withValue machine (value.eval machine.env) fun value => machine.declare name value
  | .assign name value =>
      .withValue machine (value.eval machine.env) fun value => machine.assign name value
  | .print value =>
      .withValue machine (value.eval machine.env) fun value => machine.print value
  | .ifThen condition body =>
      .withValue machine (condition.eval machine.env >>= Value.asBool) fun
        | true => machine.inScope fun machine => execAll machine body
        | false => .done machine
  | .ifElse condition body alternative =>
      .withValue machine (condition.eval machine.env >>= Value.asBool) fun
        | true => machine.inScope fun machine => execAll machine body
        | false => machine.inScope fun machine => execAll machine alternative
  | .forEach name elements body =>
      .withValue machine (elements.eval machine.env >>= Value.asVector) fun elements =>
        machine.inScope fun machine =>
          (machine.declare name (.int 0)).andThen
            (Outcome.forEach (fun element machine =>
              (machine.assign name (.int element)).andThen fun machine =>
                machine.inScope fun machine => execAll machine body) elements)

/-- Run statements in order until the first error. -/
def execAll (machine : Machine) : List Stmt → Outcome EvalError Machine
  | [] => .done machine
  | stmt :: rest => (exec machine stmt).andThen fun machine => execAll machine rest

end

end Stmt

/-- Run a program from the start. -/
def Program.exec (program : Program) : Outcome EvalError Machine :=
  Stmt.execAll .start program

end VectorLang
