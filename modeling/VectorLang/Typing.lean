import VectorLang.Env
import VectorLang.Outcome
import VectorLang.Syntax
import VectorLang.Ty

/-!
# Type checking

An expression has a type in an environment of declared types. Statements are
checked in order; a declaration adds a binding that later statements see, and an
assignment has to keep the declared type. Blocks are checked in scopes of their
own, both branches of an `if` and the body of a loop once each.
-/

namespace VectorLang

variable {α ε : Type}

/-- Work in a new scope, which is closed after a success and a failure alike. -/
@[inline] def Env.inScope (env : Env α) (body : Env α → Outcome ε (Env α)) :
    Outcome ε (Env α) :=
  (body env.enter).mapState Env.leave

/-- The type of a unary operation on an operand of the given type. -/
def UnaryOp.resultTy (op : UnaryOp) (operand : Ty) : Except TypeError Ty :=
  match op with
  | .negate => do Ty.require .int operand; return .int
  | .not => do Ty.require .bool operand; return .bool
  | .first => do return (← operand.components).1
  | .second => do return (← operand.components).2

namespace BinaryOp

/-- The error for operands of arithmetic that no rule fits. The left operand
decides what was expected of the right one. -/
def arithmeticMismatch (left right : Ty) : TypeError :=
  match left with
  | .int => .mismatch (.exactly .int) right
  | .vector => .mismatch (.exactly .vector) right
  | found => .mismatch (.exactly .int) found

/-- What an operator asks of its left operand before the right one is looked at:
a conjunction asks for a truth value, the others for nothing. -/
def requireLeft (op : BinaryOp) (left : Ty) : Except TypeError Unit :=
  match op with
  | .and => Ty.require .bool left
  | .mul | .add | .equal | .pair => .ok ()

/-- The type of a binary operation on operands of the given types. -/
def resultTy (op : BinaryOp) (left right : Ty) : Except TypeError Ty :=
  match op with
  | .and => do Ty.require .bool left; Ty.require .bool right; return .bool
  | .equal => do left.require right; return .bool
  | .pair => .ok (.pair left right)
  | .add =>
      match left, right with
      | .int, .int => .ok .int
      | .vector, .vector => .ok .vector
      | left, right => .error (arithmeticMismatch left right)
  | .mul =>
      match left, right with
      | .int, .int | .vector, .vector => .ok .int
      | .int, .vector | .vector, .int => .ok .vector
      | left, right => .error (arithmeticMismatch left right)

end BinaryOp

/-- The type of an expression, or its first type error from the left. -/
def Expr.typeIn (env : Env Ty) : Expr → Except TypeError Ty
  | .int _ => .ok .int
  | .bool _ => .ok .bool
  | .var name => (env.lookup name).mapError .binding
  | .unary op operand => do op.resultTy (← operand.typeIn env)
  | .binary op left right => do
      let leftTy ← left.typeIn env
      op.requireLeft leftTy
      op.resultTy leftTy (← right.typeIn env)
  | .oneHot length index => do
      Ty.require .int (← length.typeIn env)
      Ty.require .int (← index.typeIn env)
      return .vector

/-- Ask for exactly the type `expected` of an expression. -/
def Expr.requireTy (env : Env Ty) (expected : Ty) (expr : Expr) : Except TypeError Unit := do
  expected.require (← expr.typeIn env)

namespace Stmt

mutual

/-- Check one statement; the environment gains what it declares. -/
def check (env : Env Ty) : Stmt → Outcome TypeError (Env Ty)
  | .declare name value =>
      .withValue env (value.typeIn env) fun ty =>
        .withValue env ((env.declare name ty).mapError .binding) .done
  | .assign name value =>
      .withValue env (value.typeIn env) fun found =>
        .withValue env ((env.lookup name).mapError .binding) fun declared =>
          .withValue env (declared.require found) fun _ =>
            .withValue env ((env.update name found).mapError .binding) fun (_, env) => .done env
  | .print value =>
      .withValue env (value.typeIn env) fun _ => .done env
  | .ifThen condition body =>
      .withValue env (condition.requireTy env .bool) fun _ =>
        env.inScope fun env => checkAll env body
  | .ifElse condition body alternative =>
      .withValue env (condition.requireTy env .bool) fun _ =>
        (env.inScope fun env => checkAll env body).andThen fun env =>
          env.inScope fun env => checkAll env alternative
  | .forEach name elements body =>
      .withValue env (elements.requireTy env .vector) fun _ =>
        env.inScope fun env =>
          .withValue env ((env.declare name .int).mapError .binding) fun env =>
            env.inScope fun env => checkAll env body

/-- Check statements in order until the first error. -/
def checkAll (env : Env Ty) : List Stmt → Outcome TypeError (Env Ty)
  | [] => .done env
  | stmt :: rest => (check env stmt).andThen fun env => checkAll env rest

end

end Stmt

/-- Check a program in an environment of its own. -/
def Program.check (program : Program) : Except TypeError Unit :=
  (Stmt.checkAll .empty program).result

end VectorLang
