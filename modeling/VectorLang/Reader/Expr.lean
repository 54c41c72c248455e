import VectorLang.Reader.Error
import VectorLang.Syntax

/-!
# Reading expressions

An expression is read token by token. Between two tokens there is an unfinished
expression: a tree with one hole, kept from the hole outward. Binary operators
wait in it for their right operand until an operator that binds less tightly, or
the end of their bracket, completes them; unary operators are completed by the
operand that follows them.
-/

namespace VectorLang

/-- The unary operator written with `token`. -/
def UnaryOp.ofToken? : Token → Option UnaryOp
  | .symbol .minus => some .negate
  | .symbol .bang => some .not
  | .keyword .first => some .first
  | .keyword .second => some .second
  | _ => none

/-- The binary operator written with `token`. -/
def BinaryOp.ofToken? : Token → Option BinaryOp
  | .symbol .star => some .mul
  | .symbol .plus => some .add
  | .symbol .equals => some .equal
  | .symbol .bothAnd => some .and
  | .symbol .comma => some .pair
  | _ => none

/-- A binary operator with its left operand, waiting for the right one. -/
structure Pending where
  op : BinaryOp
  left : Expr
  deriving DecidableEq, Repr

namespace Pending

/-- Complete an operator with its right operand. -/
def close (right : Expr) (pending : Pending) : Expr :=
  .binary pending.op pending.left right

/-- Complete all operators, from the last one on. -/
def closeAll (value : Expr) (pending : List Pending) : Expr :=
  pending.foldl close value

/-- Complete the operators that bind at least as tightly as `binding`, from the
last one on until one binds less tightly. -/
def closeFrom (binding : Nat) (value : Expr) : List Pending → Expr × List Pending
  | [] => (value, [])
  | last :: pending =>
      if binding ≤ last.op.binding then closeFrom binding (last.close value) pending
      else (value, last :: pending)

end Pending

/-- The place of an operand inside its bracket: the unary operators before it and
the binary operators that wait, both from the hole outward. -/
structure Hole where
  unary : List UnaryOp
  pending : List Pending
  deriving DecidableEq, Repr

/-- The place of an operand that starts its bracket. -/
def Hole.fresh : Hole := ⟨[], []⟩

/-- A bracket around the hole. -/
inductive Bracket where
  | paren
  /-- The hole is in the length of a vector. -/
  | length
  /-- The hole is in the index of a vector of the given length. -/
  | index (length : Expr)
  deriving DecidableEq, Repr

/-- The token that ends a bracket. -/
def Bracket.closing : Bracket → Token
  | .paren => .symbol .rightParen
  | .length => .symbol .semicolon
  | .index _ => .symbol .rightBracket

/-- An unfinished expression; `outer` holds the brackets around it, from the
inside out, each with its own place. -/
inductive ExprReader where
  /-- An operand has to come next. -/
  | operand (hole : Hole) (outer : List (Bracket × Hole))
  /-- The operand `value` is complete; an operator may come next. -/
  | operator (value : Expr) (pending : List Pending) (outer : List (Bracket × Hole))
  deriving DecidableEq, Repr

namespace ExprReader

/-- Before the first token. -/
def start : ExprReader := .operand .fresh []

/-- Fill the hole with a complete operand, which completes the unary operators
directly before it. -/
def fill (hole : Hole) (outer : List (Bracket × Hole)) (value : Expr) : ExprReader :=
  .operator (hole.unary.foldl (fun operand op => .unary op operand) value) hole.pending outer

/-- Go on behind the end of `bracket`, which holds `value`. -/
def closeBracket (bracket : Bracket) (hole : Hole) (outer : List (Bracket × Hole))
    (value : Expr) : ExprReader :=
  match bracket with
  | .paren => fill hole outer value
  | .length => .operand .fresh ((.index value, hole) :: outer)
  | .index length => fill hole outer (.oneHot length value)

/-- Take up one token, if it can go on the expression here. -/
def read : ExprReader → Token → Option ExprReader
  | .operand hole outer, token =>
      match token with
      | .int value => some (fill hole outer (.int value))
      | .bool value => some (fill hole outer (.bool value))
      | .name name => some (fill hole outer (.var name))
      | .symbol .leftParen => some (.operand .fresh ((.paren, hole) :: outer))
      | .symbol .leftBracket => some (.operand .fresh ((.length, hole) :: outer))
      | token =>
          match UnaryOp.ofToken? token with
          | some op => some (.operand { hole with unary := op :: hole.unary } outer)
          | none => none
  | .operator value pending outer, token =>
      match BinaryOp.ofToken? token with
      | some op =>
          let (left, pending) := Pending.closeFrom op.binding value pending
          some (.operand ⟨[], ⟨op, left⟩ :: pending⟩ outer)
      | none =>
          match outer with
          | [] => none
          | (bracket, hole) :: outer =>
              if token = bracket.closing then
                some (closeBracket bracket hole outer (Pending.closeAll value pending))
              else none

/-- The expression, if it may end here, and else what has to come next. -/
def finish : ExprReader → Except Wanted Expr
  | .operand _ _ => .error .phrase
  | .operator value pending outer =>
      match outer with
      | [] => .ok (Pending.closeAll value pending)
      | (bracket, _) :: _ => .error (.token bracket.closing)

/-- End the expression at `position`. -/
def stop (reader : ExprReader) (position : Nat) : Except (Wanted × Nat) (Expr × Nat) :=
  match reader.finish with
  | .ok value => .ok (value, position)
  | .error wanted => .error (wanted, position)

/-- Take up tokens as long as they go on the expression. `position` counts the
tokens taken up; it comes back with the expression, or with what was wanted. -/
def run (reader : ExprReader) (position : Nat) : List Token → Except (Wanted × Nat) (Expr × Nat)
  | [] => reader.stop position
  | token :: rest =>
      match reader.read token with
      | some next => run next (position + 1) rest
      | none => reader.stop position

end ExprReader

namespace Expr

/-- Read the longest expression at the front of a token list; it comes with the
number of its tokens. -/
def ofTokens (tokens : List Located) : Except SyntaxError (Expr × Nat) :=
  match ExprReader.start.run 0 (tokens.map (·.token)) with
  | .ok result => .ok result
  | .error (wanted, position) => .error (.ofPosition tokens wanted position)

end Expr

end VectorLang
