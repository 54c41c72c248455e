import VectorLang.Name

/-!
# Program trees

Expressions, statements and programs. Integer literals are 32-bit words; a block
is a list of statements, and so is a program. Trees may be built directly, and
then hold what no source text yields: empty blocks, negative literals, any text
as a name.
-/

namespace VectorLang

/-- Operators with one operand. -/
inductive UnaryOp where
  | negate
  | not
  | first
  | second
  deriving DecidableEq, Repr

/-- Operators with two operands. -/
inductive BinaryOp where
  | mul
  | add
  | equal
  | and
  | pair
  deriving DecidableEq, Repr

/-- Expressions. -/
inductive Expr where
  | int (value : Int32)
  | bool (value : Bool)
  | var (name : Name)
  | unary (op : UnaryOp) (operand : Expr)
  | binary (op : BinaryOp) (left right : Expr)
  /-- The vector of `length` elements that are all zero but the one at `index`,
  which is one. -/
  | oneHot (length index : Expr)
  deriving DecidableEq, Repr

/-- Statements. -/
inductive Stmt where
  | declare (name : Name) (value : Expr)
  | assign (name : Name) (value : Expr)
  | print (value : Expr)
  | ifThen (condition : Expr) (body : List Stmt)
  | ifElse (condition : Expr) (body alternative : List Stmt)
  | forEach (name : Name) (elements : Expr) (body : List Stmt)
  deriving Repr

/-- The statements between two braces. -/
abbrev Block := List Stmt

/-- A whole program. -/
abbrev Program := List Stmt

namespace BinaryOp

/-- How tightly an operator binds its operands; all operators associate to the
left. -/
def binding : BinaryOp → Nat
  | .pair => 1
  | .and => 2
  | .equal => 3
  | .add => 4
  | .mul => 5

end BinaryOp

end VectorLang
