import VectorLang.Reader.Program

/-!
# The grammar

Which token lists spell which trees, independently of any reading:

* `Prog ::= Seq`, `Seq ::= Stmt (';' Stmt)* ';'?` and `Block ::= '{' Seq '}'`;
* `Exp`, `And`, `Eq`, `Add` and `Mul`, each a chain of operands of the next one,
  which associates to the left;
* `Atom`, which the unary operators, the parentheses and the vectors belong to.

The levels of expressions are numbered as the operators bind: a chain of `op` has the
level `op.binding`, and its operands have the next one.
-/

namespace VectorLang

/-! ## Operators -/

/-- The token of a unary operator. -/
def UnaryOp.token : UnaryOp → Token
  | .negate => .symbol .minus
  | .not => .symbol .bang
  | .first => .keyword .first
  | .second => .keyword .second

/-- The token of a binary operator. -/
def BinaryOp.token : BinaryOp → Token
  | .mul => .symbol .star
  | .add => .symbol .plus
  | .equal => .symbol .equals
  | .and => .symbol .bothAnd
  | .pair => .symbol .comma

theorem BinaryOp.ofToken?_eq_some_iff {token : Token} {op : BinaryOp} :
    ofToken? token = some op ↔ token = op.token := by
  constructor
  · intro known
    unfold ofToken? at known
    split at known <;> cases known <;> rfl
  · intro spelled
    subst spelled
    cases op <;> rfl

/-! ## Expressions -/

namespace Expr

/-- The level of operands that no binary operator splits. -/
def atomLevel : Nat := 6

/-- The tokens spell the expression at the level. -/
inductive Spelled : Nat → List Token → Expr → Prop where
  | int (value : Int32) : Spelled atomLevel [.int value] (.int value)
  | bool (value : Bool) : Spelled atomLevel [.bool value] (.bool value)
  | var (name : Name) : Spelled atomLevel [.name name] (.var name)
  | unary (op : UnaryOp) {tokens : List Token} {operand : Expr} :
      Spelled atomLevel tokens operand →
      Spelled atomLevel (op.token :: tokens) (.unary op operand)
  /-- Parentheses leave no node. -/
  | paren {tokens : List Token} {expr : Expr} :
      Spelled 1 tokens expr →
      Spelled atomLevel (.symbol .leftParen :: tokens ++ [.symbol .rightParen]) expr
  /-- The length comes first, then the index. -/
  | oneHot {lengthTokens indexTokens : List Token} {length index : Expr} :
      Spelled 1 lengthTokens length → Spelled 1 indexTokens index →
      Spelled atomLevel
        (.symbol .leftBracket :: lengthTokens ++
          .symbol .semicolon :: indexTokens ++ [.symbol .rightBracket])
        (.oneHot length index)
  /-- A chain of one operand. -/
  | operand (op : BinaryOp) {tokens : List Token} {expr : Expr} :
      Spelled (op.binding + 1) tokens expr → Spelled op.binding tokens expr
  /-- A chain and one more operand. -/
  | binary (op : BinaryOp) {leftTokens rightTokens : List Token} {left right : Expr} :
      Spelled op.binding leftTokens left → Spelled (op.binding + 1) rightTokens right →
      Spelled op.binding (leftTokens ++ op.token :: rightTokens) (.binary op left right)

end Expr

namespace BinaryOp

theorem one_le_binding (op : BinaryOp) : 1 ≤ op.binding := by
  cases op <;> decide

theorem binding_lt_atomLevel (op : BinaryOp) : op.binding < Expr.atomLevel := by
  cases op <;> decide

/-- Every level but the last one belongs to an operator. -/
theorem exists_binding_eq {level : Nat} (positive : 1 ≤ level) (lower : level < Expr.atomLevel) :
    ∃ op : BinaryOp, op.binding = level := by
  have numbered : level = 1 ∨ level = 2 ∨ level = 3 ∨ level = 4 ∨ level = 5 := by
    simp only [Expr.atomLevel] at lower
    omega
  rcases numbered with rfl | rfl | rfl | rfl | rfl
  · exact ⟨.pair, rfl⟩
  · exact ⟨.and, rfl⟩
  · exact ⟨.equal, rfl⟩
  · exact ⟨.add, rfl⟩
  · exact ⟨.mul, rfl⟩

end BinaryOp

namespace Expr.Spelled

variable {tokens : List Token} {expr : Expr} {level : Nat}

theorem level_le (spelled : Spelled level tokens expr) : level ≤ atomLevel := by
  cases spelled with
  | int | bool | var | unary | paren | oneHot => exact Nat.le_refl _
  | operand op | binary op => exact Nat.le_of_lt op.binding_lt_atomLevel

/-- What stands at a level stands at all lower ones. -/
theorem lower (spelled : Spelled level tokens expr) {least : Nat} (positive : 1 ≤ least)
    (le : least ≤ level) : Spelled least tokens expr := by
  induction le with
  | refl => exact spelled
  | @step level le ih =>
      rcases BinaryOp.exists_binding_eq (Nat.le_trans positive le) spelled.level_le with
        ⟨op, rfl⟩
      exact ih (.operand op spelled)

end Expr.Spelled

/-! ## Statements -/

/-- A block is put in braces. -/
def Token.braced (tokens : List Token) : List Token :=
  .symbol .leftBrace :: tokens ++ [.symbol .rightBrace]

namespace Stmt

mutual

/-- The tokens spell the statement. -/
inductive Spelled : List Token → Stmt → Prop where
  | declare (name : Name) {tokens : List Token} {value : Expr} :
      value.Spelled 1 tokens →
      Spelled (.keyword .declare :: .name name :: .symbol .assign :: tokens)
        (.declare name value)
  | assign (name : Name) {tokens : List Token} {value : Expr} :
      value.Spelled 1 tokens →
      Spelled (.name name :: .symbol .assign :: tokens) (.assign name value)
  | print {tokens : List Token} {value : Expr} :
      value.Spelled 1 tokens → Spelled (.keyword .print :: tokens) (.print value)
  | ifThen {conditionTokens bodyTokens : List Token} {condition : Expr} {body : Block} :
      condition.Spelled 1 conditionTokens → SpelledSeq bodyTokens body →
      Spelled
        (.keyword .branch :: .symbol .leftParen :: conditionTokens ++
          .symbol .rightParen :: Token.braced bodyTokens)
        (.ifThen condition body)
  | ifElse {conditionTokens bodyTokens elseTokens : List Token} {condition : Expr}
      {body alternative : Block} :
      condition.Spelled 1 conditionTokens → SpelledSeq bodyTokens body →
      SpelledSeq elseTokens alternative →
      Spelled
        (.keyword .branch :: .symbol .leftParen :: conditionTokens ++
          .symbol .rightParen :: Token.braced bodyTokens ++
          .keyword .otherwise :: Token.braced elseTokens)
        (.ifElse condition body alternative)
  | forEach (name : Name) {elementsTokens bodyTokens : List Token} {elements : Expr}
      {body : Block} :
      elements.Spelled 1 elementsTokens → SpelledSeq bodyTokens body →
      Spelled
        (.keyword .each :: .name name :: .keyword .within :: elementsTokens ++
          Token.braced bodyTokens)
        (.forEach name elements body)

/-- The tokens spell the sequence, which is not empty. -/
inductive SpelledSeq : List Token → List Stmt → Prop where
  | last {tokens : List Token} {stmt : Stmt} :
      Spelled tokens stmt → SpelledSeq tokens [stmt]
  /-- The last statement may be followed by a semicolon. -/
  | lastEnded {tokens : List Token} {stmt : Stmt} :
      Spelled tokens stmt → SpelledSeq (tokens ++ [.symbol .semicolon]) [stmt]
  | cons {tokens restTokens : List Token} {stmt : Stmt} {rest : List Stmt} :
      Spelled tokens stmt → SpelledSeq restTokens rest →
      SpelledSeq (tokens ++ .symbol .semicolon :: restTokens) (stmt :: rest)

end

end Stmt

/-- The tokens spell the program, to their end. -/
def Program.Spelled (tokens : List Token) (program : Program) : Prop :=
  Stmt.SpelledSeq tokens program

end VectorLang
