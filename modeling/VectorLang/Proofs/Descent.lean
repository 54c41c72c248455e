import VectorLang.Proofs.Grammar

/-!
# Recursive descent

The grammar as procedures that call each other, one for each of its rules, with a cursor into
the token list. A procedure leaves the cursor behind what it read. What it gives up at is
the token at the cursor, or the end of the list.

The calls go round: an expression may stand in parentheses in an expression, and a block in a
statement in a block. So a procedure gets a number of nested calls that it may make, which
also bounds the rounds of each loop. Whether that number suffices is told from the failures
for which the tokens are to blame.
-/

namespace VectorLang.Descent

/-- Why a procedure gives up. -/
inductive Failure where
  /-- Something else was wanted at the cursor. -/
  | refused (wanted : Wanted) (cursor : Nat)
  /-- There were not enough calls. -/
  | exhausted
  deriving DecidableEq, Repr

/-- A procedure of the descent, which moves a cursor. -/
abbrev Procedure := StateT Nat (Except Failure)

section Procedures

variable (tokens : List Token)

/-! ## The cursor -/

/-- The token at the cursor, if any is left. -/
def peek : Procedure (Option Token) := do
  return tokens[← get]?

/-- Whether the token stands at the cursor. -/
def standsAt (token : Token) : Procedure Bool := do
  return (← peek tokens) == some token

/-- Move behind the token at the cursor, if any is left. -/
def advance : Procedure Unit := do
  if (← peek tokens).isSome then modify (· + 1)

/-- Give up at the cursor. -/
def refuse {α : Type} (wanted : Wanted) : Procedure α := do
  throw (.refused wanted (← get))

/-- Move behind the token, which has to stand at the cursor. -/
def consume (token : Token) : Procedure Unit := do
  if ← standsAt tokens token then modify (· + 1) else refuse (.token token)

/-- Move behind the name, which has to stand at the cursor. -/
def name : Procedure Name := do
  match ← peek tokens with
  | some (.name text) =>
      modify (· + 1)
      return text
  | _ => refuse .name

/-! ## Expressions -/

/-- Take up operators and operands behind a complete operand. -/
def operands (operator : Token) (op : BinaryOp) (operand : Procedure Expr) :
    Nat → Expr → Procedure Expr
  | 0, _ => throw .exhausted
  | rounds + 1, left => do
      if ← standsAt tokens operator then
        advance tokens
        let right ← operand
        operands operator op operand rounds (.binary op left right)
      else return left

/-- A chain of operands, which associates to the left. -/
def leftAssoc (operator : Token) (op : BinaryOp) (operand : Procedure Expr) (rounds : Nat) :
    Procedure Expr := do
  let left ← operand
  operands tokens operator op operand rounds left

mutual

/-- The rule `Exp ::= And (',' And)*`. -/
def expr : Nat → Procedure Expr
  | 0 => throw .exhausted
  | calls + 1 => leftAssoc tokens (.symbol .comma) .pair (conjunction calls) calls

/-- The rule `And ::= Eq ('&&' Eq)*`. -/
def conjunction : Nat → Procedure Expr
  | 0 => throw .exhausted
  | calls + 1 => leftAssoc tokens (.symbol .bothAnd) .and (equality calls) calls

/-- The rule `Eq ::= Add ('==' Add)*`. -/
def equality : Nat → Procedure Expr
  | 0 => throw .exhausted
  | calls + 1 => leftAssoc tokens (.symbol .equals) .equal (sum calls) calls

/-- The rule `Add ::= Mul ('+' Mul)*`. -/
def sum : Nat → Procedure Expr
  | 0 => throw .exhausted
  | calls + 1 => leftAssoc tokens (.symbol .plus) .add (product calls) calls

/-- The rule `Mul ::= Atom ('*' Atom)*`. -/
def product : Nat → Procedure Expr
  | 0 => throw .exhausted
  | calls + 1 => leftAssoc tokens (.symbol .star) .mul (atom calls) calls

/-- An operand that no binary operator splits. -/
def atom : Nat → Procedure Expr
  | 0 => throw .exhausted
  | calls + 1 => do
      match ← peek tokens with
      | some (.int value) =>
          advance tokens
          return .int value
      | some (.bool value) =>
          advance tokens
          return .bool value
      | some (.name _) => return .var (← name tokens)
      | some (.symbol .minus) => unary .negate calls
      | some (.symbol .bang) => unary .not calls
      | some (.keyword .first) => unary .first calls
      | some (.keyword .second) => unary .second calls
      | some (.symbol .leftParen) => paren calls
      | some (.symbol .leftBracket) => vector calls
      | _ => refuse .phrase

/-- An operator, which is told from the token at the cursor already, and its operand. -/
def unary (op : UnaryOp) : Nat → Procedure Expr
  | 0 => throw .exhausted
  | calls + 1 => do
      advance tokens
      return .unary op (← atom calls)

/-- The rule `'(' Exp ')'`. -/
def paren : Nat → Procedure Expr
  | 0 => throw .exhausted
  | calls + 1 => do
      consume tokens (.symbol .leftParen)
      let value ← expr calls
      consume tokens (.symbol .rightParen)
      return value

/-- The rule `'[' Exp ';' Exp ']'`: the length first, then the index. -/
def vector : Nat → Procedure Expr
  | 0 => throw .exhausted
  | calls + 1 => do
      consume tokens (.symbol .leftBracket)
      let length ← expr calls
      consume tokens (.symbol .semicolon)
      let index ← expr calls
      consume tokens (.symbol .rightBracket)
      return .oneHot length index

end

/-! ## Statements -/

/-- Take up semicolons and statements behind the complete statements `before`. A semicolon at
the end of the list or at a closing brace ends the sequence. -/
def furtherStmts (stmt : Procedure Stmt) : Nat → List Stmt → Procedure (List Stmt)
  | 0, _ => throw .exhausted
  | rounds + 1, before => do
      if ← standsAt tokens (.symbol .semicolon) then
        advance tokens
        match ← peek tokens with
        | none => return before
        | some (.symbol .rightBrace) => return before
        | some _ =>
            let next ← stmt
            furtherStmts stmt rounds (before ++ [next])
      else return before

mutual

/-- The rule `Seq ::= Stmt (';' Stmt)* ';'?`. -/
def stmtSeq : Nat → Procedure (List Stmt)
  | 0 => throw .exhausted
  | calls + 1 => do
      let first ← stmt calls
      furtherStmts tokens (stmt calls) calls [first]

/-- A statement, whose kind is told from its first token. -/
def stmt : Nat → Procedure Stmt
  | 0 => throw .exhausted
  | calls + 1 => do
      match ← peek tokens with
      | some (.keyword .print) =>
          advance tokens
          return .print (← expr tokens calls)
      | some (.keyword .declare) =>
          advance tokens
          let target ← name tokens
          consume tokens (.symbol .assign)
          return .declare target (← expr tokens calls)
      | some (.name _) =>
          let target ← name tokens
          consume tokens (.symbol .assign)
          return .assign target (← expr tokens calls)
      | some (.keyword .branch) => branch calls
      | some (.keyword .each) => forEach calls
      | _ => refuse .phrase

/-- The rule `'if' '(' Exp ')' Block ('else' Block)?`. -/
def branch : Nat → Procedure Stmt
  | 0 => throw .exhausted
  | calls + 1 => do
      consume tokens (.keyword .branch)
      let condition ← paren tokens calls
      let body ← block calls
      if ← standsAt tokens (.keyword .otherwise) then
        advance tokens
        return .ifElse condition body (← block calls)
      else return .ifThen condition body

/-- The rule `'foreach' Name 'in' Exp Block`. -/
def forEach : Nat → Procedure Stmt
  | 0 => throw .exhausted
  | calls + 1 => do
      consume tokens (.keyword .each)
      let element ← name tokens
      consume tokens (.keyword .within)
      let elements ← expr tokens calls
      return .forEach element elements (← block calls)

/-- The rule `Block ::= '{' Seq '}'`. -/
def block : Nat → Procedure Block
  | 0 => throw .exhausted
  | calls + 1 => do
      consume tokens (.symbol .leftBrace)
      let stmts ← stmtSeq calls
      consume tokens (.symbol .rightBrace)
      return stmts

end

/-- The rule `Prog ::= Seq`, up to the end of the list. -/
def program (calls : Nat) : Procedure Program := do
  let stmts ← stmtSeq tokens calls
  match ← peek tokens with
  | some _ => refuse .endOfInput
  | none => return stmts

end Procedures

/-! ## What becomes of the cursor -/

section Cursor

variable {α β : Type} {tokens : List Token} {cursor : Nat}

/-- The second procedure starts where the first one left the cursor. -/
theorem bind_apply (first : Procedure α) (next : α → Procedure β) (cursor : Nat) :
    (first >>= next) cursor = first cursor >>= fun result => next result.1 result.2 := rfl

theorem peek_bind (next : Option Token → Procedure β) :
    (peek tokens >>= next) cursor = next tokens[cursor]? cursor := rfl

theorem standsAt_bind (token : Token) (next : Bool → Procedure β) :
    (standsAt tokens token >>= next) cursor = next (tokens[cursor]? == some token) cursor := rfl

theorem advance_of_some {token : Token} (stands : tokens[cursor]? = some token) :
    advance tokens cursor = .ok ((), cursor + 1) := by
  unfold advance
  rw [peek_bind, stands]
  rfl

theorem advance_of_none (ended : tokens[cursor]? = none) :
    advance tokens cursor = .ok ((), cursor) := by
  unfold advance
  rw [peek_bind, ended]
  rfl

theorem consume_of_some {token : Token} (stands : tokens[cursor]? = some token) :
    consume tokens token cursor = .ok ((), cursor + 1) := by
  unfold consume
  rw [standsAt_bind, stands, beq_self_eq_true]
  rfl

theorem consume_of_ne {token : Token} (other : tokens[cursor]? ≠ some token) :
    consume tokens token cursor = .error (.refused (.token token) cursor) := by
  unfold consume
  rw [standsAt_bind, beq_false_of_ne other]
  rfl

theorem name_of_some {text : Name} (stands : tokens[cursor]? = some (.name text)) :
    name tokens cursor = .ok (text, cursor + 1) := by
  unfold name
  rw [peek_bind, stands]
  rfl

theorem name_of_ne (other : ∀ text, tokens[cursor]? ≠ some (.name text)) :
    name tokens cursor = .error (.refused .name cursor) := by
  unfold name
  rw [peek_bind]
  generalize tokens[cursor]? = found at other
  match found with
  | some (.name text) => exact absurd rfl (other text)
  | none | some (.keyword _) | some (.symbol _) | some (.bool _) | some (.int _) => rfl

end Cursor

end VectorLang.Descent
