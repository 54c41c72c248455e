import VectorLang.Proofs.DescentProgress

/-!
# More calls

The number of calls that a procedure of the descent may make is a bound and nothing else: a
procedure that does not run out of calls ends in the same way with more of them.
-/

namespace VectorLang.Descent

variable {α β : Type} {tokens : List Token}

/-! ## Procedures with more calls -/

/-- Where the first procedure does not run out of calls, the second one ends in the same way. -/
def Extends (less more : Procedure α) : Prop :=
  ∀ cursor, less cursor = .error .exhausted ∨ less cursor = more cursor

theorem Extends.refl (procedure : Procedure α) : Extends procedure procedure :=
  fun _ => .inr rfl

theorem Extends.trans {less more most : Procedure α} (first : Extends less more)
    (second : Extends more most) : Extends less most := by
  intro cursor
  rcases first cursor with exhausted | same
  · exact .inl exhausted
  · rw [same]
    exact second cursor

theorem extends_exhausted (more : Procedure α) : Extends (throw .exhausted) more :=
  fun _ => .inl rfl

theorem Extends.bind {less more : Procedure α} {next next' : α → Procedure β}
    (first : Extends less more) (second : ∀ value, Extends (next value) (next' value)) :
    Extends (less >>= next) (more >>= next') := by
  intro cursor
  rw [bind_apply, bind_apply]
  rcases first cursor with exhausted | same
  · rw [exhausted]
    exact .inl rfl
  · rw [same]
    cases more cursor with
    | ok result => exact second result.1 result.2
    | error failure => exact .inr rfl

/-- What is done before the first procedure that gets calls does not depend on them. -/
theorem Extends.after {next next' : α → Procedure β} (first : Procedure α)
    (second : ∀ value, Extends (next value) (next' value)) :
    Extends (first >>= next) (first >>= next') :=
  (Extends.refl first).bind second

theorem extends_operands (operator : Token) (op : BinaryOp) {operand operand' : Procedure Expr}
    (grows : Extends operand operand') {rounds rounds' : Nat} (le : rounds ≤ rounds')
    (left : Expr) :
    Extends (operands tokens operator op operand rounds left)
      (operands tokens operator op operand' rounds' left) := by
  induction rounds generalizing rounds' left with
  | zero => exact extends_exhausted _
  | succ rounds ih =>
      obtain ⟨rounds', rfl⟩ := Nat.exists_eq_add_of_lt le
      refine .after _ fun stands => ?_
      cases stands with
      | true => exact .after _ fun _ => grows.bind fun right => ih (by omega) _
      | false => exact .refl _

theorem extends_leftAssoc (operator : Token) (op : BinaryOp) {operand operand' : Procedure Expr}
    (grows : Extends operand operand') (rounds : Nat) :
    Extends (leftAssoc tokens operator op operand rounds)
      (leftAssoc tokens operator op operand' (rounds + 1)) :=
  grows.bind fun left => extends_operands operator op grows (Nat.le_succ rounds) left

theorem extends_furtherStmts {stmt stmt' : Procedure Stmt} (grows : Extends stmt stmt')
    {rounds rounds' : Nat} (le : rounds ≤ rounds') (before : List Stmt) :
    Extends (furtherStmts tokens stmt rounds before)
      (furtherStmts tokens stmt' rounds' before) := by
  induction rounds generalizing rounds' before with
  | zero => exact extends_exhausted _
  | succ rounds ih =>
      obtain ⟨rounds', rfl⟩ := Nat.exists_eq_add_of_lt le
      refine .after _ fun stands => ?_
      cases stands with
      | true =>
          refine .after _ fun _ => .after _ fun found => ?_
          split
          · exact .refl _
          · exact .refl _
          · exact grows.bind fun next => ih (by omega) _
      | false => exact .refl _

/-! ## One call more -/

/-- With one call more the procedure ends in the same way, if it does not run out of calls. -/
def Grows (procedure : Nat → Procedure α) (calls : Nat) : Prop :=
  Extends (procedure calls) (procedure (calls + 1))

/-- What more calls do for the procedures of expressions. -/
structure ExprGrows (tokens : List Token) (calls : Nat) : Prop where
  expr : Grows (expr tokens) calls
  conjunction : Grows (conjunction tokens) calls
  equality : Grows (equality tokens) calls
  sum : Grows (sum tokens) calls
  product : Grows (product tokens) calls
  atom : Grows (atom tokens) calls
  unary : ∀ op, Grows (unary tokens op) calls
  paren : Grows (paren tokens) calls
  vector : Grows (vector tokens) calls

namespace ExprGrows

variable {calls : Nat}

theorem atom_succ (grows : ExprGrows tokens calls) : Grows (Descent.atom tokens) (calls + 1) := by
  refine .after _ fun found => ?_
  cases found with
  | none => exact .refl _
  | some token =>
      cases token with
      | int | bool | name => exact .refl _
      | keyword word =>
          cases word with
          | first => exact grows.unary .first
          | second => exact grows.unary .second
          | print | declare | branch | otherwise | each | within => exact .refl _
      | symbol mark =>
          cases mark with
          | minus => exact grows.unary .negate
          | bang => exact grows.unary .not
          | leftParen => exact grows.paren
          | leftBracket => exact grows.vector
          | assign | plus | star | bothAnd | equals | semicolon | comma | rightParen | leftBrace
          | rightBrace | rightBracket => exact .refl _

theorem unary_succ (grows : ExprGrows tokens calls) (op : UnaryOp) :
    Grows (Descent.unary tokens op) (calls + 1) :=
  .after _ fun _ => grows.atom.bind fun _ => .refl _

theorem paren_succ (grows : ExprGrows tokens calls) :
    Grows (Descent.paren tokens) (calls + 1) :=
  .after _ fun _ => grows.expr.bind fun _ => .refl _

theorem vector_succ (grows : ExprGrows tokens calls) :
    Grows (Descent.vector tokens) (calls + 1) :=
  .after _ fun _ => grows.expr.bind fun _ => .after _ fun _ => grows.expr.bind fun _ => .refl _

end ExprGrows

theorem exprGrows (tokens : List Token) (calls : Nat) : ExprGrows tokens calls := by
  induction calls with
  | zero =>
      constructor
      all_goals intros
      all_goals exact extends_exhausted _
  | succ calls ih =>
      exact {
        expr := extends_leftAssoc _ _ ih.conjunction calls
        conjunction := extends_leftAssoc _ _ ih.equality calls
        equality := extends_leftAssoc _ _ ih.sum calls
        sum := extends_leftAssoc _ _ ih.product calls
        product := extends_leftAssoc _ _ ih.atom calls
        atom := ih.atom_succ
        unary := ih.unary_succ
        paren := ih.paren_succ
        vector := ih.vector_succ }

/-- What more calls do for the procedures of statements. -/
structure StmtGrows (tokens : List Token) (calls : Nat) : Prop where
  stmtSeq : Grows (stmtSeq tokens) calls
  stmt : Grows (stmt tokens) calls
  branch : Grows (branch tokens) calls
  forEach : Grows (forEach tokens) calls
  block : Grows (block tokens) calls

namespace StmtGrows

variable {calls : Nat}

theorem stmtSeq_succ (grows : StmtGrows tokens calls) :
    Grows (Descent.stmtSeq tokens) (calls + 1) :=
  grows.stmt.bind fun first => extends_furtherStmts grows.stmt (Nat.le_succ calls) [first]

theorem stmt_succ (grows : StmtGrows tokens calls) : Grows (Descent.stmt tokens) (calls + 1) := by
  have value {build : Expr → Stmt} :
      Extends (expr tokens calls >>= fun value => pure (build value))
        (expr tokens (calls + 1) >>= fun value => pure (build value)) :=
    (exprGrows tokens calls).expr.bind fun _ => .refl _
  refine .after _ fun found => ?_
  split
  · exact .after _ fun _ => value
  · exact .after _ fun _ => .after _ fun _ => .after _ fun _ => value
  · exact .after _ fun _ => .after _ fun _ => value
  · exact grows.branch
  · exact grows.forEach
  · exact .refl _

theorem branch_succ (grows : StmtGrows tokens calls) :
    Grows (Descent.branch tokens) (calls + 1) := by
  refine .after _ fun _ => (exprGrows tokens calls).paren.bind fun condition => ?_
  refine grows.block.bind fun body => .after _ fun alternative => ?_
  cases alternative with
  | true => exact .after _ fun _ => grows.block.bind fun _ => .refl _
  | false => exact .refl _

theorem forEach_succ (grows : StmtGrows tokens calls) :
    Grows (Descent.forEach tokens) (calls + 1) := by
  refine .after _ fun _ => .after _ fun element => .after _ fun _ => ?_
  exact (exprGrows tokens calls).expr.bind fun elements => grows.block.bind fun _ => .refl _

theorem block_succ (grows : StmtGrows tokens calls) : Grows (Descent.block tokens) (calls + 1) :=
  .after _ fun _ => grows.stmtSeq.bind fun _ => .refl _

end StmtGrows

theorem stmtGrows (tokens : List Token) (calls : Nat) : StmtGrows tokens calls := by
  induction calls with
  | zero =>
      constructor
      all_goals exact extends_exhausted _
  | succ calls ih =>
      exact {
        stmtSeq := ih.stmtSeq_succ
        stmt := ih.stmt_succ
        branch := ih.branch_succ
        forEach := ih.forEach_succ
        block := ih.block_succ }

/-- With more calls the procedure ends in the same way, if it does not run out of calls. -/
theorem Grows.extends {procedure : Nat → Procedure α} (grows : ∀ calls, Grows procedure calls)
    {calls more : Nat} (le : calls ≤ more) : Extends (procedure calls) (procedure more) := by
  induction le with
  | refl => exact .refl _
  | step _ ih => exact ih.trans (grows _)

/-! ## Calls for the tokens that are left -/

/-- Calls that are enough for any procedure with so many tokens left. -/
def callsFor (left : Nat) : Nat := 8 * (left + 1)

/-- From the cursor the procedure moves on and ends. The calls that it needs depend on the
number of tokens left alone, and more of them change nothing. -/
def Settles (tokens : List Token) (procedure : Nat → Procedure α) (cursor : Nat) : Prop :=
  ∀ calls, callsFor (tokens.length - cursor) ≤ calls →
    Moves tokens 1 (procedure calls) cursor ∧
      procedure calls cursor = procedure (callsFor (tokens.length - cursor)) cursor

theorem settles_of_moves {procedure : Nat → Procedure α} {cursor : Nat}
    (moves : ∀ calls, callsFor (tokens.length - cursor) ≤ calls →
      Moves tokens 1 (procedure calls) cursor)
    (grows : ∀ calls, Grows procedure calls) : Settles tokens procedure cursor := by
  intro calls enough
  refine ⟨moves calls enough, ?_⟩
  rcases Grows.extends grows enough cursor with exhausted | same
  · have within := moves _ (Nat.le_refl _)
    rw [Moves, exhausted] at within
    exact within.elim
  · exact same.symm

theorem settles_of_progresses {procedure : Nat → Procedure α} {cursor slack : Nat}
    (inside : cursor ≤ tokens.length)
    (progresses : ∀ calls, Progresses tokens slack procedure calls) (small : slack ≤ 8)
    (grows : ∀ calls, Grows procedure calls) : Settles tokens procedure cursor := by
  refine settles_of_moves (fun calls enough => progresses calls cursor inside ?_) grows
  rw [callsFor] at enough
  omega

/-- A chain of operands that move settles; its rounds are bounded by the tokens left. -/
theorem settles_leftAssoc (operator : Token) (op : BinaryOp) {operand : Procedure Expr}
    {cursor : Nat} (inside : cursor ≤ tokens.length)
    (moves : ∀ after, cursor ≤ after → after ≤ tokens.length → Moves tokens 1 operand after) :
    Settles tokens (leftAssoc tokens operator op operand) cursor := by
  refine settles_of_moves (fun rounds enough => ?_)
    fun rounds => extends_leftAssoc operator op (.refl operand) rounds
  rw [callsFor] at enough
  exact moves_leftAssoc operator op inside (by omega) moves

end VectorLang.Descent
