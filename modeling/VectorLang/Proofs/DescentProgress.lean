import VectorLang.Proofs.Descent
import VectorLang.Proofs.Outcome

/-!
# The descent ends

Every procedure of the descent that succeeds has moved its cursor, so the calls that it makes
behind a token have fewer tokens left. Of the calls before the first token each goes one level
down in the grammar. A number of calls that depends on the tokens left alone is enough: eight
for each of them, and one for each level.
-/

namespace VectorLang.Descent

variable {α β : Type} {tokens : List Token} {cursor : Nat}

/-! ## Moving forward -/

/-- The failure is blamed on a token from the cursor on, or on the end of the list. -/
def Failure.Within (tokens : List Token) (cursor : Nat) : Failure → Prop
  | .refused _ stop => cursor ≤ stop ∧ stop ≤ tokens.length
  | .exhausted => False

/-- With a value the procedure has moved the cursor by `least` tokens or more, and within the
list. It does not run out of calls. -/
def Moves (tokens : List Token) (least : Nat) (procedure : Procedure α) (cursor : Nat) : Prop :=
  Computes (procedure cursor)
    (fun result => cursor + least ≤ result.2 ∧ result.2 ≤ tokens.length)
    (Failure.Within tokens cursor)

theorem Failure.Within.mono {failure : Failure} {before : Nat} (le : before ≤ cursor)
    (within : failure.Within tokens cursor) : failure.Within tokens before := by
  cases failure with
  | refused wanted stop => exact ⟨Nat.le_trans le within.1, within.2⟩
  | exhausted => exact within

theorem Moves.mono {procedure : Procedure α} {least less : Nat}
    (moves : Moves tokens least procedure cursor) (le : less ≤ least) :
    Moves tokens less procedure cursor :=
  Computes.mono moves (fun _ moved => ⟨by omega, moved.2⟩) fun _ within => within

/-- The rule for two procedures one after the other. -/
theorem Moves.bind {first : Procedure α} {next : α → Procedure β} {least most : Nat}
    (early : Moves tokens least first cursor)
    (late : ∀ value after, cursor + least ≤ after → after ≤ tokens.length →
      Moves tokens (most - least) (next value) after) :
    Moves tokens most (first >>= next) cursor := by
  refine Computes.bind early fun result ⟨moved, inside⟩ => ?_
  refine Computes.mono (late result.1 result.2 moved inside) ?_ ?_
  · intro result ⟨movedOn, inside⟩
    exact ⟨by omega, inside⟩
  · intro failure within
    exact within.mono (by omega)

theorem Moves.peek {next : Option Token → Procedure β} {most : Nat}
    (moves : Moves tokens most (next tokens[cursor]?) cursor) :
    Moves tokens most (Descent.peek tokens >>= next) cursor :=
  moves

/-- What a procedure does next may depend on the token at the cursor. -/
theorem Moves.standsAt {token : Token} {next : Bool → Procedure β} {most : Nat}
    (there : tokens[cursor]? = some token → Moves tokens most (next true) cursor)
    (other : tokens[cursor]? ≠ some token → Moves tokens most (next false) cursor) :
    Moves tokens most (Descent.standsAt tokens token >>= next) cursor := by
  rw [Moves, standsAt_bind]
  by_cases stands : tokens[cursor]? = some token
  · rw [beq_iff_eq.mpr stands]
    exact there stands
  · rw [beq_false_of_ne stands]
    exact other stands

theorem moves_pure (inside : cursor ≤ tokens.length) (value : α) :
    Moves tokens 0 (pure value) cursor :=
  ⟨Nat.le_refl _, inside⟩

theorem moves_refuse (inside : cursor ≤ tokens.length) (least : Nat) (wanted : Wanted) :
    Moves tokens least (refuse wanted : Procedure α) cursor :=
  ⟨Nat.le_refl _, inside⟩

theorem moves_advance {token : Token} (stands : tokens[cursor]? = some token) :
    Moves tokens 1 (advance tokens) cursor := by
  obtain ⟨left, -⟩ := List.getElem?_eq_some_iff.mp stands
  rw [Moves, advance_of_some stands]
  exact ⟨Nat.le_refl _, left⟩

theorem moves_consume (inside : cursor ≤ tokens.length) (token : Token) :
    Moves tokens 1 (consume tokens token) cursor := by
  by_cases stands : tokens[cursor]? = some token
  · obtain ⟨left, -⟩ := List.getElem?_eq_some_iff.mp stands
    rw [Moves, consume_of_some stands]
    exact ⟨Nat.le_refl _, left⟩
  · rw [Moves, consume_of_ne stands]
    exact ⟨Nat.le_refl _, inside⟩

theorem moves_name (inside : cursor ≤ tokens.length) : Moves tokens 1 (name tokens) cursor := by
  by_cases named : ∃ text, tokens[cursor]? = some (.name text)
  · obtain ⟨text, stands⟩ := named
    obtain ⟨left, -⟩ := List.getElem?_eq_some_iff.mp stands
    rw [Moves, name_of_some stands]
    exact ⟨Nat.le_refl _, left⟩
  · rw [Moves, name_of_ne (not_exists.mp named)]
    exact ⟨Nat.le_refl _, inside⟩

/-! ## Loops -/

/-- Each round of a chain takes up an operator and an operand. -/
theorem moves_operands (operator : Token) (op : BinaryOp) {operand : Procedure Expr}
    {rounds : Nat} {left : Expr} (inside : cursor ≤ tokens.length)
    (enough : tokens.length - cursor < rounds)
    (moves : ∀ after, cursor ≤ after → after ≤ tokens.length → Moves tokens 1 operand after) :
    Moves tokens 0 (operands tokens operator op operand rounds left) cursor := by
  induction rounds generalizing cursor left with
  | zero => omega
  | succ rounds ih =>
      refine .standsAt (fun stands => ?_) fun _ => moves_pure inside left
      refine (moves_advance stands).bind fun _ behind moved inside => ?_
      have right := moves behind (by omega) inside
      refine right.bind fun right after movedOn inside => ?_
      exact ih inside (by omega) fun last le => moves last (by omega)

theorem moves_leftAssoc (operator : Token) (op : BinaryOp) {operand : Procedure Expr}
    {rounds : Nat} (inside : cursor ≤ tokens.length) (enough : tokens.length - cursor ≤ rounds)
    (moves : ∀ after, cursor ≤ after → after ≤ tokens.length → Moves tokens 1 operand after) :
    Moves tokens 1 (leftAssoc tokens operator op operand rounds) cursor := by
  refine (moves cursor (Nat.le_refl _) inside).bind fun left after moved inside => ?_
  exact moves_operands operator op inside (by omega) fun last le => moves last (by omega)

/-- Each round of a sequence takes up a semicolon, and a statement if the sequence goes on. -/
theorem moves_furtherStmts {stmt : Procedure Stmt} {rounds : Nat} {before : List Stmt}
    (inside : cursor ≤ tokens.length) (enough : tokens.length - cursor < rounds)
    (moves : ∀ after, cursor ≤ after → after ≤ tokens.length → Moves tokens 1 stmt after) :
    Moves tokens 0 (furtherStmts tokens stmt rounds before) cursor := by
  induction rounds generalizing cursor before with
  | zero => omega
  | succ rounds ih =>
      refine .standsAt (fun stands => ?_) fun _ => moves_pure inside before
      refine (moves_advance stands).bind fun _ behind moved inside => .peek ?_
      split
      · exact moves_pure inside before
      · exact moves_pure inside before
      · have next := moves behind (by omega) inside
        refine next.bind fun next after movedOn inside => ?_
        exact ih inside (by omega) fun last le => moves last (by omega)

/-! ## Expressions -/

/-- From any cursor with so many tokens left that the calls suffice, the procedure moves. The
`slack` is for the calls before the first token. -/
def Progresses (tokens : List Token) (slack : Nat) (procedure : Nat → Procedure α)
    (calls : Nat) : Prop :=
  ∀ cursor ≤ tokens.length, 8 * (tokens.length - cursor) + slack ≤ calls →
    Moves tokens 1 (procedure calls) cursor

/-- What the procedures of expressions do with so many calls. The lower the level, the more
calls come before the first token. -/
structure ExprProgress (tokens : List Token) (calls : Nat) : Prop where
  expr : Progresses tokens 7 (expr tokens) calls
  conjunction : Progresses tokens 6 (conjunction tokens) calls
  equality : Progresses tokens 5 (equality tokens) calls
  sum : Progresses tokens 4 (sum tokens) calls
  product : Progresses tokens 3 (product tokens) calls
  atom : Progresses tokens 2 (atom tokens) calls
  paren : Progresses tokens 1 (paren tokens) calls
  vector : Progresses tokens 1 (vector tokens) calls
  /-- Only the tokens behind the operator count. -/
  unary : ∀ op, ∀ cursor ≤ tokens.length, 8 * (tokens.length - (cursor + 1)) + 3 ≤ calls →
    Moves tokens 1 (unary tokens op calls) cursor

/-- A chain gets by with one call more than its operands. -/
theorem progresses_leftAssoc {slack calls : Nat} {operand : Nat → Procedure Expr}
    (operator : Token) (op : BinaryOp) (progresses : Progresses tokens slack operand calls)
    {chain : Nat → Procedure Expr}
    (rule : chain (calls + 1) = leftAssoc tokens operator op (operand calls) calls) :
    Progresses tokens (slack + 1) chain (calls + 1) := by
  intro cursor inside enough
  rw [rule]
  refine moves_leftAssoc operator op inside (by omega) fun after le insideAfter => ?_
  exact progresses after insideAfter (by omega)

theorem ExprProgress.atom_succ {calls : Nat} (progress : ExprProgress tokens calls) :
    Progresses tokens 2 (Descent.atom tokens) (calls + 1) := by
  intro cursor inside enough
  have refused : Moves tokens 1 (refuse .phrase : Procedure Expr) cursor :=
    moves_refuse inside 1 .phrase
  refine .peek ?_
  cases stands : tokens[cursor]? with
  | none => exact refused
  | some token =>
      have literal (value : Expr) :
          Moves tokens 1 (advance tokens >>= fun _ => pure value) cursor :=
        (moves_advance stands).bind fun _ after _ inside => moves_pure inside value
      have unary (op : UnaryOp) : Moves tokens 1 (Descent.unary tokens op calls) cursor := by
        obtain ⟨left, -⟩ := List.getElem?_eq_some_iff.mp stands
        exact progress.unary op cursor inside (by omega)
      cases token with
      | int value => exact literal (.int value)
      | bool value => exact literal (.bool value)
      | name => exact (moves_name inside).bind fun text after _ inside => moves_pure inside _
      | keyword word =>
          cases word with
          | first => exact unary .first
          | second => exact unary .second
          | print | declare | branch | otherwise | each | within => exact refused
      | symbol mark =>
          cases mark with
          | minus => exact unary .negate
          | bang => exact unary .not
          | leftParen => exact progress.paren cursor inside (by omega)
          | leftBracket => exact progress.vector cursor inside (by omega)
          | assign | plus | star | bothAnd | equals | semicolon | comma | rightParen | leftBrace
          | rightBrace | rightBracket => exact refused

/-- At the end of the list the operand is looked for there. -/
theorem ExprProgress.unary_succ {calls : Nat} (progress : ExprProgress tokens calls)
    (op : UnaryOp) (inside : cursor ≤ tokens.length)
    (enough : 8 * (tokens.length - (cursor + 1)) + 3 ≤ calls + 1) :
    Moves tokens 1 (Descent.unary tokens op (calls + 1)) cursor := by
  have operand {after : Nat} (inside : after ≤ tokens.length)
      (enough : 8 * (tokens.length - after) + 2 ≤ calls) :
      Moves tokens 1 (Descent.atom tokens calls >>= fun operand => pure (Expr.unary op operand))
        after :=
    (progress.atom after inside enough).bind fun operand last _ inside => moves_pure inside _
  cases stands : tokens[cursor]? with
  | none =>
      have ended := List.getElem?_eq_none_iff.mp stands
      have stays : Moves tokens 0 (advance tokens) cursor := by
        rw [Moves, advance_of_none stands]
        exact ⟨Nat.le_refl _, inside⟩
      exact stays.bind fun _ after _ inside => operand inside (by omega)
  | some token =>
      refine (moves_advance stands).bind fun _ after moved inside => ?_
      exact (operand inside (by omega)).mono (Nat.zero_le 1)

theorem ExprProgress.paren_succ {calls : Nat} (progress : ExprProgress tokens calls) :
    Progresses tokens 1 (Descent.paren tokens) (calls + 1) := by
  intro cursor inside enough
  refine (moves_consume inside _).bind fun _ opened moved inside => ?_
  have value := progress.expr opened inside (by omega)
  refine value.bind fun value closing _ inside => ?_
  refine (moves_consume inside _).bind fun _ after _ inside => ?_
  exact moves_pure inside value

theorem ExprProgress.vector_succ {calls : Nat} (progress : ExprProgress tokens calls) :
    Progresses tokens 1 (Descent.vector tokens) (calls + 1) := by
  intro cursor inside enough
  refine (moves_consume inside _).bind fun _ opened moved inside => ?_
  have length := progress.expr opened inside (by omega)
  refine length.bind fun length middle movedOn inside => ?_
  refine (moves_consume inside _).bind fun _ second movedOver inside => ?_
  have index := progress.expr second inside (by omega)
  refine index.bind fun index closing _ inside => ?_
  refine (moves_consume inside _).bind fun _ after _ inside => ?_
  exact moves_pure inside _

theorem progresses_zero {slack : Nat} (positive : 0 < slack) (procedure : Nat → Procedure α) :
    Progresses tokens slack procedure 0 := by
  intro cursor inside enough
  omega

theorem exprProgress (tokens : List Token) (calls : Nat) : ExprProgress tokens calls := by
  induction calls with
  | zero =>
      exact {
        expr := progresses_zero (by decide) _
        conjunction := progresses_zero (by decide) _
        equality := progresses_zero (by decide) _
        sum := progresses_zero (by decide) _
        product := progresses_zero (by decide) _
        atom := progresses_zero (by decide) _
        paren := progresses_zero (by decide) _
        vector := progresses_zero (by decide) _
        unary := fun op cursor inside enough => by omega }
  | succ calls ih =>
      exact {
        expr := progresses_leftAssoc _ _ ih.conjunction rfl
        conjunction := progresses_leftAssoc _ _ ih.equality rfl
        equality := progresses_leftAssoc _ _ ih.sum rfl
        sum := progresses_leftAssoc _ _ ih.product rfl
        product := progresses_leftAssoc _ _ ih.atom rfl
        atom := ih.atom_succ
        paren := ih.paren_succ
        vector := ih.vector_succ
        unary := fun op cursor inside enough => ih.unary_succ op inside enough }

/-! ## Statements -/

/-- What the procedures of statements do with so many calls. -/
structure StmtProgress (tokens : List Token) (calls : Nat) : Prop where
  stmtSeq : Progresses tokens 4 (stmtSeq tokens) calls
  stmt : Progresses tokens 3 (stmt tokens) calls
  branch : Progresses tokens 2 (branch tokens) calls
  forEach : Progresses tokens 2 (forEach tokens) calls
  block : Progresses tokens 1 (block tokens) calls

namespace StmtProgress

variable {calls : Nat}

theorem stmtSeq_succ (progress : StmtProgress tokens calls) :
    Progresses tokens 4 (Descent.stmtSeq tokens) (calls + 1) := by
  intro cursor inside enough
  refine (progress.stmt cursor inside (by omega)).bind fun first behind moved inside => ?_
  refine moves_furtherStmts inside (by omega) fun after le inside => ?_
  exact progress.stmt after inside (by omega)

theorem stmt_succ (progress : StmtProgress tokens calls) :
    Progresses tokens 3 (Descent.stmt tokens) (calls + 1) := by
  intro cursor inside enough
  have exprs := (exprProgress tokens calls).expr
  refine .peek ?_
  split
  · next stands =>
      refine (moves_advance stands).bind fun _ behind moved inside => ?_
      refine (exprs behind inside (by omega)).bind fun value after _ inside => ?_
      exact moves_pure inside _
  · next stands =>
      refine (moves_advance stands).bind fun _ behind moved inside => ?_
      refine (moves_name inside).bind fun target named movedOn inside => ?_
      refine (moves_consume inside _).bind fun _ assigned movedOver inside => ?_
      refine (exprs assigned inside (by omega)).bind fun value after _ inside => ?_
      exact moves_pure inside _
  · refine (moves_name inside).bind fun target named moved inside => ?_
    refine (moves_consume inside _).bind fun _ assigned movedOn inside => ?_
    refine (exprs assigned inside (by omega)).bind fun value after _ inside => ?_
    exact moves_pure inside _
  · exact progress.branch cursor inside (by omega)
  · exact progress.forEach cursor inside (by omega)
  · exact moves_refuse inside 1 .phrase

theorem branch_succ (progress : StmtProgress tokens calls) :
    Progresses tokens 2 (Descent.branch tokens) (calls + 1) := by
  intro cursor inside enough
  have parens := (exprProgress tokens calls).paren
  refine (moves_consume inside _).bind fun _ behind moved inside => ?_
  refine (parens behind inside (by omega)).bind fun condition opening movedOn inside => ?_
  refine (progress.block opening inside (by omega)).bind fun body ended movedOver inside => ?_
  refine .standsAt (fun stands => ?_) fun _ => moves_pure inside _
  refine (moves_advance stands).bind fun _ second moved inside => ?_
  refine (progress.block second inside (by omega)).bind fun alternative after _ inside => ?_
  exact moves_pure inside _

theorem forEach_succ (progress : StmtProgress tokens calls) :
    Progresses tokens 2 (Descent.forEach tokens) (calls + 1) := by
  intro cursor inside enough
  have exprs := (exprProgress tokens calls).expr
  refine (moves_consume inside _).bind fun _ behind moved inside => ?_
  refine (moves_name inside).bind fun element named movedOn inside => ?_
  refine (moves_consume inside _).bind fun _ within movedOver inside => ?_
  refine (exprs within inside (by omega)).bind fun elements opening movedBehind inside => ?_
  refine (progress.block opening inside (by omega)).bind fun body after _ inside => ?_
  exact moves_pure inside _

theorem block_succ (progress : StmtProgress tokens calls) :
    Progresses tokens 1 (Descent.block tokens) (calls + 1) := by
  intro cursor inside enough
  refine (moves_consume inside _).bind fun _ opened moved inside => ?_
  refine (progress.stmtSeq opened inside (by omega)).bind fun stmts closing _ inside => ?_
  refine (moves_consume inside _).bind fun _ after _ inside => ?_
  exact moves_pure inside stmts

end StmtProgress

theorem stmtProgress (tokens : List Token) (calls : Nat) : StmtProgress tokens calls := by
  induction calls with
  | zero =>
      exact {
        stmtSeq := progresses_zero (by decide) _
        stmt := progresses_zero (by decide) _
        branch := progresses_zero (by decide) _
        forEach := progresses_zero (by decide) _
        block := progresses_zero (by decide) _ }
  | succ calls ih =>
      exact {
        stmtSeq := ih.stmtSeq_succ
        stmt := ih.stmt_succ
        branch := ih.branch_succ
        forEach := ih.forEach_succ
        block := ih.block_succ }

theorem program_progresses (tokens : List Token) (calls : Nat) :
    Progresses tokens 4 (program tokens) calls := by
  intro cursor inside enough
  refine ((stmtProgress tokens calls).stmtSeq cursor inside enough).bind
    fun stmts behind _ inside => .peek ?_
  split
  · exact moves_refuse inside 0 .endOfInput
  · exact moves_pure inside stmts

end VectorLang.Descent
