import VectorLang.Proofs.DescentProgress
import VectorLang.Proofs.ExprExtent
import VectorLang.Proofs.Following

/-!
# Expressions by descent

The reader of expressions follows the descent through the levels. Where a procedure calls
itself for an operand, an operator waits in the reader; the operators that wait are looser
than the level of the operand, so the operand completes before them.
-/

namespace VectorLang

theorem BinaryOp.binding_inj {op other : BinaryOp} : op.binding = other.binding ↔ op = other := by
  cases op <;> cases other <;> decide

/-- Operators that are completed at a level are completed at all lower ones. -/
theorem Pending.closeFrom_closeFrom {low high : Nat} (le : low ≤ high) (value : Expr)
    (pending : List Pending) :
    closeFrom low (closeFrom high value pending).1 (closeFrom high value pending).2 =
      closeFrom low value pending := by
  induction pending generalizing value with
  | nil => rfl
  | cons last pending ih =>
      by_cases tight : high ≤ last.op.binding
      · rw [closeFrom, if_pos tight, ih, closeFrom, if_pos (Nat.le_trans le tight)]
      · rw [closeFrom, if_neg tight]

namespace Descent

/-- Readers of expressions. -/
def exprDevice : Device ExprReader where
  read := ExprReader.read
  wants reader _ :=
    match reader.finish with
    | .ok _ => none
    | .error wanted => some wanted

open Pending (Looser closeFrom)

variable {tokens : List Token} {cursor : Nat}

/-- No operator stands at the cursor that binds as tightly as the level. -/
def NoOperator (tokens : List Token) (level cursor : Nat) : Prop :=
  ∀ op : BinaryOp, level ≤ op.binding → tokens[cursor]? ≠ some op.token

/-- The reader is behind an operand that completes, at the level, to the value. -/
def Completes (level : Nat) (value : Expr) (pending : List Pending)
    (outer : List (Bracket × Hole)) (last : ExprReader) : Prop :=
  ∃ operand waiting, last = .operator operand waiting outer ∧
    closeFrom level operand waiting = (value, pending)

/-- Reading from the start of a chain follows the procedure, whatever looser operators wait. -/
def FollowsChain (tokens : List Token) (level : Nat) (procedure : Procedure Expr) : Prop :=
  ∀ cursor pending outer, Looser level pending →
    Follows exprDevice tokens (.operand ⟨[], pending⟩ outer) procedure cursor
      fun value after last => Completes level value pending outer last ∧
        NoOperator tokens level after

/-- Reading from any hole follows the procedure, and fills the hole. -/
def Fills (tokens : List Token) (procedure : Procedure Expr) (cursor : Nat) : Prop :=
  ∀ hole outer, Follows exprDevice tokens (.operand hole outer) procedure cursor
    fun value _ last => last = .fill hole outer value

theorem FollowsChain.of_fills {procedure : Procedure Expr}
    (fills : ∀ cursor, Fills tokens procedure cursor) :
    FollowsChain tokens Expr.atomLevel procedure := by
  intro cursor pending outer looser
  refine (fills cursor ⟨[], pending⟩ outer).mono ?_
  rintro value after _ rfl
  refine ⟨⟨value, pending, rfl, Pending.closeFrom_of_looser looser value⟩, ?_⟩
  intro op tight
  exact absurd op.binding_lt_atomLevel (Nat.not_lt_of_le tight)

theorem Completes.lower {low high : Nat} {value : Expr} {pending : List Pending}
    {outer : List (Bracket × Hole)} {last : ExprReader}
    (completes : Completes high value pending outer last) (le : low ≤ high) :
    Completes low (closeFrom low value pending).1 (closeFrom low value pending).2 outer last := by
  obtain ⟨operand, waiting, rfl, completed⟩ := completes
  refine ⟨operand, waiting, rfl, ?_⟩
  rw [← Pending.closeFrom_closeFrom le, completed]

/-- Behind a chain so far, the reader follows the rounds of the chain. -/
theorem follows_operands {op : BinaryOp} {operand : Procedure Expr}
    (follows : FollowsChain tokens (op.binding + 1) operand) {pending : List Pending}
    {outer : List (Bracket × Hole)} (looser : Looser op.binding pending) (rounds : Nat)
    {left : Expr} {reader : ExprReader}
    (completes : Completes op.binding left pending outer reader)
    (noOperator : NoOperator tokens (op.binding + 1) cursor) :
    Follows exprDevice tokens reader (operands tokens op.token op operand rounds left) cursor
      fun value after last => Completes op.binding value pending outer last ∧
        NoOperator tokens op.binding after := by
  induction rounds generalizing left reader cursor with
  | zero => exact follows_exhausted _ _ _
  | succ rounds ih =>
      refine .standsAt (fun stands => ?_) fun other => follows_pure ⟨completes, ?_⟩
      · obtain ⟨value, waiting, rfl, completed⟩ := completes
        have read := ExprReader.read_binary op value waiting outer
        rw [completed] at read
        refine .advance stands read ?_
        have inner : Looser (op.binding + 1) (⟨op, left⟩ :: pending) :=
          Pending.looser_cons_iff.mpr (Nat.lt_succ_self _)
        refine (follows (cursor + 1) _ outer inner).bind ?_
        rintro right after last ⟨complete, behind⟩
        have whole := complete.lower (Nat.le_succ op.binding)
        rw [closeFrom, if_pos (Nat.le_refl _), Pending.closeFrom_of_looser looser] at whole
        exact ih whole behind
      · intro next tight
        rcases Nat.eq_or_lt_of_le tight with same | tighter
        · rwa [← BinaryOp.binding_inj.mp same]
        · exact noOperator next tighter

theorem FollowsChain.leftAssoc (op : BinaryOp) {operand : Procedure Expr}
    (follows : FollowsChain tokens (op.binding + 1) operand) (rounds : Nat) :
    FollowsChain tokens op.binding (Descent.leftAssoc tokens op.token op operand rounds) := by
  intro cursor pending outer looser
  refine (follows cursor pending outer (looser.mono (Nat.le_succ _))).bind ?_
  rintro left after last ⟨complete, behind⟩
  have chain := complete.lower (Nat.le_succ op.binding)
  rw [Pending.closeFrom_of_looser looser] at chain
  exact follows_operands follows looser rounds chain behind

/-! ## Brackets -/

theorem Completes.closeAll {value : Expr} {outer : List (Bracket × Hole)} {last : ExprReader}
    (completes : Completes 1 value [] outer last) :
    ∃ operand waiting, last = .operator operand waiting outer ∧
      Pending.closeAll operand waiting = value := by
  obtain ⟨operand, waiting, rfl, completed⟩ := completes
  rw [Pending.closeFrom_one] at completed
  exact ⟨operand, waiting, rfl, (Prod.mk.inj completed).1⟩

theorem NoOperator.ofToken? {token : Token} (noOperator : NoOperator tokens 1 cursor)
    (stands : tokens[cursor]? = some token) : BinaryOp.ofToken? token = none := by
  cases known : BinaryOp.ofToken? token with
  | none => rfl
  | some op =>
      obtain rfl := BinaryOp.ofToken?_eq_some_iff.mp known
      exact absurd stands (noOperator op op.one_le_binding)

/-- Behind the expression in a bracket, the end of the bracket comes next. -/
theorem awaits_closing {bracket : Bracket} {hole : Hole} {outer : List (Bracket × Hole)}
    {value : Expr} {last : ExprReader}
    (completes : Completes 1 value [] ((bracket, hole) :: outer) last)
    (noOperator : NoOperator tokens 1 cursor) :
    Awaits exprDevice tokens last bracket.closing
      (.closeBracket bracket hole outer value) cursor := by
  obtain ⟨operand, waiting, rfl, rfl⟩ := completes.closeAll
  refine ⟨ExprReader.read_closing bracket hole operand waiting outer, fun other => ⟨?_, rfl⟩⟩
  intro token stands
  change ExprReader.read (.operator operand waiting ((bracket, hole) :: outer)) token = none
  rw [ExprReader.read.eq_def]
  simp [noOperator.ofToken? stands, ne_of_stands stands other]

/-! ## Atoms -/

/-- What the reader of expressions follows, if the procedures may make so many calls. -/
structure ExprFollows (tokens : List Token) (calls : Nat) : Prop where
  expr : FollowsChain tokens 1 (expr tokens calls)
  conjunction : FollowsChain tokens 2 (conjunction tokens calls)
  equality : FollowsChain tokens 3 (equality tokens calls)
  sum : FollowsChain tokens 4 (sum tokens calls)
  product : FollowsChain tokens 5 (product tokens calls)
  atom : ∀ cursor, Fills tokens (atom tokens calls) cursor
  unary : ∀ (op : UnaryOp) (cursor : Nat), tokens[cursor]? = some op.token →
    Fills tokens (unary tokens op calls) cursor
  paren : ∀ cursor, tokens[cursor]? = some (.symbol .leftParen) →
    Fills tokens (paren tokens calls) cursor
  vector : ∀ cursor, tokens[cursor]? = some (.symbol .leftBracket) →
    Fills tokens (vector tokens calls) cursor

namespace ExprFollows

variable {calls : Nat}

theorem unary_succ (follows : ExprFollows tokens calls) (op : UnaryOp)
    (stands : tokens[cursor]? = some op.token) :
    Fills tokens (Descent.unary tokens op (calls + 1)) cursor := by
  intro hole outer
  refine .advance stands (ExprReader.read_unary op hole outer) ?_
  refine (follows.atom (cursor + 1) { hole with unary := op :: hole.unary } outer).bind ?_
  rintro operand after _ rfl
  exact follows_pure rfl

theorem paren_succ (follows : ExprFollows tokens calls)
    (stands : tokens[cursor]? = some (.symbol .leftParen)) :
    Fills tokens (Descent.paren tokens (calls + 1)) cursor := by
  intro hole outer
  have opens : ExprReader.read (.operand hole outer) (.symbol .leftParen) =
      some (.operand .fresh ((.paren, hole) :: outer)) := rfl
  refine .consume (awaits_of_stands stands opens) ?_
  refine (follows.expr _ [] ((.paren, hole) :: outer) (.nil 1)).bind ?_
  rintro value closing last ⟨complete, behind⟩
  exact .consume (awaits_closing complete behind) (follows_pure rfl)

theorem vector_succ (follows : ExprFollows tokens calls)
    (stands : tokens[cursor]? = some (.symbol .leftBracket)) :
    Fills tokens (Descent.vector tokens (calls + 1)) cursor := by
  intro hole outer
  have opens : ExprReader.read (.operand hole outer) (.symbol .leftBracket) =
      some (.operand .fresh ((.length, hole) :: outer)) := rfl
  refine .consume (awaits_of_stands stands opens) ?_
  refine (follows.expr _ [] ((.length, hole) :: outer) (.nil 1)).bind ?_
  rintro length middle last ⟨complete, behind⟩
  refine .consume (awaits_closing complete behind) ?_
  refine (follows.expr _ [] ((.index length, hole) :: outer) (.nil 1)).bind ?_
  rintro index closing last ⟨complete, behind⟩
  exact .consume (awaits_closing complete behind) (follows_pure rfl)

theorem atom_succ (follows : ExprFollows tokens calls) (cursor : Nat) :
    Fills tokens (Descent.atom tokens (calls + 1)) cursor := by
  intro hole outer
  have refused (stuck : ∀ token, tokens[cursor]? = some token →
      ExprReader.read (.operand hole outer) token = none) :
      Follows exprDevice tokens (.operand hole outer) (refuse .phrase) cursor
        fun value _ last => last = .fill hole outer value :=
    follows_refuse ⟨stuck, rfl⟩
  refine .peek ?_
  cases stands : tokens[cursor]? with
  | none => exact refused fun token found => nomatch stands.symm.trans found
  | some token =>
      have refusedHere (stuck : ExprReader.read (.operand hole outer) token = none) :=
        refused fun found standsFound =>
          Option.some.inj (stands.symm.trans standsFound) ▸ stuck
      cases token with
      | int | bool => exact .advance stands rfl (follows_pure rfl)
      | name =>
          exact .name (fun text _ => ⟨_, rfl, follows_pure rfl⟩)
            fun none => absurd stands (none _)
      | keyword word =>
          cases word with
          | first => exact follows.unary .first cursor stands hole outer
          | second => exact follows.unary .second cursor stands hole outer
          | print | declare | branch | otherwise | each | within => exact refusedHere rfl
      | symbol mark =>
          cases mark with
          | minus => exact follows.unary .negate cursor stands hole outer
          | bang => exact follows.unary .not cursor stands hole outer
          | leftParen => exact follows.paren cursor stands hole outer
          | leftBracket => exact follows.vector cursor stands hole outer
          | assign | plus | star | bothAnd | equals | semicolon | comma | rightParen | leftBrace
          | rightBrace | rightBracket => exact refusedHere rfl

end ExprFollows

theorem exprFollows (tokens : List Token) (calls : Nat) : ExprFollows tokens calls := by
  induction calls with
  | zero =>
      have chain (level : Nat) : FollowsChain tokens level (throw .exhausted) :=
        fun _ _ _ _ => follows_exhausted _ _ _
      have fills (cursor : Nat) : Fills tokens (throw .exhausted) cursor :=
        fun _ _ => follows_exhausted _ _ _
      exact {
        expr := chain 1
        conjunction := chain 2
        equality := chain 3
        sum := chain 4
        product := chain 5
        atom := fills
        unary := fun _ cursor _ => fills cursor
        paren := fun cursor _ => fills cursor
        vector := fun cursor _ => fills cursor }
  | succ calls ih =>
      exact {
        expr := ih.conjunction.leftAssoc .pair calls
        conjunction := ih.equality.leftAssoc .and calls
        equality := ih.sum.leftAssoc .equal calls
        sum := ih.product.leftAssoc .add calls
        product := (FollowsChain.of_fills ih.atom).leftAssoc .mul calls
        atom := ih.atom_succ
        unary := fun op cursor => ih.unary_succ op
        paren := fun cursor => ih.paren_succ
        vector := fun cursor => ih.vector_succ }

/-! ## Runs -/

theorem run_of_goes {reader last : ExprReader} {stop : Nat}
    (goes : Goes exprDevice tokens reader cursor last stop) :
    reader.run cursor (tokens.drop cursor) = last.run stop (tokens.drop stop) := by
  refine goes.run_eq fun position rest read => ?_
  rw [ExprReader.run, show ExprReader.read _ _ = _ from read]

/-- A run ends where no token can be taken up. -/
theorem run_of_stuck {reader : ExprReader}
    (stuck : ∀ token, tokens[cursor]? = some token → reader.read token = none) :
    reader.run cursor (tokens.drop cursor) = reader.stop cursor := by
  cases stands : tokens[cursor]? with
  | none =>
      rw [List.drop_eq_nil_of_le (List.getElem?_eq_none_iff.mp stands)]
      rfl
  | some token => rw [drop_of_some stands, ExprReader.run, stuck token stands]

theorem Refuses.finish_eq {reader : ExprReader} {wanted : Wanted}
    (refuses : Refuses exprDevice tokens reader wanted cursor) :
    reader.finish = .error wanted := by
  have wants := refuses.wants
  cases finished : reader.finish with
  | ok value => simp [exprDevice, finished] at wants
  | error other =>
      obtain rfl : other = wanted := by simpa [exprDevice, finished] using wants
      rfl

/-- With enough calls the descent reads the expressions that the reader reads, and fails where
the reader fails. -/
theorem expr_eq_run {calls : Nat} (inside : cursor ≤ tokens.length)
    (enough : 8 * (tokens.length - cursor) + 7 ≤ calls) :
    expr tokens calls cursor =
      (ExprReader.start.run cursor (tokens.drop cursor)).mapError
        fun failure => .refused failure.1 failure.2 := by
  have progress := (exprProgress tokens calls).expr cursor inside enough
  have follows := (exprFollows tokens calls).expr cursor [] [] (.nil 1)
  unfold Moves at progress
  unfold Follows at follows
  cases outcome : expr tokens calls cursor with
  | ok result =>
      rw [outcome] at follows
      obtain ⟨last, goes, complete, behind⟩ := follows
      obtain ⟨operand, waiting, rfl, completed⟩ := complete.closeAll
      have stuck (token : Token) (stands : tokens[result.2]? = some token) :
          ExprReader.read (.operator operand waiting []) token = none :=
        (ExprReader.read_eq_none_iff rfl).mpr fun op same =>
          behind op op.one_le_binding (same ▸ stands)
      have ran : ExprReader.start.run cursor (tokens.drop cursor) = .ok (result.1, result.2) := by
        rw [← completed]
        exact (run_of_goes goes).trans (run_of_stuck stuck)
      rw [ran]
      rfl
  | error failure =>
      rw [outcome] at progress follows
      cases failure with
      | exhausted => exact progress.elim
      | refused wanted stop =>
          obtain ⟨last, goes, refuses⟩ := follows wanted stop rfl
          have ran : ExprReader.start.run cursor (tokens.drop cursor) = last.stop stop :=
            (run_of_goes goes).trans (run_of_stuck refuses.stuck)
          rw [ran, ExprReader.stop, refuses.finish_eq]
          rfl

end Descent

end VectorLang
