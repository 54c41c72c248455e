import VectorLang.Proofs.EnoughCalls
import VectorLang.Proofs.ExprDescent
import VectorLang.Proofs.ProgramReading

/-!
# Programs by descent

The reader of programs follows the descent through statements and blocks. A procedure ends
where the next token does not go on with what it reads; there the reader takes up what may
follow, and refuses all else with the wish of the procedure that comes next.

So the descent and the readers accept the same tokens, and refuse at the same token for the
same reason.
-/

namespace VectorLang.Descent

open ProgramReader (expect awaitBlock afterBlock closeBlock readStart readEnd readBehind
  finishBehind Ends Closes)

/-- Readers of programs. -/
def programDevice : Device ProgramReader where
  read := ProgramReader.read
  wants reader
    | some token => some (reader.refusal token)
    | none =>
        match reader.finish with
        | .ok _ => none
        | .error wanted => some wanted

variable {tokens : List Token} {cursor : Nat}

/-! ## Expressions in statements -/

theorem goes_expression (purpose : Purpose) (place : Place) {reader last : ExprReader}
    {stop : Nat} (goes : Goes exprDevice tokens reader cursor last stop) :
    Goes programDevice tokens (.expression purpose reader place) cursor
      (.expression purpose last place) stop := by
  induction goes with
  | refl => exact .refl _ _
  | step stands read _ ih =>
      exact .step stands (ProgramReader.read_expression purpose place read) ih

/-- What ends an expression without an operand or a bracket is refused for the same reason. -/
theorem Refuses.expression (purpose : Purpose) (place : Place) {reader : ExprReader}
    {wanted : Wanted} (refuses : Refuses exprDevice tokens reader wanted cursor) :
    Refuses programDevice tokens (.expression purpose reader place) wanted cursor := by
  have unfinished := refuses.finish_eq
  constructor
  · intro token stands
    have stuck : reader.read token = none := refuses.stuck token stands
    simp [programDevice, ProgramReader.read, stuck, unfinished]
  · cases tokens[cursor]? with
    | none => simp [programDevice, ProgramReader.finish, unfinished]
    | some token => simp [programDevice, ProgramReader.refusal, ProgramReader.finish, unfinished]

/-- The reader is behind a whole expression, and no operator follows. -/
def Complete (tokens : List Token) (purpose : Purpose) (place : Place) (value : Expr)
    (cursor : Nat) (last : ProgramReader) : Prop :=
  ∃ reader, last = .expression purpose reader place ∧ reader.finish = .ok value ∧
    NoOperator tokens 1 cursor

/-- An expression inside a program is read as it is read alone. -/
theorem follows_expr (tokens : List Token) (calls cursor : Nat) (purpose : Purpose)
    (place : Place) :
    Follows programDevice tokens (expect purpose place) (expr tokens calls) cursor
      (Complete tokens purpose place) := by
  have follows := (exprFollows tokens calls).expr cursor [] [] (.nil 1)
  refine Computes.mono follows ?_ ?_
  · rintro result ⟨last, goes, complete, behind⟩
    obtain ⟨operand, waiting, rfl, completed⟩ := complete.closeAll
    refine ⟨_, goes_expression purpose place goes, _, rfl, ?_, behind⟩
    exact congrArg Except.ok completed
  · intro failure refused wanted stop given
    obtain ⟨last, goes, refuses⟩ := refused wanted stop given
    exact ⟨_, goes_expression purpose place goes, refuses.expression purpose place⟩

/-- A token behind an expression that is no operator is read for the purpose. -/
theorem Complete.read_eq {purpose : Purpose} {place : Place} {value : Expr}
    {last : ProgramReader} (complete : Complete tokens purpose place value cursor last)
    {token : Token} (stands : tokens[cursor]? = some token) :
    last.read token = readBehind purpose value place token := by
  obtain ⟨reader, rfl, finished, behind⟩ := complete
  exact ProgramReader.read_behind finished (behind.ofToken? stands)

/-! ## Awaited tokens -/

theorem awaits_await (tokens : List Token) (expected : Token) (next : ProgramReader)
    (cursor : Nat) :
    Awaits programDevice tokens (.await expected next) expected next cursor := by
  refine ⟨if_pos rfl, fun other => ⟨fun token stands => if_neg (ne_of_stands stands other), ?_⟩⟩
  cases tokens[cursor]? <;> rfl

/-- Behind a condition and behind the elements of a loop one token is awaited. -/
theorem Complete.awaits {purpose : Purpose} {place : Place} {value : Expr}
    {last next : ProgramReader} {expected : Token}
    (complete : Complete tokens purpose place value cursor last)
    (takes : ∀ token, readBehind purpose value place token =
      if token = expected then some next else none)
    (wants : finishBehind purpose value place = .error (.token expected))
    (noOperator : BinaryOp.ofToken? expected = none) :
    Awaits programDevice tokens last expected next cursor := by
  obtain ⟨reader, rfl, finished, behind⟩ := id complete
  have unfinished : (ProgramReader.expression purpose reader place).finish =
      .error (.token expected) := by
    simp [ProgramReader.finish, finished, wants]
  refine ⟨?_, fun other => ⟨fun token stands => ?_, ?_⟩⟩
  · exact (ProgramReader.read_behind finished noOperator).trans ((takes _).trans (if_pos rfl))
  · have different := ne_of_stands stands other
    exact (complete.read_eq stands).trans ((takes token).trans (if_neg different))
  · cases tokens[cursor]? with
    | none => simp [programDevice, unfinished]
    | some token => simp [programDevice, ProgramReader.refusal, unfinished]

/-- A name is awaited. -/
theorem naming_refuses (use : NameUse) (place : Place)
    (other : ∀ text, tokens[cursor]? ≠ some (.name text)) :
    Refuses programDevice tokens (.naming use place) .name cursor := by
  constructor
  · intro token stands
    cases token with
    | name text => exact absurd stands (other text)
    | keyword | symbol | bool | int => rfl
  · cases tokens[cursor]? <;> rfl

/-! ## Where statements start and end -/

/-- What is wanted at a token that goes on with no sequence. -/
def endWanted (place : Place) : Wanted :=
  match place.finish with
  | .ok _ => .endOfInput
  | .error wanted => wanted

/-- A statement has to come next. -/
structure AtStmt (tokens : List Token) (place : Place) (cursor : Nat) (reader : ProgramReader) :
    Prop where
  reads : ∀ token, tokens[cursor]? = some token → reader.read token = readStart place token
  wants : programDevice.wants reader tokens[cursor]? = some .phrase

/-- The reader stands behind the last statement before the place, and the token at the cursor
does not belong to that statement. -/
structure StmtEnds (tokens : List Token) (place : Place) (cursor : Nat)
    (last : ProgramReader) : Prop where
  ends : Ends last place
  stuck : ∀ token, tokens[cursor]? = some token → token ≠ .symbol .semicolon →
    token ≠ .symbol .rightBrace → last.read token = none

/-- The sequence before the place ends at the cursor. -/
structure SeqEnds (tokens : List Token) (place : Place) (cursor : Nat)
    (last : ProgramReader) : Prop where
  closes : Closes last place
  refusal : ∀ token, tokens[cursor]? = some token → last.read token = none →
    last.refusal token = endWanted place
  stuck : ∀ token, tokens[cursor]? = some token → token ≠ .symbol .rightBrace →
    last.read token = none

theorem atStmt_statement (tokens : List Token) (place : Place) (cursor : Nat) :
    AtStmt tokens place cursor (.statement place) := by
  refine ⟨fun _ _ => rfl, ?_⟩
  cases tokens[cursor]? <;> rfl

/-- Behind a semicolon a statement has to come next unless the block ends there. -/
theorem atStmt_separated {place : Place} {token : Token}
    (stands : tokens[cursor]? = some token) (other : token ≠ .symbol .rightBrace) :
    AtStmt tokens place cursor (.separated place) := by
  constructor
  · intro found standsFound
    obtain rfl := Option.some.inj (stands.symm.trans standsFound)
    exact if_neg other
  · rw [stands]
    exact congrArg some (if_neg other)

theorem readEnd_eq_none (place : Place) {token : Token} (noSemicolon : token ≠ .symbol .semicolon)
    (noBrace : token ≠ .symbol .rightBrace) : readEnd place token = none := by
  unfold readEnd
  split
  · exact absurd rfl noSemicolon
  · exact absurd rfl noBrace
  · rfl

/-- Directly behind a statement any token that is refused is refused for the same reason. -/
theorem refusal_of_ends {reader : ProgramReader} {place : Place} (ends : Ends reader place)
    (token : Token) : reader.refusal token = endWanted place := by
  have finish := ends.finish
  cases reader with
  | separated other => exact absurd ends.separates (by simp [ProgramReader.read, readStart])
  | statement | naming | await | expression | ended | afterBody =>
      cases finished : place.finish <;> simp [ProgramReader.refusal, endWanted, finish, finished]

/-! ## Sequences -/

theorem StmtEnds.seqEnds {place : Place} {last : ProgramReader}
    (stmtEnds : StmtEnds tokens place cursor last)
    (noSemicolon : tokens[cursor]? ≠ some (.symbol .semicolon)) :
    SeqEnds tokens place cursor last := by
  refine ⟨stmtEnds.ends.toCloses, fun token _ _ => refusal_of_ends stmtEnds.ends token, ?_⟩
  intro token stands noBrace
  exact stmtEnds.stuck token stands (ne_of_stands stands noSemicolon) noBrace

/-- A closing brace is refused only where no block is open. -/
theorem outer_eq_nil_of_closeBlock {place : Place} (refused : closeBlock place = none) :
    place.outer = [] := by
  cases nested : place.outer with
  | nil => rfl
  | cons entry outer =>
      have closes := ProgramReader.closeBlock_eq_some_iff.mpr ⟨entry.1, entry.2, outer, nested, rfl⟩
      rw [refused] at closes
      cases closes

/-- A semicolon ends the sequence at the end of the tokens and at a closing brace. -/
theorem seqEnds_separated {place : Place}
    (ended : ∀ token, tokens[cursor]? = some token → token = .symbol .rightBrace) :
    SeqEnds tokens place cursor (.separated place) := by
  refine ⟨ProgramReader.separated_closes place, ?_, ?_⟩
  · intro token stands refused
    obtain rfl := ended token stands
    have outermost := outer_eq_nil_of_closeBlock refused
    simp [ProgramReader.refusal, endWanted, Place.finish, outermost]
  · intro token stands other
    exact absurd (ended token stands) other

/-- What the reader of programs follows from where a statement has to come next. -/
def FollowsStmt (tokens : List Token) (procedure : Procedure Stmt) (cursor : Nat) : Prop :=
  ∀ place reader, AtStmt tokens place cursor reader →
    Follows programDevice tokens reader procedure cursor
      fun stmt after last => StmtEnds tokens (place.push stmt) after last

theorem pushAll_append (place : Place) (before : List Stmt) (stmt : Stmt) :
    place.pushAll (before ++ [stmt]) = (place.pushAll before).push stmt := by
  simp [Place.pushAll, Place.push]

theorem follows_furtherStmts {stmt : Procedure Stmt}
    (follows : ∀ cursor, FollowsStmt tokens stmt cursor) (place : Place) (rounds : Nat)
    {before : List Stmt} {reader : ProgramReader}
    (stmtEnds : StmtEnds tokens (place.pushAll before) cursor reader) :
    Follows programDevice tokens reader (furtherStmts tokens stmt rounds before) cursor
      fun stmts after last => SeqEnds tokens (place.pushAll stmts) after last := by
  induction rounds generalizing before reader cursor with
  | zero => exact follows_exhausted _ _ _
  | succ rounds ih =>
      refine .standsAt (fun stands => ?_) fun other => follows_pure (stmtEnds.seqEnds other)
      refine .advance stands stmtEnds.ends.separates (.peek ?_)
      split
      · next ended =>
          refine follows_pure (seqEnds_separated fun token stands => ?_)
          rw [ended] at stands
          cases stands
      · next closes =>
          refine follows_pure (seqEnds_separated fun token stands => ?_)
          exact (Option.some.inj (closes.symm.trans stands)).symm
      · next token noBrace stands =>
          refine (follows (cursor + 1) _ _ (atStmt_separated stands noBrace)).bind ?_
          intro next after last nextEnds
          rw [← pushAll_append] at nextEnds
          exact ih nextEnds

/-! ## Statements -/

/-- What the reader of programs follows from where the block of a construct is awaited. -/
def FollowsBlock (tokens : List Token) (procedure : Procedure Block) : Prop :=
  ∀ cursor reader opening place,
    Awaits programDevice tokens reader (.symbol .leftBrace) (.statement (place.enter opening))
      cursor →
    Follows programDevice tokens reader procedure cursor
      fun body _ last => last = afterBlock opening body place

/-- What the reader of programs follows, if the procedures may make so many calls. -/
structure StmtFollows (tokens : List Token) (calls : Nat) : Prop where
  stmtSeq : ∀ cursor place,
    Follows programDevice tokens (.statement place) (stmtSeq tokens calls) cursor
      fun stmts after last => SeqEnds tokens (place.pushAll stmts) after last
  stmt : ∀ cursor, FollowsStmt tokens (stmt tokens calls) cursor
  branch : ∀ cursor, tokens[cursor]? = some (.keyword .branch) →
    FollowsStmt tokens (branch tokens calls) cursor
  forEach : ∀ cursor, tokens[cursor]? = some (.keyword .each) →
    FollowsStmt tokens (forEach tokens calls) cursor
  block : FollowsBlock tokens (block tokens calls)

/-- A statement that ends with an expression ends with it. -/
theorem Complete.stmtEnds {purpose : Purpose} {place : Place} {value : Expr}
    {last : ProgramReader} (complete : Complete tokens purpose place value cursor last)
    {stmt : Stmt} (behind : readBehind purpose value place = readEnd (place.push stmt))
    (finish : finishBehind purpose value place = (place.push stmt).finish) :
    StmtEnds tokens (place.push stmt) cursor last := by
  obtain ⟨reader, rfl, finished, noOperator⟩ := id complete
  refine ⟨ProgramReader.expression_ends finished behind finish, ?_⟩
  intro token stands noSemicolon noBrace
  rw [complete.read_eq stands, behind]
  exact readEnd_eq_none _ noSemicolon noBrace

theorem stmtEnds_ended (tokens : List Token) (place : Place) (cursor : Nat) :
    StmtEnds tokens place cursor (.ended place) :=
  ⟨ProgramReader.ended_ends place, fun _ _ => readEnd_eq_none place⟩

/-- Without an alternative a condition ends behind its block. -/
theorem stmtEnds_afterBody {condition : Expr} {body : Block} {place : Place}
    (noAlternative : tokens[cursor]? ≠ some (.keyword .otherwise)) :
    StmtEnds tokens (place.push (.ifThen condition body)) cursor
      (.afterBody condition body place) := by
  refine ⟨ProgramReader.afterBody_ends condition body place, ?_⟩
  intro token stands noSemicolon noBrace
  have other := ne_of_stands stands noAlternative
  exact (if_neg other).trans (readEnd_eq_none _ noSemicolon noBrace)

/-- The condition of a statement is in parentheses as an operand may be. -/
theorem follows_condition (tokens : List Token) (calls cursor : Nat) (place : Place) :
    Follows programDevice tokens (.await (.symbol .leftParen) (expect .condition place))
      (paren tokens calls) cursor
      fun condition _ last => last = awaitBlock (.first condition) place := by
  cases calls with
  | zero => exact follows_exhausted _ _ _
  | succ calls =>
      refine .consume (awaits_await tokens _ _ cursor) ?_
      refine (follows_expr tokens calls _ .condition place).bind ?_
      intro condition closing last complete
      exact .consume (complete.awaits (fun _ => rfl) rfl rfl) (follows_pure rfl)

theorem AtStmt.awaits {place : Place} {reader next : ProgramReader} {token : Token}
    (atStmt : AtStmt tokens place cursor reader) (stands : tokens[cursor]? = some token)
    (starts : readStart place token = some next) :
    Awaits programDevice tokens reader token next cursor :=
  awaits_of_stands stands ((atStmt.reads token stands).trans starts)

namespace StmtFollows

variable {calls : Nat}

theorem stmtSeq_succ (follows : StmtFollows tokens calls) (cursor : Nat) (place : Place) :
    Follows programDevice tokens (.statement place) (Descent.stmtSeq tokens (calls + 1)) cursor
      fun stmts after last => SeqEnds tokens (place.pushAll stmts) after last := by
  refine (follows.stmt cursor place _ (atStmt_statement tokens place cursor)).bind ?_
  intro first after last firstEnds
  exact follows_furtherStmts follows.stmt place calls firstEnds

theorem block_succ (follows : StmtFollows tokens calls) :
    FollowsBlock tokens (Descent.block tokens (calls + 1)) := by
  intro cursor reader opening place awaits
  refine .consume awaits ?_
  refine (follows.stmtSeq (cursor + 1) (place.enter opening)).bind ?_
  intro stmts closing last seqEnds
  have wanted : ((place.enter opening).pushAll stmts).finish =
      .error (.token (.symbol .rightBrace)) := rfl
  refine .consume ⟨?_, fun other => ?_⟩ (follows_pure rfl)
  · exact seqEnds.closes.closes.trans (ProgramReader.closeBlock_enter place opening stmts)
  · have stuck (token : Token) (stands : tokens[closing]? = some token) :
        last.read token = none := seqEnds.stuck token stands (ne_of_stands stands other)
    refine ⟨stuck, ?_⟩
    cases stands : tokens[closing]? with
    | none => simp [programDevice, seqEnds.closes.finish, wanted]
    | some token =>
        have refusal := seqEnds.refusal token stands (stuck token stands)
        simp [programDevice, refusal, endWanted, wanted]

theorem branch_succ (follows : StmtFollows tokens calls)
    (stands : tokens[cursor]? = some (.keyword .branch)) :
    FollowsStmt tokens (Descent.branch tokens (calls + 1)) cursor := by
  intro place reader atStmt
  refine .consume (atStmt.awaits stands rfl) ?_
  refine (follows_condition tokens calls _ place).bind ?_
  rintro condition opening _ rfl
  refine (follows.block opening _ (.first condition) place (awaits_await _ _ _ _)).bind ?_
  rintro body ended _ rfl
  refine .standsAt (fun alternative => ?_) fun other => follows_pure (stmtEnds_afterBody other)
  have goesOn : ProgramReader.read (.afterBody condition body place) (.keyword .otherwise) =
      some (awaitBlock (.second condition body) place) := by simp [ProgramReader.read]
  refine .advance alternative goesOn ?_
  refine (follows.block _ _ (.second condition body) place (awaits_await _ _ _ _)).bind ?_
  rintro alternative after _ rfl
  exact follows_pure (stmtEnds_ended tokens _ after)

theorem forEach_succ (follows : StmtFollows tokens calls)
    (stands : tokens[cursor]? = some (.keyword .each)) :
    FollowsStmt tokens (Descent.forEach tokens (calls + 1)) cursor := by
  intro place reader atStmt
  refine .consume (atStmt.awaits stands rfl) (.name (fun element _ => ⟨_, rfl, ?_⟩)
    fun other => naming_refuses .loop place other)
  refine .consume (awaits_await tokens _ _ _) ?_
  refine (follows_expr tokens calls _ (.elements element) place).bind ?_
  intro elements opening last complete
  refine (follows.block opening last (.loop element elements) place
    (complete.awaits (fun _ => rfl) rfl rfl)).bind ?_
  rintro body after _ rfl
  exact follows_pure (stmtEnds_ended tokens _ after)

/-- What ends with an expression ends as the expression does. -/
theorem follows_expr_pure (calls cursor : Nat) {purpose : Purpose} {place : Place}
    {build : Expr → Stmt}
    (behind : ∀ value, readBehind purpose value place = readEnd (place.push (build value)))
    (finish : ∀ value, finishBehind purpose value place = (place.push (build value)).finish) :
    Follows programDevice tokens (expect purpose place)
      (expr tokens calls >>= fun value => pure (build value)) cursor
      fun stmt after last => StmtEnds tokens (place.push stmt) after last := by
  refine (follows_expr tokens calls cursor purpose place).bind fun value after last complete => ?_
  exact follows_pure (complete.stmtEnds (behind value) (finish value))

theorem stmt_succ (follows : StmtFollows tokens calls) (cursor : Nat) :
    FollowsStmt tokens (Descent.stmt tokens (calls + 1)) cursor := by
  intro place reader atStmt
  refine .peek ?_
  split
  · next stands =>
      exact .advance stands (atStmt.reads _ stands)
        (follows_expr_pure _ _ (fun _ => rfl) fun _ => rfl)
  · next stands =>
      refine .advance stands (atStmt.reads _ stands) (.name (fun target _ => ⟨_, rfl, ?_⟩)
        fun other => naming_refuses .declare place other)
      exact .consume (awaits_await tokens _ _ _)
        (follows_expr_pure _ _ (fun _ => rfl) fun _ => rfl)
  · next stands =>
      refine .name (fun target stands => ⟨_, atStmt.reads _ stands, ?_⟩)
        fun other => absurd stands (other _)
      exact .consume (awaits_await tokens _ _ _)
        (follows_expr_pure _ _ (fun _ => rfl) fun _ => rfl)
  · next stands => exact follows.branch cursor stands place reader atStmt
  · next stands => exact follows.forEach cursor stands place reader atStmt
  · next noPrint noDeclare noName noBranch noEach =>
      refine follows_refuse ⟨fun token stands => ?_, atStmt.wants⟩
      refine (atStmt.reads token stands).trans ?_
      unfold readStart
      split
      · exact (noPrint stands).elim
      · exact (noDeclare stands).elim
      · exact (noName _ stands).elim
      · exact (noBranch stands).elim
      · exact (noEach stands).elim
      · rfl

end StmtFollows

theorem stmtFollows (tokens : List Token) (calls : Nat) : StmtFollows tokens calls := by
  induction calls with
  | zero =>
      have stmts (cursor : Nat) : FollowsStmt tokens (throw .exhausted) cursor :=
        fun _ _ _ => follows_exhausted _ _ _
      exact {
        stmtSeq := fun _ _ => follows_exhausted _ _ _
        stmt := stmts
        branch := fun cursor _ => stmts cursor
        forEach := fun cursor _ => stmts cursor
        block := fun _ _ _ _ _ => follows_exhausted _ _ _ }
  | succ calls ih =>
      exact {
        stmtSeq := ih.stmtSeq_succ
        stmt := ih.stmt_succ
        branch := fun cursor => ih.branch_succ
        forEach := fun cursor => ih.forEach_succ
        block := ih.block_succ }

/-! ## Programs -/

theorem follows_program (tokens : List Token) (calls cursor : Nat) :
    Follows programDevice tokens .start (program tokens calls) cursor
      fun program after last => tokens[after]? = none ∧ last.finish = .ok program := by
  refine ((stmtFollows tokens calls).stmtSeq cursor .start).bind ?_
  intro stmts after last seqEnds
  have whole := Place.finish_pushAll_start stmts
  refine .peek ?_
  split
  · next token stands =>
      -- no block is open, so a closing brace is refused as well
      have stuck : last.read token = none := by
        by_cases closes : token = .symbol .rightBrace
        · subst closes
          exact seqEnds.closes.closes
        · exact seqEnds.stuck token stands closes
      refine follows_refuse ⟨fun found standsFound => ?_, ?_⟩
      · obtain rfl := Option.some.inj (stands.symm.trans standsFound)
        exact stuck
      · rw [stands]
        simp [programDevice, seqEnds.refusal token stands stuck, endWanted, whole]
  · next ended => exact follows_pure ⟨ended, seqEnds.closes.finish.trans whole⟩

theorem program_run_of_goes {reader last : ProgramReader} {stop : Nat}
    (goes : Goes programDevice tokens reader cursor last stop) :
    reader.run cursor (tokens.drop cursor) = last.run stop (tokens.drop stop) := by
  refine goes.run_eq fun position rest read => ?_
  rw [ProgramReader.run, show ProgramReader.read _ _ = _ from read]

theorem Refuses.program_run_eq {reader : ProgramReader} {wanted : Wanted}
    (refuses : Refuses programDevice tokens reader wanted cursor) :
    reader.run cursor (tokens.drop cursor) = .error (wanted, cursor) := by
  have wants := refuses.wants
  cases stands : tokens[cursor]? with
  | none =>
      rw [List.drop_eq_nil_of_le (List.getElem?_eq_none_iff.mp stands), ProgramReader.run]
      rw [stands] at wants
      cases finished : reader.finish with
      | ok program => simp [programDevice, finished] at wants
      | error other =>
          obtain rfl : other = wanted := by simpa [programDevice, finished] using wants
          rfl
  | some token =>
      have stuck : reader.read token = none := refuses.stuck token stands
      rw [stands] at wants
      obtain rfl : reader.refusal token = wanted := Option.some.inj wants
      rw [drop_of_some stands, ProgramReader.run, stuck]

/-- With enough calls the descent reads the programs that the reader reads, and fails where
the reader fails. -/
theorem program_eq_run {calls : Nat} (inside : cursor ≤ tokens.length)
    (enough : 8 * (tokens.length - cursor) + 4 ≤ calls) :
    (program tokens calls).run' cursor =
      (ProgramReader.start.run cursor (tokens.drop cursor)).mapError
        fun failure => .refused failure.1 failure.2 := by
  have progress := program_progresses tokens calls cursor inside enough
  have follows := follows_program tokens calls cursor
  unfold Moves at progress
  unfold Follows at follows
  change (fun result => result.1) <$> program tokens calls cursor = _
  cases outcome : program tokens calls cursor with
  | ok result =>
      rw [outcome] at follows
      obtain ⟨last, goes, ended, finished⟩ := follows
      have ran : ProgramReader.start.run cursor (tokens.drop cursor) = .ok result.1 := by
        rw [program_run_of_goes goes,
          List.drop_eq_nil_of_le (List.getElem?_eq_none_iff.mp ended), ProgramReader.run, finished]
      rw [ran]
      rfl
  | error failure =>
      rw [outcome] at progress follows
      cases failure with
      | exhausted => exact progress.elim
      | refused wanted stop =>
          obtain ⟨last, goes, refuses⟩ := follows wanted stop rfl
          rw [program_run_of_goes goes, refuses.program_run_eq]
          rfl

/-! ## All procedures -/

/-- From any cursor within the tokens each procedure of the descent ends, with a number of
calls that the number of tokens left bounds. Its cursor never moves back or behind the end of
the list, and a success has moved it. What the descent reads, and what it refuses, is what
the readers of expressions and programs do. -/
theorem descent_settles (tokens : List Token) {cursor : Nat} (inside : cursor ≤ tokens.length) :
    (Settles tokens (stmtSeq tokens) cursor ∧ Settles tokens (stmt tokens) cursor ∧
      Settles tokens (branch tokens) cursor ∧ Settles tokens (forEach tokens) cursor ∧
      Settles tokens (block tokens) cursor) ∧
    (Settles tokens (expr tokens) cursor ∧ Settles tokens (conjunction tokens) cursor ∧
      Settles tokens (equality tokens) cursor ∧ Settles tokens (sum tokens) cursor ∧
      Settles tokens (product tokens) cursor) ∧
    (∀ (operator : Token) (op : BinaryOp) (operand : Procedure Expr),
      (∀ after, cursor ≤ after → after ≤ tokens.length → Moves tokens 1 operand after) →
      Settles tokens (leftAssoc tokens operator op operand) cursor) ∧
    (Settles tokens (atom tokens) cursor ∧ (∀ op, Settles tokens (unary tokens op) cursor) ∧
      Settles tokens (paren tokens) cursor ∧ Settles tokens (vector tokens) cursor) ∧
    ∀ calls, callsFor (tokens.length - cursor) ≤ calls →
      expr tokens calls cursor =
        (ExprReader.start.run cursor (tokens.drop cursor)).mapError
          (fun failure => .refused failure.1 failure.2) ∧
      (program tokens calls).run' cursor =
        (ProgramReader.start.run cursor (tokens.drop cursor)).mapError
          (fun failure => .refused failure.1 failure.2) := by
  have exprs := exprProgress tokens
  have stmts := stmtProgress tokens
  have exprCalls := exprGrows tokens
  have stmtCalls := stmtGrows tokens
  refine ⟨⟨?_, ?_, ?_, ?_, ?_⟩, ⟨?_, ?_, ?_, ?_, ?_⟩, ?_, ⟨?_, ?_, ?_, ?_⟩, ?_⟩
  · exact settles_of_progresses inside (fun calls => (stmts calls).stmtSeq) (by decide)
      fun calls => (stmtCalls calls).stmtSeq
  · exact settles_of_progresses inside (fun calls => (stmts calls).stmt) (by decide)
      fun calls => (stmtCalls calls).stmt
  · exact settles_of_progresses inside (fun calls => (stmts calls).branch) (by decide)
      fun calls => (stmtCalls calls).branch
  · exact settles_of_progresses inside (fun calls => (stmts calls).forEach) (by decide)
      fun calls => (stmtCalls calls).forEach
  · exact settles_of_progresses inside (fun calls => (stmts calls).block) (by decide)
      fun calls => (stmtCalls calls).block
  · exact settles_of_progresses inside (fun calls => (exprs calls).expr) (by decide)
      fun calls => (exprCalls calls).expr
  · exact settles_of_progresses inside (fun calls => (exprs calls).conjunction) (by decide)
      fun calls => (exprCalls calls).conjunction
  · exact settles_of_progresses inside (fun calls => (exprs calls).equality) (by decide)
      fun calls => (exprCalls calls).equality
  · exact settles_of_progresses inside (fun calls => (exprs calls).sum) (by decide)
      fun calls => (exprCalls calls).sum
  · exact settles_of_progresses inside (fun calls => (exprs calls).product) (by decide)
      fun calls => (exprCalls calls).product
  · intro operator op operand moves
    exact settles_leftAssoc operator op inside moves
  · exact settles_of_progresses inside (fun calls => (exprs calls).atom) (by decide)
      fun calls => (exprCalls calls).atom
  · intro op
    refine settles_of_moves (fun calls enough => ?_) fun calls => (exprCalls calls).unary op
    rw [callsFor] at enough
    exact (exprs calls).unary op cursor inside (by omega)
  · exact settles_of_progresses inside (fun calls => (exprs calls).paren) (by decide)
      fun calls => (exprCalls calls).paren
  · exact settles_of_progresses inside (fun calls => (exprs calls).vector) (by decide)
      fun calls => (exprCalls calls).vector
  · intro calls enough
    rw [callsFor] at enough
    exact ⟨expr_eq_run inside (by omega), program_eq_run inside (by omega)⟩

/-- The tokens of `(1 + x)`. -/
def bracketedSum : List Token :=
  [.symbol .leftParen, .int 1, .symbol .plus, .name "x", .symbol .rightParen]

/-- Behind the first bracket the sum ends at the other one, both as an expression and as a
chain of operands. -/
theorem descent_settles_of_sum :
    1 ≤ bracketedSum.length ∧ Settles bracketedSum (expr bracketedSum) 1 ∧
      (∀ after, 1 ≤ after → after ≤ bracketedSum.length →
        Moves bracketedSum 1 (atom bracketedSum 34) after) ∧
      Settles bracketedSum
        (leftAssoc bracketedSum (.symbol .plus) .add (atom bracketedSum 34)) 1 ∧
      callsFor 4 ≤ 40 ∧
      expr bracketedSum 40 1 = .ok (.binary .add (.int 1) (.var "x"), 4) := by
  have inside : 1 ≤ bracketedSum.length := by decide
  have enough : callsFor 4 ≤ 40 := by decide
  obtain ⟨-, ⟨settles, -⟩, chains, -, reads⟩ := descent_settles bracketedSum inside
  have moves (after : Nat) (le : 1 ≤ after) (insideAfter : after ≤ bracketedSum.length) :
      Moves bracketedSum 1 (atom bracketedSum 34) after := by
    refine (exprProgress bracketedSum 34).atom after insideAfter ?_
    change 8 * (5 - after) + 2 ≤ 34
    omega
  exact ⟨inside, settles, moves, chains (.symbol .plus) .add _ moves, enough,
    (reads 40 enough).1.trans rfl⟩

end VectorLang.Descent
