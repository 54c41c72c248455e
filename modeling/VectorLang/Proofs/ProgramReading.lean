import VectorLang.Proofs.ExprReading

/-!
# Reading programs by the grammar

The reader takes up exactly the programs of the grammar. A statement ends only where
the next token shows it, so a complete statement may be read to several states: they
go on alike at a semicolon, at the brace of their block and at the end of the input.
-/

namespace VectorLang

namespace Place

/-- The place behind more statements of the same sequence. -/
def pushAll (place : Place) (stmts : List Stmt) : Place :=
  { place with before := stmts.reverse ++ place.before }

theorem pushAll_cons (place : Place) (stmt : Stmt) (rest : List Stmt) :
    place.pushAll (stmt :: rest) = (place.push stmt).pushAll rest := by
  simp [pushAll, push]

theorem finish_pushAll_start (program : Program) :
    (start.pushAll program).finish = .ok program := by
  simp [finish, pushAll, start, block]

end Place

namespace ProgramReader

/-- Take up all tokens, if each can go on the program. -/
def readAll (reader : ProgramReader) (tokens : List Token) : Option ProgramReader :=
  tokens.foldlM read reader

@[simp] theorem readAll_nil (reader : ProgramReader) : reader.readAll [] = some reader := rfl

@[simp] theorem readAll_cons (reader : ProgramReader) (token : Token) (rest : List Token) :
    reader.readAll (token :: rest) = (reader.read token).bind (·.readAll rest) := rfl

@[simp] theorem readAll_append (reader : ProgramReader) (tokens rest : List Token) :
    reader.readAll (tokens ++ rest) = (reader.readAll tokens).bind (·.readAll rest) :=
  List.foldlM_append

/-- A run takes up all tokens, and ends where the program may end. -/
theorem run_eq_ok_iff {reader : ProgramReader} {position : Nat} {tokens : List Token}
    {program : Program} :
    reader.run position tokens = .ok program ↔
      ∃ last, reader.readAll tokens = some last ∧ last.finish = .ok program := by
  induction tokens generalizing reader position with
  | nil =>
      cases finished : reader.finish <;> simp [run, finished]
  | cons token rest ih =>
      rw [run, readAll_cons]
      cases reader.read token with
      | none => simp
      | some next => exact ih

/-! ## Blocks that end -/

/-- What a construct is read on as behind one of its blocks. -/
def afterBlock (opening : Opening) (block : Block) (place : Place) : ProgramReader :=
  match opening with
  | .first condition => .afterBody condition block place
  | opening => .ended (place.push (opening.close block))

theorem closeBlock_eq_some_iff {place : Place} {next : ProgramReader} :
    closeBlock place = some next ↔
      ∃ opening before outer, place.outer = (opening, before) :: outer ∧
        next = afterBlock opening place.block ⟨before, outer⟩ := by
  rcases place with ⟨before, _ | ⟨⟨opening, outerBefore⟩, outer⟩⟩
  · simp [closeBlock]
  · have closed : closeBlock ⟨before, (opening, outerBefore) :: outer⟩ =
        some (afterBlock opening before.reverse ⟨outerBefore, outer⟩) := by
      cases opening <;> rfl
    rw [closed]
    constructor
    · intro equal
      exact ⟨opening, outerBefore, outer, rfl, (Option.some.inj equal).symm⟩
    · intro ⟨_, _, _, same, equal⟩
      cases same
      rw [equal]
      rfl

/-- The brace behind all statements of a block ends the block. -/
theorem closeBlock_enter (place : Place) (opening : Opening) (block : Block) :
    closeBlock ((place.enter opening).pushAll block) = some (afterBlock opening block place) := by
  apply closeBlock_eq_some_iff.mpr
  refine ⟨opening, place.before, place.outer, rfl, ?_⟩
  simp [Place.block, Place.pushAll, Place.enter]

/-! ## Everything spelled is read -/

/-- The reader may end its sequence, behind the last statement before the place. -/
structure Closes (reader : ProgramReader) (place : Place) : Prop where
  finish : reader.finish = place.finish
  closes : reader.read (.symbol .rightBrace) = closeBlock place

/-- The reader stands directly behind the last statement before the place. -/
structure Ends (reader : ProgramReader) (place : Place) : Prop extends Closes reader place where
  separates : reader.read (.symbol .semicolon) = some (.separated place)

theorem ended_ends (place : Place) : Ends (.ended place) place :=
  ⟨⟨rfl, rfl⟩, rfl⟩

theorem afterBody_ends (condition : Expr) (body : Block) (place : Place) :
    Ends (.afterBody condition body place) (place.push (.ifThen condition body)) :=
  ⟨⟨rfl, rfl⟩, rfl⟩

/-- The last semicolon of a sequence is behind its last statement. -/
theorem separated_closes (place : Place) : Closes (.separated place) place :=
  ⟨rfl, rfl⟩

/-- Where an expression may end, a token that is no operator is read behind it. -/
theorem read_behind {purpose : Purpose} {reader : ExprReader} {place : Place} {value : Expr}
    (finished : reader.finish = .ok value) {token : Token}
    (noOperator : BinaryOp.ofToken? token = none) :
    read (.expression purpose reader place) token = readBehind purpose value place token := by
  have stopped : reader.read token = none := by
    rcases reader with ⟨hole, outer⟩ | ⟨operand, pending, _ | ⟨bracket, outer⟩⟩
    · contradiction
    · rw [ExprReader.read.eq_def]
      simp [noOperator]
    · contradiction
  simp [read, stopped, finished]

/-- A statement that ends with an expression ends with it. -/
theorem expression_ends {purpose : Purpose} {reader : ExprReader} {place : Place} {value : Expr}
    (finished : reader.finish = .ok value) {stmt : Stmt}
    (behind : readBehind purpose value place = readEnd (place.push stmt))
    (last : finishBehind purpose value place = (place.push stmt).finish) :
    Ends (.expression purpose reader place) (place.push stmt) := by
  refine ⟨⟨?_, ?_⟩, ?_⟩
  · simpa [finish, finished] using last
  · rw [read_behind finished rfl, behind]
    rfl
  · rw [read_behind finished rfl, behind]
    rfl

theorem read_expression (purpose : Purpose) (place : Place) {reader next : ExprReader}
    {token : Token} (read : reader.read token = some next) :
    ProgramReader.read (.expression purpose reader place) token =
      some (.expression purpose next place) := by
  simp [ProgramReader.read, read]

/-- An expression inside a program is read as it is read alone. -/
theorem readAll_expression (purpose : Purpose) (place : Place) {reader last : ExprReader}
    {tokens : List Token} (read : reader.readAll tokens = some last) :
    readAll (.expression purpose reader place) tokens = some (.expression purpose last place) := by
  induction tokens generalizing reader with
  | nil =>
      cases read
      rfl
  | cons token rest ih =>
      rcases Option.bind_eq_some_iff.mp read with ⟨next, first, rest⟩
      rw [readAll_cons, read_expression purpose place first]
      exact ih rest

/-- A spelled expression is read to a place where it may end. -/
theorem readAll_expect {value : Expr} {tokens : List Token} (spelled : value.Spelled 1 tokens)
    (purpose : Purpose) (place : Place) :
    ∃ reader, readAll (expect purpose place) tokens = some (.expression purpose reader place) ∧
      reader.finish = .ok value := by
  rcases ExprReader.readAll_of_spelled spelled with ⟨reader, read, finished⟩
  exact ⟨reader, readAll_expression purpose place read, finished⟩

/-- A statement is read from any place to its end. -/
def ReadsStmt (tokens : List Token) (stmt : Stmt) : Prop :=
  ∀ place, ∃ reader, readAll (.statement place) tokens = some reader ∧
    Ends reader (place.push stmt)

/-- A sequence is read from any place up to where it may end. -/
def ReadsSeq (tokens : List Token) (stmts : List Stmt) : Prop :=
  ∀ place, ∃ reader, readAll (.statement place) tokens = some reader ∧
    Closes reader (place.pushAll stmts)

/-- A block is read up to its closing brace. -/
theorem ReadsSeq.closes {tokens : List Token} {block : Block} (reads : ReadsSeq tokens block)
    (opening : Opening) (place : Place) :
    readAll (.statement (place.enter opening)) (tokens ++ [.symbol .rightBrace]) =
      some (afterBlock opening block place) := by
  rcases reads (place.enter opening) with ⟨reader, read, closes⟩
  rw [readAll_append, read, Option.bind_some, readAll_cons, closes.closes, closeBlock_enter]
  rfl

theorem ReadsSeq.braced {tokens : List Token} {block : Block} (reads : ReadsSeq tokens block)
    (opening : Opening) (place : Place) :
    readAll (awaitBlock opening place) (Token.braced tokens) =
      some (afterBlock opening block place) :=
  reads.closes opening place

/-- No statement starts with a closing brace. -/
theorem first_of_spelled {tokens : List Token} {stmt : Stmt} (spelled : stmt.Spelled tokens) :
    ∃ first rest, tokens = first :: rest ∧ first ≠ .symbol .rightBrace := by
  cases spelled <;> exact ⟨_, _, rfl, by simp⟩

theorem first_of_spelledSeq {tokens : List Token} {stmts : List Stmt}
    (spelled : Stmt.SpelledSeq tokens stmts) :
    ∃ first rest, tokens = first :: rest ∧ first ≠ .symbol .rightBrace := by
  cases spelled with
  | last spelled => exact first_of_spelled spelled
  | lastEnded spelled | cons spelled =>
      rcases first_of_spelled spelled with ⟨first, rest, rfl, different⟩
      exact ⟨first, _, rfl, different⟩

/-- Behind a semicolon a sequence goes on as it starts. -/
theorem readAll_separated {tokens : List Token} {stmts : List Stmt}
    (spelled : Stmt.SpelledSeq tokens stmts) (place : Place) :
    readAll (.separated place) tokens = readAll (.statement place) tokens := by
  rcases first_of_spelledSeq spelled with ⟨first, rest, rfl, different⟩
  have step : read (.separated place) first = readStart place first := if_neg different
  rw [readAll_cons, readAll_cons, step]
  rfl

mutual

/-- Whatever the grammar spells as a statement is read. -/
theorem readsStmt_of_spelled {tokens : List Token} {stmt : Stmt}
    (spelled : stmt.Spelled tokens) : ReadsStmt tokens stmt := by
  intro place
  cases spelled with
  | declare name value =>
      rcases readAll_expect value (.declare name) place with ⟨reader, read, finished⟩
      exact ⟨_, read, expression_ends finished rfl rfl⟩
  | assign name value =>
      rcases readAll_expect value (.assign name) place with ⟨reader, read, finished⟩
      exact ⟨_, read, expression_ends finished rfl rfl⟩
  | print value =>
      rcases readAll_expect value .print place with ⟨reader, read, finished⟩
      exact ⟨_, read, expression_ends finished rfl rfl⟩
  | @ifThen conditionTokens bodyTokens condition body conditionSpelled bodySpelled =>
      have readsBody := readsSeq_of_spelled bodySpelled
      rcases readAll_expect conditionSpelled .condition place with ⟨reader, read, finished⟩
      refine ⟨.afterBody condition body place, ?_, afterBody_ends condition body place⟩
      change readAll (expect .condition place)
        (conditionTokens ++ .symbol .rightParen :: Token.braced bodyTokens) = _
      rw [readAll_append, read, Option.bind_some, readAll_cons, read_behind finished rfl]
      exact readsBody.braced (.first condition) place
  | @ifElse conditionTokens bodyTokens elseTokens condition body alternative conditionSpelled
      bodySpelled elseSpelled =>
      have readsBody := readsSeq_of_spelled bodySpelled
      have readsElse := readsSeq_of_spelled elseSpelled
      rcases readAll_expect conditionSpelled .condition place with ⟨reader, read, finished⟩
      refine ⟨.ended (place.push (.ifElse condition body alternative)), ?_, ended_ends _⟩
      change readAll (expect .condition place)
        (conditionTokens ++ .symbol .rightParen :: Token.braced bodyTokens ++
          .keyword .otherwise :: Token.braced elseTokens) = _
      rw [readAll_append, readAll_append, read, Option.bind_some, readAll_cons,
        read_behind finished rfl]
      change ((readAll (awaitBlock (.first condition) place) _).bind _) = _
      rw [readsBody.braced (.first condition) place]
      exact readsElse.braced (.second condition body) place
  | @forEach name elementsTokens bodyTokens elements body elementsSpelled bodySpelled =>
      have readsBody := readsSeq_of_spelled bodySpelled
      rcases readAll_expect elementsSpelled (.elements name) place with ⟨reader, read, finished⟩
      refine ⟨.ended (place.push (.forEach name elements body)), ?_, ended_ends _⟩
      change readAll (expect (.elements name) place)
        (elementsTokens ++ Token.braced bodyTokens) = _
      rw [readAll_append, read, Option.bind_some, Token.braced, List.cons_append, readAll_cons,
        read_behind finished rfl]
      exact readsBody.closes (.loop name elements) place

/-- Whatever the grammar spells as a sequence is read. -/
theorem readsSeq_of_spelled {tokens : List Token} {stmts : List Stmt}
    (spelled : Stmt.SpelledSeq tokens stmts) : ReadsSeq tokens stmts := by
  intro place
  cases spelled with
  | last spelled =>
      rcases readsStmt_of_spelled spelled place with ⟨reader, read, ends⟩
      exact ⟨reader, read, ends.toCloses⟩
  | @lastEnded tokens stmt spelled =>
      rcases readsStmt_of_spelled spelled place with ⟨reader, read, ends⟩
      refine ⟨.separated (place.push stmt), ?_, separated_closes _⟩
      rw [readAll_append, read, Option.bind_some, readAll_cons, ends.separates]
      rfl
  | @cons tokens restTokens stmt rest spelled restSpelled =>
      rcases readsStmt_of_spelled spelled place with ⟨reader, read, ends⟩
      rcases readsSeq_of_spelled restSpelled (place.push stmt) with ⟨last, readRest, closes⟩
      refine ⟨last, ?_, ?_⟩
      · rw [readAll_append, read, Option.bind_some, readAll_cons, ends.separates,
          Option.bind_some, readAll_separated restSpelled, readRest]
      · rw [Place.pushAll_cons]
        exact closes

end

/-- A spelled program is read to a place where it may end. -/
theorem readAll_of_spelled {tokens : List Token} {program : Program}
    (spelled : program.Spelled tokens) :
    ∃ last, start.readAll tokens = some last ∧ last.finish = .ok program := by
  rcases readsSeq_of_spelled spelled .start with ⟨last, read, closes⟩
  refine ⟨last, read, ?_⟩
  rw [closes.finish, Place.finish_pushAll_start]

end ProgramReader

/-! ## Everything read is spelled -/

/-- The tokens that stand before an expression, for its purpose. -/
def Purpose.tokens : Purpose → List Token
  | .declare name => [.keyword .declare, .name name, .symbol .assign]
  | .assign name => [.name name, .symbol .assign]
  | .print => [.keyword .print]
  | .condition => [.keyword .branch, .symbol .leftParen]
  | .elements name => [.keyword .each, .name name, .keyword .within]

/-- The token that stands before a name, for its use. -/
def NameUse.token : NameUse → Token
  | .declare => .keyword .declare
  | .loop => .keyword .each

/-- The tokens spell the statements, the last one first, with a semicolon behind each
of them. -/
inductive Stmt.SpelledBefore : List Stmt → List Token → Prop where
  | nil : SpelledBefore [] []
  | cons {before : List Stmt} {stmt : Stmt} {tokens stmtTokens : List Token} :
      SpelledBefore before tokens → stmt.Spelled stmtTokens →
      SpelledBefore (stmt :: before) (tokens ++ stmtTokens ++ [.symbol .semicolon])

theorem Stmt.SpelledBefore.append {before rest : List Stmt} {tokens restTokens : List Token}
    (spelled : SpelledBefore before tokens) (restSpelled : SpelledSeq restTokens rest) :
    SpelledSeq (tokens ++ restTokens) (before.reverse ++ rest) := by
  induction spelled generalizing rest restTokens with
  | nil => exact restSpelled
  | cons _ stmtSpelled ih => simpa using ih (.cons stmtSpelled restSpelled)

/-- The tokens open the construct, up to the block that is being read. -/
inductive Opening.Spelled : Opening → List Token → Prop where
  | first {condition : Expr} {tokens : List Token} :
      condition.Spelled 1 tokens →
      Spelled (.first condition)
        (Purpose.condition.tokens ++ tokens ++ [.symbol .rightParen, .symbol .leftBrace])
  | second {condition : Expr} {body : Block} {tokens : List Token} :
      Stmt.Spelled tokens (.ifThen condition body) →
      Spelled (.second condition body) (tokens ++ [.keyword .otherwise, .symbol .leftBrace])
  | loop {name : Name} {elements : Expr} {tokens : List Token} :
      elements.Spelled 1 tokens →
      Spelled (.loop name elements)
        ((Purpose.elements name).tokens ++ tokens ++ [.symbol .leftBrace])

namespace Place

/-- The tokens lead to a statement at the place. -/
inductive Starts : Place → List Token → Prop where
  | outermost {before : List Stmt} {tokens : List Token} :
      Stmt.SpelledBefore before tokens → Starts ⟨before, []⟩ tokens
  | within {before outerBefore : List Stmt} {outer : List (Opening × List Stmt)}
      {opening : Opening} {tokens openingTokens beforeTokens : List Token} :
      Starts ⟨outerBefore, outer⟩ tokens → opening.Spelled openingTokens →
      Stmt.SpelledBefore before beforeTokens →
      Starts ⟨before, (opening, outerBefore) :: outer⟩ (tokens ++ openingTokens ++ beforeTokens)

/-- The tokens lead to the end of the sequence that ends before the place. -/
inductive Behind : Place → List Token → Prop where
  | last {place : Place} {stmt : Stmt} {tokens stmtTokens : List Token} :
      place.Starts tokens → Stmt.SpelledSeq stmtTokens [stmt] →
      Behind (place.push stmt) (tokens ++ stmtTokens)

variable {place : Place} {tokens : List Token}

theorem Starts.push (starts : place.Starts tokens) {stmt : Stmt} {stmtTokens : List Token}
    (spelled : stmt.Spelled stmtTokens) :
    (place.push stmt).Starts (tokens ++ stmtTokens ++ [.symbol .semicolon]) := by
  cases starts with
  | outermost before => exact .outermost (before.cons spelled)
  | within outer opening before =>
      simpa [Place.push] using Starts.within outer opening (before.cons spelled)

theorem Starts.enter (starts : place.Starts tokens) {opening : Opening}
    {openingTokens : List Token} (spelled : opening.Spelled openingTokens) :
    (place.enter opening).Starts (tokens ++ openingTokens) := by
  simpa [Place.enter] using Starts.within starts spelled .nil

/-- What a sequence at top level consists of. -/
theorem Behind.whole (behind : place.Behind tokens) (outermost : place.outer = []) :
    Stmt.SpelledSeq tokens place.block := by
  cases behind with
  | last starts spelled =>
      cases starts with
      | outermost before => simpa [block, Place.push] using before.append spelled
      | within => contradiction

/-- What a sequence in a block consists of, and where the block stands. -/
theorem Behind.inner (behind : place.Behind tokens) {opening : Opening} {before : List Stmt}
    {outer : List (Opening × List Stmt)} (nested : place.outer = (opening, before) :: outer) :
    ∃ outerTokens openingTokens blockTokens,
      tokens = outerTokens ++ openingTokens ++ blockTokens ∧
      Starts ⟨before, outer⟩ outerTokens ∧ opening.Spelled openingTokens ∧
      Stmt.SpelledSeq blockTokens place.block := by
  cases behind with
  | last starts spelled =>
      cases starts with
      | outermost => contradiction
      | within outside opening before =>
          cases nested
          refine ⟨_, _, _, List.append_assoc _ _ _, outside, opening, ?_⟩
          simpa [block, Place.push] using before.append spelled

end Place

namespace ProgramReader

/-- The unfinished program that the tokens lead to. -/
inductive Reached : ProgramReader → List Token → Prop where
  | statement {place : Place} {tokens : List Token} :
      place.Starts tokens → Reached (.statement place) tokens
  | separated {place : Place} {stmt : Stmt} {tokens stmtTokens : List Token} :
      place.Starts tokens → stmt.Spelled stmtTokens →
      Reached (.separated (place.push stmt)) (tokens ++ stmtTokens ++ [.symbol .semicolon])
  | naming {use : NameUse} {place : Place} {tokens : List Token} :
      place.Starts tokens → Reached (.naming use place) (tokens ++ [use.token])
  | await {expected : Token} {next : ProgramReader} {tokens : List Token} :
      Reached next (tokens ++ [expected]) → Reached (.await expected next) tokens
  | expression {purpose : Purpose} {reader : ExprReader} {place : Place}
      {tokens valueTokens : List Token} :
      place.Starts tokens → reader.Reached valueTokens →
      Reached (.expression purpose reader place) (tokens ++ purpose.tokens ++ valueTokens)
  | ended {place : Place} {stmt : Stmt} {tokens stmtTokens : List Token} :
      place.Starts tokens → stmt.Spelled stmtTokens →
      Reached (.ended (place.push stmt)) (tokens ++ stmtTokens)
  | afterBody {condition : Expr} {body : Block} {place : Place}
      {tokens stmtTokens : List Token} :
      place.Starts tokens → Stmt.Spelled stmtTokens (.ifThen condition body) →
      Reached (.afterBody condition body place) (tokens ++ stmtTokens)

variable {place : Place} {tokens : List Token} {token : Token} {next : ProgramReader}

theorem expect_reached (starts : place.Starts tokens) (purpose : Purpose) :
    (expect purpose place).Reached (tokens ++ purpose.tokens) := by
  simpa [expect] using @Reached.expression purpose _ _ _ _ starts ExprReader.start_reached

/-- The first token of a statement leads into the statement. -/
theorem readStart_reached (starts : place.Starts tokens)
    (read : readStart place token = some next) : next.Reached (tokens ++ [token]) := by
  unfold readStart at read
  split at read
  · cases read
    exact expect_reached starts .print
  · cases read
    exact .naming starts
  · next text =>
      cases read
      exact .await (by simpa [Purpose.tokens] using expect_reached starts (.assign text))
  · cases read
    exact .await (by simpa [Purpose.tokens] using expect_reached starts .condition)
  · cases read
    exact .naming starts
  · contradiction

/-- A name leads to what it is read for. -/
theorem afterName_reached (starts : place.Starts tokens) (use : NameUse) (name : Name) :
    (afterName use place name).Reached (tokens ++ [use.token] ++ [.name name]) := by
  cases use with
  | declare =>
      exact .await (by
        simpa [Purpose.tokens, NameUse.token] using expect_reached starts (.declare name))
  | loop =>
      exact .await (by
        simpa [Purpose.tokens, NameUse.token] using expect_reached starts (.elements name))

/-- The last token of a block leads behind the block. -/
theorem afterBlock_reached {opening : Opening} {openingTokens blockTokens : List Token}
    {block : Block} (starts : place.Starts tokens) (opened : opening.Spelled openingTokens)
    (spelled : Stmt.SpelledSeq blockTokens block) :
    (afterBlock opening block place).Reached
      (tokens ++ openingTokens ++ blockTokens ++ [.symbol .rightBrace]) := by
  cases opened with
  | first condition =>
      have reached := Reached.afterBody starts (.ifThen condition spelled)
      simpa [afterBlock, Purpose.tokens, Token.braced] using reached
  | second body =>
      cases body with
      | ifThen condition body =>
          have reached := Reached.ended starts (.ifElse condition body spelled)
          simpa [afterBlock, Opening.close, Token.braced] using reached
  | @loop name _ _ elements =>
      have reached := Reached.ended starts (.forEach name elements spelled)
      simpa [afterBlock, Opening.close, Purpose.tokens, Token.braced] using reached

/-- A closing brace leads behind the innermost block. -/
theorem closeBlock_reached (behind : place.Behind tokens)
    (closed : closeBlock place = some next) :
    next.Reached (tokens ++ [.symbol .rightBrace]) := by
  rcases closeBlock_eq_some_iff.mp closed with ⟨opening, before, outer, nested, rfl⟩
  rcases behind.inner nested with
    ⟨outerTokens, openingTokens, blockTokens, rfl, starts, opened, spelled⟩
  exact afterBlock_reached starts opened spelled

/-- The token behind a statement leads on in its sequence, or ends it. -/
theorem readEnd_reached {stmt : Stmt} {stmtTokens : List Token} (starts : place.Starts tokens)
    (spelled : stmt.Spelled stmtTokens) (read : readEnd (place.push stmt) token = some next) :
    next.Reached (tokens ++ stmtTokens ++ [token]) := by
  unfold readEnd at read
  split at read
  · cases read
    exact .separated starts spelled
  · exact closeBlock_reached (.last starts (.last spelled)) read
  · contradiction

/-- The token behind an expression leads on in the statement, or ends it. -/
theorem readBehind_reached {purpose : Purpose} {value : Expr} {valueTokens : List Token}
    (starts : place.Starts tokens) (spelled : value.Spelled 1 valueTokens)
    (read : readBehind purpose value place token = some next) :
    next.Reached (tokens ++ purpose.tokens ++ valueTokens ++ [token]) := by
  cases purpose with
  | declare name => simpa [Purpose.tokens] using readEnd_reached starts (.declare name spelled) read
  | assign name => simpa [Purpose.tokens] using readEnd_reached starts (.assign name spelled) read
  | print => simpa [Purpose.tokens] using readEnd_reached starts (.print spelled) read
  | condition =>
      rcases Option.ite_none_right_eq_some.mp read with ⟨rfl, equal⟩
      cases equal
      exact .await (.statement (by simpa using starts.enter (.first spelled)))
  | elements name =>
      rcases Option.ite_none_right_eq_some.mp read with ⟨rfl, equal⟩
      cases equal
      exact .statement (by simpa using starts.enter (.loop spelled))

/-- One more token leads one step further. -/
theorem Reached.read {reader : ProgramReader} (reached : reader.Reached tokens)
    (read : reader.read token = some next) : next.Reached (tokens ++ [token]) := by
  cases reached with
  | statement starts => exact readStart_reached starts read
  | separated starts spelled =>
      unfold ProgramReader.read at read
      dsimp only at read
      split at read
      · next closes =>
          subst closes
          simpa using closeBlock_reached (.last starts (.lastEnded spelled)) read
      · exact readStart_reached (starts.push spelled) read
  | @naming use place tokens starts =>
      unfold ProgramReader.read at read
      dsimp only at read
      split at read
      · cases read
        exact afterName_reached starts use _
      · contradiction
  | await reached =>
      rcases Option.ite_none_right_eq_some.mp read with ⟨rfl, equal⟩
      cases equal
      exact reached
  | expression starts value =>
      unfold ProgramReader.read at read
      dsimp only at read
      split at read
      · next goes =>
          cases read
          simpa using Reached.expression starts (value.read goes)
      · split at read
        · next finished => exact readBehind_reached starts (value.finish finished) read
        · contradiction
  | ended starts spelled => exact readEnd_reached starts spelled read
  | afterBody starts spelled =>
      unfold ProgramReader.read at read
      dsimp only at read
      split at read
      · next alternative =>
          subst alternative
          cases read
          exact .await (.statement (by simpa using starts.enter (.second spelled)))
      · exact readEnd_reached starts spelled read

/-- All tokens lead further one by one. -/
theorem Reached.readAll {reader : ProgramReader} {more : List Token}
    (reached : reader.Reached tokens) (read : reader.readAll more = some next) :
    next.Reached (tokens ++ more) := by
  induction more generalizing reader tokens with
  | nil =>
      cases read
      simpa using reached
  | cons token rest ih =>
      rcases Option.bind_eq_some_iff.mp read with ⟨middle, first, rest⟩
      simpa using ih (reached.read first) rest

/-- The end of the input ends a sequence at top level only. -/
theorem finish_of_behind (behind : place.Behind tokens) {program : Program}
    (finished : place.finish = .ok program) : program.Spelled tokens := by
  unfold Place.finish at finished
  split at finished
  · next outermost =>
      cases finished
      exact behind.whole outermost
  · contradiction

/-- A program that may end was spelled. -/
theorem Reached.finish {reader : ProgramReader} (reached : reader.Reached tokens)
    {program : Program} (finished : reader.finish = .ok program) : program.Spelled tokens := by
  cases reached with
  | statement | naming | await => contradiction
  | separated starts spelled =>
      simpa using finish_of_behind (.last starts (.lastEnded spelled)) finished
  | @expression purpose reader place tokens valueTokens starts value =>
      unfold ProgramReader.finish at finished
      dsimp only at finished
      split at finished
      · next complete =>
          have spelled := value.finish complete
          cases purpose with
          | declare name =>
              have behind := Place.Behind.last starts (.last (.declare name spelled))
              simpa [Purpose.tokens] using finish_of_behind behind finished
          | assign name =>
              have behind := Place.Behind.last starts (.last (.assign name spelled))
              simpa [Purpose.tokens] using finish_of_behind behind finished
          | print =>
              have behind := Place.Behind.last starts (.last (.print spelled))
              simpa [Purpose.tokens] using finish_of_behind behind finished
          | condition | elements => contradiction
      · contradiction
  | ended starts spelled => exact finish_of_behind (.last starts (.last spelled)) finished
  | afterBody starts spelled => exact finish_of_behind (.last starts (.last spelled)) finished

theorem start_reached : start.Reached [] :=
  .statement (.outermost .nil)

/-- The reader takes up a whole program exactly where the grammar spells one. -/
theorem readAll_finish_iff {tokens : List Token} {program : Program} :
    (∃ last, start.readAll tokens = some last ∧ last.finish = .ok program) ↔
      program.Spelled tokens := by
  constructor
  · intro ⟨last, read, finished⟩
    exact (start_reached.readAll read).finish finished
  · exact readAll_of_spelled

end ProgramReader

namespace Program

theorem ofTokens_eq_ok_iff {tokens : List Located} {program : Program} :
    ofTokens tokens = .ok program ↔ program.Spelled (tokens.map (·.token)) := by
  rw [← ProgramReader.readAll_finish_iff, ← @ProgramReader.run_eq_ok_iff _ 0, ofTokens]
  cases ProgramReader.start.run 0 (tokens.map (·.token)) <;> simp

/-- A token list spells one program at most. -/
theorem Spelled.unique {tokens : List Token} {left right : Program}
    (leftSpelled : left.Spelled tokens) (rightSpelled : right.Spelled tokens) : left = right := by
  rcases ProgramReader.readAll_of_spelled leftSpelled with ⟨last, read, finished⟩
  rcases ProgramReader.readAll_of_spelled rightSpelled with ⟨other, readOther, finishedOther⟩
  have same := Option.some.inj (read.symm.trans readOther)
  rw [same, finishedOther] at finished
  exact (Except.ok.inj finished).symm

/-- The reader accepts what the grammar spells, with its only tree, wherever the tokens
stand in the text. -/
theorem ofTokens_grammar (tokens : List Located) :
    (∀ program : Program,
      ofTokens tokens = .ok program ↔ program.Spelled (tokens.map (·.token))) ∧
    (∀ left right : Program, left.Spelled (tokens.map (·.token)) →
      right.Spelled (tokens.map (·.token)) → left = right) ∧
    ∀ moved : List Located, moved.map (·.token) = tokens.map (·.token) →
      ∀ program : Program, ofTokens moved = .ok program ↔ ofTokens tokens = .ok program := by
  refine ⟨?_, ?_, ?_⟩
  · intro program
    exact ofTokens_eq_ok_iff
  · intro left right leftSpelled rightSpelled
    exact leftSpelled.unique rightSpelled
  · intro moved same program
    rw [ofTokens_eq_ok_iff, ofTokens_eq_ok_iff, same]

/-- Sums associate to the left, around a product, and a semicolon may come last. -/
theorem ofTokens_grammar_of_sum :
    Spelled
      [.keyword .print, .int 1, .symbol .plus, .int 2, .symbol .star, .int 3, .symbol .plus,
        .int 4, .symbol .semicolon]
      [.print (.binary .add (.binary .add (.int 1) (.binary .mul (.int 2) (.int 3)))
        (.int 4))] := by
  have read : ofTokens
      [⟨.keyword .print, 0, 5, 1⟩, ⟨.int 1, 6, 7, 1⟩, ⟨.symbol .plus, 8, 9, 1⟩, ⟨.int 2, 10, 11, 2⟩,
        ⟨.symbol .star, 12, 13, 2⟩, ⟨.int 3, 14, 15, 2⟩, ⟨.symbol .plus, 16, 17, 3⟩,
        ⟨.int 4, 18, 19, 3⟩, ⟨.symbol .semicolon, 19, 20, 3⟩] =
      .ok [.print (.binary .add (.binary .add (.int 1) (.binary .mul (.int 2) (.int 3)))
        (.int 4))] := rfl
  exact ((ofTokens_grammar _).1 _).mp read

end Program

end VectorLang
