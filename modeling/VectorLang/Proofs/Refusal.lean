import VectorLang.Proofs.ProgramReading

/-!
# The first impossible token

Every unfinished expression and every unfinished program can be completed, whatever it
holds so far. So the tokens before a refused one are the beginning of some program, and
with the refused one they are not.
-/

namespace VectorLang

/-! ## Unfinished expressions -/

namespace ExprReader

/-- Some tokens lead to where the expression may end. -/
def Completable (reader : ExprReader) : Prop :=
  ∃ tokens last value, reader.readAll tokens = some last ∧ last.finish = .ok value

theorem Completable.of_read {reader next : ExprReader} (completable : next.Completable)
    (token : Token) (read : reader.read token = some next) : reader.Completable := by
  rcases completable with ⟨tokens, last, value, rest, finished⟩
  exact ⟨token :: tokens, last, value, by rw [readAll_cons, read]; exact rest, finished⟩

/-- Behind an operand the brackets are closed from the inside out; a length gets an index
first. -/
theorem operator_completable (value : Expr) (pending : List Pending)
    (outer : List (Bracket × Hole)) : (operator value pending outer).Completable := by
  induction outer generalizing value pending with
  | nil => exact ⟨[], _, _, rfl, rfl⟩
  | cons entry outer ih =>
      rcases entry with ⟨bracket, hole⟩
      have closed := read_closing bracket hole value pending outer
      cases bracket with
      | paren | index => exact (ih _ _).of_read _ closed
      | length =>
          have indexClosed := read_closing (.index (Pending.closeAll value pending)) hole
            (.int 0) [] outer
          exact (((ih _ _).of_read _ indexClosed).of_read (.int 0) rfl).of_read _ closed

/-- Every unfinished expression can be completed. -/
theorem completable (reader : ExprReader) : reader.Completable := by
  cases reader with
  | operand hole outer => exact (operator_completable _ _ outer).of_read (.int 0) rfl
  | operator value pending outer => exact operator_completable value pending outer

end ExprReader

/-! ## Unfinished programs -/

namespace ProgramReader

/-- Some tokens lead to where the program may end. -/
def Completable (reader : ProgramReader) : Prop :=
  ∃ tokens last program, reader.readAll tokens = some last ∧ last.finish = .ok program

theorem Completable.of_readAll {reader next : ProgramReader} {tokens : List Token}
    (completable : next.Completable) (read : reader.readAll tokens = some next) :
    reader.Completable := by
  rcases completable with ⟨more, last, program, rest, finished⟩
  exact ⟨tokens ++ more, last, program, by rw [readAll_append, read]; exact rest, finished⟩

theorem Completable.of_read {reader next : ProgramReader} (completable : next.Completable)
    (token : Token) (read : reader.read token = some next) : reader.Completable :=
  have readOne : reader.readAll [token] = some next := by rw [readAll_cons, read]; rfl
  completable.of_readAll readOne

theorem afterBlock_ends (opening : Opening) (block : Block) (place : Place) :
    Ends (afterBlock opening block place) (place.push (opening.close block)) := by
  cases opening with
  | first condition => exact afterBody_ends condition block place
  | second | loop => exact ended_ends _

/-- Behind a statement the open blocks are closed from the inside out. -/
theorem Closes.completable {reader : ProgramReader} {place : Place}
    (closes : Closes reader place) : reader.Completable := by
  rcases place with ⟨before, outer⟩
  -- a closed block is the last statement of the one around it
  induction outer generalizing reader before with
  | nil => exact ⟨[], reader, _, rfl, closes.finish⟩
  | cons entry outer ih =>
      rcases entry with ⟨opening, outerBefore⟩
      have ends := afterBlock_ends opening before.reverse ⟨outerBefore, outer⟩
      have closed : closeBlock ⟨before, (opening, outerBefore) :: outer⟩ =
          some (afterBlock opening before.reverse ⟨outerBefore, outer⟩) :=
        closeBlock_eq_some_iff.mpr ⟨_, _, _, rfl, rfl⟩
      exact (ih _ ends.toCloses).of_read _ (closes.closes.trans closed)

theorem statement_completable (place : Place) : (statement place).Completable := by
  rcases readsStmt_of_spelled (.print ((Expr.Spelled.int 0).lower (Nat.le_refl 1) (by decide)))
    place with ⟨reader, read, ends⟩
  exact ends.toCloses.completable.of_readAll read

theorem await_completable (expected : Token) {next : ProgramReader}
    (completable : next.Completable) : (await expected next).Completable :=
  completable.of_read expected (if_pos rfl)

/-- Behind a complete expression its statement goes on, or ends. -/
theorem behind_completable (purpose : Purpose) {reader : ExprReader} (place : Place)
    {value : Expr} (finished : reader.finish = .ok value) :
    (expression purpose reader place).Completable := by
  cases purpose with
  | declare | assign | print => exact (expression_ends finished rfl rfl).toCloses.completable
  | condition =>
      have block := await_completable (.symbol .leftBrace)
        (statement_completable (place.enter (.first value)))
      exact block.of_read _ ((read_behind finished rfl).trans (if_pos rfl))
  | elements name =>
      have block := statement_completable (place.enter (.loop name value))
      exact block.of_read _ ((read_behind finished rfl).trans (if_pos rfl))

theorem expression_completable (purpose : Purpose) (reader : ExprReader) (place : Place) :
    (expression purpose reader place).Completable := by
  rcases reader.completable with ⟨tokens, last, value, read, finished⟩
  exact (behind_completable purpose place finished).of_readAll
    (readAll_expression purpose place read)

theorem afterName_completable (use : NameUse) (place : Place) (name : Name) :
    (afterName use place name).Completable := by
  cases use with
  | declare | loop => exact await_completable _ (expression_completable _ _ _)

/-- Every unfinished program can be completed. -/
theorem completable (reader : ProgramReader) : reader.Completable := by
  induction reader with
  | statement place => exact statement_completable place
  | separated place => exact (separated_closes place).completable
  | naming use place =>
      exact (afterName_completable use place "x").of_read (.name "x") rfl
  | await expected next ih => exact await_completable expected ih
  | expression purpose reader place => exact expression_completable purpose reader place
  | ended place => exact (ended_ends place).toCloses.completable
  | afterBody condition body place =>
      exact (afterBody_ends condition body place).toCloses.completable

/-! ## What was wanted -/

/-- What is wanted can be taken up. -/
def Takes (reader : ProgramReader) : Wanted → Prop
  | .phrase => True
  | .token expected => ∃ next, reader.read expected = some next
  | .name => ∀ name, ∃ next, reader.read (.name name) = some next
  | .endOfInput => ∃ program, reader.finish = .ok program

/-- A sequence that may not end in its block ends with the block. -/
theorem Closes.takes {reader : ProgramReader} {place : Place} (closes : Closes reader place)
    {wanted : Wanted} (unfinished : reader.finish = .error wanted) : reader.Takes wanted := by
  rw [closes.finish] at unfinished
  unfold Place.finish at unfinished
  split at unfinished
  · contradiction
  · next entry outer nested =>
      cases unfinished
      exact ⟨_, closes.closes.trans (closeBlock_eq_some_iff.mpr ⟨_, _, _, nested, rfl⟩)⟩

/-- A brace is refused only behind the last block, where the program may end. -/
theorem finish_of_closeBlock {place : Place} (refused : closeBlock place = none) :
    place.finish = .ok place.block := by
  rcases place with ⟨before, _ | ⟨⟨opening, outerBefore⟩, outer⟩⟩
  · rfl
  · rw [closeBlock_eq_some_iff.mpr ⟨_, _, _, rfl, rfl⟩] at refused
    contradiction

/-- What an unfinished expression wants, its statement wants. -/
theorem expression_takes {purpose : Purpose} {reader : ExprReader} {place : Place}
    {wanted : Wanted} (unfinished : reader.finish = .error wanted) :
    (expression purpose reader place).Takes wanted := by
  rcases reader with ⟨hole, outer⟩ | ⟨value, pending, _ | ⟨⟨bracket, hole⟩, outer⟩⟩
  · cases unfinished
    trivial
  · contradiction
  · cases unfinished
    have closed := ExprReader.read_closing bracket hole value pending outer
    exact ⟨_, read_expression purpose place closed⟩

/-- Behind a complete expression its statement wants what may stand there. -/
theorem behind_takes {purpose : Purpose} {reader : ExprReader} {place : Place} {value : Expr}
    (finished : reader.finish = .ok value) {wanted : Wanted}
    (unfinished : (expression purpose reader place).finish = .error wanted) :
    (expression purpose reader place).Takes wanted := by
  cases purpose with
  | declare | assign | print => exact (expression_ends finished rfl rfl).toCloses.takes unfinished
  | condition | elements =>
      rw [finish, finished] at unfinished
      cases unfinished
      exact ⟨_, (read_behind finished rfl).trans rfl⟩

/-- At the end of the input, what is wanted can be taken up. -/
theorem takes_of_finish {reader : ProgramReader} {wanted : Wanted}
    (unfinished : reader.finish = .error wanted) : reader.Takes wanted := by
  cases reader with
  | statement place =>
      cases unfinished
      trivial
  | separated place => exact (separated_closes place).takes unfinished
  | naming use place =>
      cases unfinished
      exact fun name => ⟨_, rfl⟩
  | await expected next =>
      cases unfinished
      exact ⟨next, if_pos rfl⟩
  | expression purpose reader place =>
      cases finished : reader.finish with
      | ok value => exact behind_takes finished unfinished
      | error missing =>
          rw [finish, finished] at unfinished
          cases unfinished
          exact expression_takes finished
  | ended place => exact (ended_ends place).toCloses.takes unfinished
  | afterBody condition body place =>
      exact (afterBody_ends condition body place).toCloses.takes unfinished

/-- Where a token is refused, what is wanted instead can be taken up. -/
theorem takes_of_refusal {reader : ProgramReader} {token : Token}
    (refused : reader.read token = none) : reader.Takes (reader.refusal token) := by
  cases reader with
  | separated place =>
      by_cases closing : token = .symbol .rightBrace
      · rw [refusal, if_pos closing]
        rw [closing] at refused
        exact ⟨place.block, finish_of_closeBlock refused⟩
      · rw [refusal, if_neg closing]
        trivial
  | statement | naming | await | expression | ended | afterBody =>
      unfold refusal
      dsimp only
      split
      · next program finished => exact ⟨program, finished⟩
      · next wanted unfinished => exact takes_of_finish unfinished

/-- The unfinished program refuses what was found, the end of the input included, and
wants something else. -/
def Refuses (reader : ProgramReader) (wanted : Wanted) : Option Token → Prop
  | none => reader.finish = .error wanted
  | some token => reader.read token = none ∧ reader.refusal token = wanted

theorem Refuses.takes {reader : ProgramReader} {wanted : Wanted} {found : Option Token}
    (refuses : reader.Refuses wanted found) : reader.Takes wanted := by
  cases found with
  | none => exact takes_of_finish refuses
  | some token =>
      rcases refuses with ⟨refused, rfl⟩
      exact takes_of_refusal refused

end ProgramReader

/-! ## Token lists that go on -/

namespace Program

end Program

/-! ## Errors -/

namespace SyntaxError

end SyntaxError

namespace Program

end Program

end VectorLang
