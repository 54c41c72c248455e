import VectorLang.Reader.Expr

/-!
# Reading programs

A program is read token by token. Between two tokens there is an unfinished
program: the statements before the present place, the constructs whose blocks
are still open, and what the token list has to go on with. A semicolon separates
statements; the last one of a sequence may be followed by one.
-/

namespace VectorLang

/-- A construct whose block is being read. -/
inductive Opening where
  | first (condition : Expr)
  | second (condition : Expr) (body : Block)
  | loop (name : Name) (elements : Expr)
  deriving Repr

/-- The statement that a construct becomes with its last block. -/
def Opening.close (block : Block) : Opening → Stmt
  | .first condition => .ifThen condition block
  | .second condition body => .ifElse condition body block
  | .loop name elements => .forEach name elements block

/-- Where a statement stands: behind the statements `before`, the last one first,
and within open constructs, from the inside out, each of them behind statements
of its own. -/
structure Place where
  before : List Stmt
  outer : List (Opening × List Stmt)
  deriving Repr

namespace Place

/-- The place of the first statement of a program. -/
def start : Place := ⟨[], []⟩

/-- The place behind the statement `stmt`. -/
def push (place : Place) (stmt : Stmt) : Place :=
  { place with before := stmt :: place.before }

/-- The place of the first statement in the block of `opening`. -/
def enter (place : Place) (opening : Opening) : Place :=
  ⟨[], (opening, place.before) :: place.outer⟩

/-- The statements before the place, in their order. -/
def block (place : Place) : Block := place.before.reverse

/-- The whole program, if no block is open, and else the brace that is missing. -/
def finish (place : Place) : Except Wanted Program :=
  match place.outer with
  | [] => .ok place.block
  | _ :: _ => .error (.token (.symbol .rightBrace))

end Place

/-- What an expression is read for. -/
inductive Purpose where
  | declare (name : Name)
  | assign (name : Name)
  | print
  | condition
  | elements (name : Name)
  deriving DecidableEq, Repr

/-- What a name is read for. -/
inductive NameUse where
  | declare
  | loop
  deriving DecidableEq, Repr

/-- An unfinished program. -/
inductive ProgramReader where
  /-- A statement has to come next. -/
  | statement (place : Place)
  /-- A semicolon came last: a statement or the end of the sequence comes next. -/
  | separated (place : Place)
  /-- A name has to come next. -/
  | naming (use : NameUse) (place : Place)
  /-- The token `expected` has to come next, and then what `next` says. -/
  | await (expected : Token) (next : ProgramReader)
  /-- An expression has begun. -/
  | expression (purpose : Purpose) (reader : ExprReader) (place : Place)
  /-- A statement is complete. -/
  | ended (place : Place)
  /-- An `if` with its first block is complete; an alternative may come next. -/
  | afterBody (condition : Expr) (body : Block) (place : Place)
  deriving Repr

namespace ProgramReader

/-- Before the first token. -/
def start : ProgramReader := .statement .start

/-- Read an expression. -/
def expect (purpose : Purpose) (place : Place) : ProgramReader :=
  .expression purpose .start place

/-- Read the first statement of a block behind its opening brace. -/
def awaitBlock (opening : Opening) (place : Place) : ProgramReader :=
  .await (.symbol .leftBrace) (.statement (place.enter opening))

/-- Go on behind a name. -/
def afterName (use : NameUse) (place : Place) (name : Name) : ProgramReader :=
  match use with
  | .declare => .await (.symbol .assign) (expect (.declare name) place)
  | .loop => .await (.keyword .within) (expect (.elements name) place)

/-- Close the innermost block, if there is one. -/
def closeBlock (place : Place) : Option ProgramReader :=
  match place.outer with
  | [] => none
  | (.first condition, before) :: outer =>
      some (.afterBody condition place.block ⟨before, outer⟩)
  | (opening, before) :: outer =>
      some (.ended (Place.push ⟨before, outer⟩ (opening.close place.block)))

/-- Take up the token behind a complete statement. -/
def readEnd (place : Place) : Token → Option ProgramReader
  | .symbol .semicolon => some (.separated place)
  | .symbol .rightBrace => closeBlock place
  | _ => none

/-- Take up the first token of a statement. -/
def readStart (place : Place) : Token → Option ProgramReader
  | .keyword .print => some (expect .print place)
  | .keyword .declare => some (.naming .declare place)
  | .name text => some (.await (.symbol .assign) (expect (.assign text) place))
  | .keyword .branch => some (.await (.symbol .leftParen) (expect .condition place))
  | .keyword .each => some (.naming .loop place)
  | _ => none

/-- Take up the token behind a complete expression. -/
def readBehind (purpose : Purpose) (value : Expr) (place : Place) (token : Token) :
    Option ProgramReader :=
  match purpose with
  | .declare name => readEnd (place.push (.declare name value)) token
  | .assign name => readEnd (place.push (.assign name value)) token
  | .print => readEnd (place.push (.print value)) token
  | .condition =>
      if token = .symbol .rightParen then some (awaitBlock (.first value) place) else none
  | .elements name =>
      if token = .symbol .leftBrace then some (.statement (place.enter (.loop name value)))
      else none

/-- Take up one token, if it can go on the program here. -/
def read : ProgramReader → Token → Option ProgramReader
  | .statement place, token => readStart place token
  | .separated place, token =>
      if token = .symbol .rightBrace then closeBlock place else readStart place token
  | .naming use place, token =>
      match token with
      | .name text => some (afterName use place text)
      | _ => none
  | .await expected next, token => if token = expected then some next else none
  | .expression purpose reader place, token =>
      match reader.read token with
      | some reader => some (.expression purpose reader place)
      | none =>
          match reader.finish with
          | .ok value => readBehind purpose value place token
          | .error _ => none
  | .ended place, token => readEnd place token
  | .afterBody condition body place, token =>
      if token = .keyword .otherwise then
        some (awaitBlock (.second condition body) place)
      else readEnd (place.push (.ifThen condition body)) token

/-- End the program behind a complete expression. -/
def finishBehind (purpose : Purpose) (value : Expr) (place : Place) : Except Wanted Program :=
  match purpose with
  | .declare name => (place.push (.declare name value)).finish
  | .assign name => (place.push (.assign name value)).finish
  | .print => (place.push (.print value)).finish
  | .condition => .error (.token (.symbol .rightParen))
  | .elements _ => .error (.token (.symbol .leftBrace))

/-- The program, if it may end here, and else what has to come next. -/
def finish : ProgramReader → Except Wanted Program
  | .statement _ => .error .phrase
  | .separated place => place.finish
  | .naming _ _ => .error .name
  | .await expected _ => .error (.token expected)
  | .expression purpose reader place =>
      match reader.finish with
      | .ok value => finishBehind purpose value place
      | .error wanted => .error wanted
  | .ended place => place.finish
  | .afterBody condition body place => (place.push (.ifThen condition body)).finish

/-- What was wanted instead of `token`, which cannot go on the program here. -/
def refusal (reader : ProgramReader) (token : Token) : Wanted :=
  match reader with
  | .separated _ => if token = .symbol .rightBrace then .endOfInput else .phrase
  | reader =>
      match reader.finish with
      | .ok _ => .endOfInput
      | .error wanted => wanted

/-- Take up all tokens. `position` counts the tokens taken up; at an error it
comes back with what was wanted. -/
def run (reader : ProgramReader) (position : Nat) : List Token → Except (Wanted × Nat) Program
  | [] =>
      match reader.finish with
      | .ok program => .ok program
      | .error wanted => .error (wanted, position)
  | token :: rest =>
      match reader.read token with
      | some next => run next (position + 1) rest
      | none => .error (reader.refusal token, position)

end ProgramReader

namespace Program

/-- The program that a token list spells, or the first token that none spells. -/
def ofTokens (tokens : List Located) : Except SyntaxError Program :=
  match ProgramReader.start.run 0 (tokens.map (·.token)) with
  | .ok program => .ok program
  | .error (wanted, position) => .error (.ofPosition tokens wanted position)

end Program

end VectorLang
