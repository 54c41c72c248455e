import VectorLang.Token

/-!
# Syntax errors

A token list that is no program is refused at its first impossible token, with
what could have stood there instead.
-/

namespace VectorLang

/-- What could have stood where a token was refused. -/
inductive Wanted where
  /-- The start of a statement or of an operand. -/
  | phrase
  | token (expected : Token)
  | name
  | endOfInput
  deriving DecidableEq, Repr

/-- How messages show what was wanted. -/
def Wanted.display : Wanted → String
  | .phrase => "a statement or an operand"
  | .token expected => expected.display
  | .name => "an identifier"
  | .endOfInput => "end of input"

/-- How messages show the token that was found, if any was left. -/
def Token.displayFound : Option Token → String
  | some token => token.display
  | none => "end of input"

/-- The refusal of a token, or of the end of the input. -/
structure SyntaxError where
  wanted : Wanted
  found : Option Token
  line : Nat
  deriving DecidableEq, Repr

namespace SyntaxError

/-- The wording of a syntax error, without its place. -/
def complaint (error : SyntaxError) : String :=
  match error.wanted with
  | .phrase => s!"unexpected {Token.displayFound error.found}"
  | wanted => s!"expected {wanted.display}, found {Token.displayFound error.found}"

/-- The wording of a syntax error. -/
def message (error : SyntaxError) : String :=
  s!"on line {error.line}: {error.complaint}"

/-- The line of the token at `position`; behind the last token, the line of that
one, and the first line if there is no token at all. -/
def lineAt (tokens : List Located) (position : Nat) : Nat :=
  match tokens[position]? with
  | some located => located.line
  | none =>
      match tokens.getLast? with
      | some located => located.line
      | none => 1

/-- The error for wanting something else at `position` than what stands there. -/
def ofPosition (tokens : List Located) (wanted : Wanted) (position : Nat) : SyntaxError where
  wanted := wanted
  found := tokens[position]?.map (·.token)
  line := lineAt tokens position

end SyntaxError

end VectorLang
