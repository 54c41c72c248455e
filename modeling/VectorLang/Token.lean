import VectorLang.Name

/-!
# Tokens

The words and symbols of the language, with their spelling in source text and
their display in messages.
-/

namespace VectorLang

/-- Reserved words, named for what they introduce. -/
inductive Keyword where
  | print
  | declare
  | branch
  | otherwise
  | first
  | second
  | each
  | within
  deriving DecidableEq, Repr

namespace Keyword

/-- How a reserved word is written. -/
def spelling : Keyword → String
  | .print => "print"
  | .declare => "var"
  | .branch => "if"
  | .otherwise => "else"
  | .first => "fst"
  | .second => "snd"
  | .each => "foreach"
  | .within => "in"

/-- All reserved words. -/
def all : List Keyword :=
  [.print, .declare, .branch, .otherwise, .first, .second, .each, .within]

/-- The reserved word written `word`. -/
def ofSpelling? (word : String) : Option Keyword :=
  all.find? fun keyword => keyword.spelling == word

end Keyword

/-- Operators and punctuation. -/
inductive Symbol where
  | assign
  | minus
  | plus
  | star
  | bang
  | bothAnd
  | equals
  | semicolon
  | comma
  | leftParen
  | rightParen
  | leftBrace
  | rightBrace
  | leftBracket
  | rightBracket
  deriving DecidableEq, Repr

namespace Symbol

/-- How a symbol is written. -/
def spelling : Symbol → String
  | .assign => "="
  | .minus => "-"
  | .plus => "+"
  | .star => "*"
  | .bang => "!"
  | .bothAnd => "&&"
  | .equals => "=="
  | .semicolon => ";"
  | .comma => ","
  | .leftParen => "("
  | .rightParen => ")"
  | .leftBrace => "\x7b"
  | .rightBrace => "\x7d"
  | .leftBracket => "["
  | .rightBracket => "]"

/-- The symbol that is written with the single character `char`. -/
def ofChar? : Char → Option Symbol
  | '=' => some .assign
  | '-' => some .minus
  | '+' => some .plus
  | '*' => some .star
  | '!' => some .bang
  | ';' => some .semicolon
  | ',' => some .comma
  | '(' => some .leftParen
  | ')' => some .rightParen
  | '\x7b' => some .leftBrace
  | '\x7d' => some .rightBrace
  | '[' => some .leftBracket
  | ']' => some .rightBracket
  | _ => none

end Symbol

/-- The smallest pieces of a program that carry meaning. -/
inductive Token where
  | keyword (word : Keyword)
  | symbol (mark : Symbol)
  | bool (value : Bool)
  | int (value : Int32)
  | name (text : Name)
  deriving DecidableEq, Repr

namespace Token

/-- The largest integer literal. -/
def maxInt : Nat := 2147483647

/-- How a token is written; integers in decimal. -/
def spelling : Token → String
  | .keyword word => word.spelling
  | .symbol mark => mark.spelling
  | .bool true => "true"
  | .bool false => "false"
  | .int value => toString value.toInt
  | .name text => text

/-- How messages show a token: its spelling in quotes, under a heading if the
spelling is not fixed. -/
def display : Token → String
  | .int value => s!"integer `{value.toInt}`"
  | .name text => s!"identifier `{text}`"
  | token => s!"`{token.spelling}`"

/-- The token written as the word `word`: a reserved word, a truth value, or
else a name. -/
def ofWord (word : String) : Token :=
  if word = "true" then .bool true
  else if word = "false" then .bool false
  else
    match Keyword.ofSpelling? word with
    | some reserved => .keyword reserved
    | none => .name word

end Token

/-- A token with its place in the source text. -/
structure Located where
  token : Token
  /-- Byte offset of the first character. -/
  start : Nat
  /-- Byte offset behind the last character. -/
  stop : Nat
  /-- Number of the line that the token starts on, counted from one. -/
  line : Nat
  deriving DecidableEq, Repr

end VectorLang
