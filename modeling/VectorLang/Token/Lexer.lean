import VectorLang.Token

/-!
# Reading tokens

Source text is cut into pieces from the front. Each piece is the longest one that
starts at its place: a gap, a token, or something that no token starts with.
Gaps are white space and comments, which run from `//` to the end of the line.
The first piece that is neither gap nor token ends the reading.
-/

namespace VectorLang

/-- Why source text has no tokens. -/
inductive LexError where
  | invalidCharacter (char : Char) (line : Nat)
  | integerOutOfRange (digits : String) (line : Nat)
  deriving DecidableEq, Repr

namespace LexError

/-- The line of the offending text. -/
def line : LexError → Nat
  | .invalidCharacter _ line | .integerOutOfRange _ line => line

/-- The offending text. -/
def text : LexError → String
  | .invalidCharacter char _ => char.toString
  | .integerOutOfRange digits _ => digits

/-- The wording of a lexical error. -/
def message : LexError → String
  | .invalidCharacter char line => s!"on line {line}: invalid character `{char}`"
  | .integerOutOfRange digits line =>
      s!"on line {line}: integer literal `{digits}` does not fit in 32 bits"

end LexError

namespace Lexer

/-- White space between tokens. -/
def isBlank (char : Char) : Bool :=
  char == ' ' || char == '\t' || char == '\r' || char == '\n' || char == '\x0c'

/-- What stands at one place of a source text. -/
inductive Piece where
  | gap
  | token (token : Token)
  | unknown (char : Char)
  | tooLarge (digits : String)
  deriving DecidableEq, Repr

/-- A run of digits is an integer, with any number of leading zeros, if its value
is at most `Token.maxInt`. -/
def Piece.ofDigits (digits : List Char) : Piece :=
  let value := Nat.ofDigitChars 10 digits 0
  if value ≤ Token.maxInt then .token (.int (Int32.ofNat value))
  else .tooLarge (String.ofList digits)

/-- The longest piece that starts with `first` and goes on into `rest`, with the
number of characters of `rest` that belong to it. -/
def piece (first : Char) (rest : List Char) : Piece × Nat :=
  if isBlank first then (.gap, 0)
  else if first.isDigit then
    let digits := rest.takeWhile Char.isDigit
    (.ofDigits (first :: digits), digits.length)
  else if first.isAlpha then
    let letters := rest.takeWhile Char.isAlphanum
    (.token (.ofWord (String.ofList (first :: letters))), letters.length)
  else
    match first, rest with
    | '/', '/' :: _ => (.gap, (rest.takeWhile (· != '\n')).length)
    | '=', '=' :: _ => (.token (.symbol .equals), 1)
    | '&', '&' :: _ => (.token (.symbol .bothAnd), 1)
    | _, _ =>
        match Symbol.ofChar? first with
        | some symbol => (.token (.symbol symbol), 0)
        | none => (.unknown first, 0)

/-- The line number behind `newlines` line ends. Numbers stop growing at the
largest 32-bit word. -/
def lineAfter (newlines : Nat) : Nat :=
  min 4294967295 (newlines + 1)

/-- Read the tokens of a text whose first `skip` characters belong to the piece
before. The text starts at byte `offset` behind `newlines` line ends; `tokens`
are the tokens before it, the last one first. -/
def scan (tokens : List Located) (skip offset newlines : Nat) :
    List Char → Except LexError (List Located)
  | [] => .ok tokens.reverse
  | char :: rest =>
      let nextOffset := offset + char.utf8Size
      let nextNewlines := if char = '\n' then newlines + 1 else newlines
      match skip with
      | skip + 1 => scan tokens skip nextOffset nextNewlines rest
      | 0 =>
          match piece char rest with
          | (.gap, more) => scan tokens more nextOffset nextNewlines rest
          | (.token token, more) =>
              let located : Located :=
                ⟨token, offset, nextOffset + more, lineAfter newlines⟩
              scan (located :: tokens) more nextOffset nextNewlines rest
          | (.unknown char, _) => .error (.invalidCharacter char (lineAfter newlines))
          | (.tooLarge digits, _) => .error (.integerOutOfRange digits (lineAfter newlines))

/-- The tokens of a text, or its first lexical error. -/
def tokensOf (text : List Char) : Except LexError (List Located) :=
  scan [] 0 0 0 text

end Lexer

/-- The tokens of a source text, or its first lexical error. -/
def tokenize (source : String) : Except LexError (List Located) :=
  Lexer.tokensOf source.toList

end VectorLang
