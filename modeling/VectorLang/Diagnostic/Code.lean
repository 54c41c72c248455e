import VectorLang.Text.Blank

/-!
# Error codes

Every failure has a code of a letter and four digits. The first digit tells the
phase that reports it: 0 for tokens, 1 for syntax, 2 for types, 6 for a running
program.
-/

namespace VectorLang

/-- What an error code stands for. -/
inductive ErrorCode where
  | invalidCharacter
  | integerOutOfRange
  | unexpectedToken
  | typeMismatch
  | undeclaredVariable
  | alreadyDeclared
  | runtimeTypeMismatch
  | runtimeUndeclaredVariable
  | runtimeAlreadyDeclared
  | dimensionMismatch
  | negativeLength
  | indexOutOfBounds
  deriving DecidableEq, Repr

namespace ErrorCode

/-- How a code is written. -/
def text : ErrorCode → String
  | .invalidCharacter => "E0002"
  | .integerOutOfRange => "E0003"
  | .unexpectedToken => "E1001"
  | .typeMismatch => "E2001"
  | .undeclaredVariable => "E2003"
  | .alreadyDeclared => "E2006"
  | .runtimeTypeMismatch => "E6001"
  | .runtimeUndeclaredVariable => "E6002"
  | .runtimeAlreadyDeclared => "E6003"
  | .dimensionMismatch => "E6004"
  | .negativeLength => "E6005"
  | .indexOutOfBounds => "E6006"

/-- All codes, in the order of their numbers. -/
def all : List ErrorCode :=
  [.invalidCharacter, .integerOutOfRange, .unexpectedToken, .typeMismatch,
    .undeclaredVariable, .alreadyDeclared, .runtimeTypeMismatch,
    .runtimeUndeclaredVariable, .runtimeAlreadyDeclared, .dimensionMismatch,
    .negativeLength, .indexOutOfBounds]

/-- Whether a code is reported by a running program, and not before it runs. -/
def isRuntime : ErrorCode → Bool
  | .runtimeTypeMismatch | .runtimeUndeclaredVariable | .runtimeAlreadyDeclared
  | .dimensionMismatch | .negativeLength | .indexOutOfBounds => true
  | .invalidCharacter | .integerOutOfRange | .unexpectedToken | .typeMismatch
  | .undeclaredVariable | .alreadyDeclared => false

/-- The code that `text` writes, in upper or lower case and with blanks around. -/
def ofText? (text : String) : Option ErrorCode :=
  let wanted := (Blank.trim text.toList).map Char.toUpper
  all.find? fun code => code.text.toList == wanted

end ErrorCode

/-- A text that should be an error code and is none. -/
structure UnknownErrorCode where
  text : String
  deriving DecidableEq, Repr

/-- The wording for a text that is no error code. -/
def UnknownErrorCode.message (unknown : UnknownErrorCode) : String :=
  s!"unknown error code `{unknown.text}`"

/-- Read an error code. -/
def ErrorCode.ofText (text : String) : Except UnknownErrorCode ErrorCode :=
  match ofText? text with
  | some code => .ok code
  | none => .error ⟨text⟩

end VectorLang
