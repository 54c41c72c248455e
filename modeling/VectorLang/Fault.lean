import VectorLang.Diagnostic
import VectorLang.Reader.Error
import VectorLang.Token.Lexer
import VectorLang.Ty
import VectorLang.Value

/-!
# Faults of a program

The errors of all phases, each with its description for the reader.
-/

namespace VectorLang

/-- The description of a lexical error. -/
def LexError.diagnostic : LexError → Diagnostic
  | .invalidCharacter char line =>
      (Diagnostic.ofCode .invalidCharacter).withMessage s!"invalid character `{char}`"
        |>.withLine line
  | .integerOutOfRange digits line =>
      (Diagnostic.ofCode .integerOutOfRange).withMessage
          s!"integer literal `{digits}` is out of range"
        |>.withLine line
        |>.withNote s!"the largest integer literal is {Token.maxInt}"

/-- The description of a syntax error. -/
def SyntaxError.diagnostic (error : SyntaxError) : Diagnostic :=
  (Diagnostic.ofCode .unexpectedToken).withMessage error.complaint |>.withLine error.line

/-- Add advice for type mismatches that look like a known mistake. -/
def TypeError.advise (expected : ExpectedTy) (found : Ty) (diagnostic : Diagnostic) : Diagnostic :=
  match expected, found with
  | .exactly .bool, .int =>
      diagnostic.withSuggestion
        "use a comparison (e.g. `x == 0`) to turn an integer into a boolean"
  | .exactly .vector, .int =>
      diagnostic.withSuggestion "build a vector with `[length; index]`"
  | .exactly .int, .bool =>
      diagnostic.withNote "booleans are not integers; there is no implicit conversion"
  | _, _ => diagnostic

/-- The description of a type error. -/
def TypeError.diagnostic : TypeError → Diagnostic
  | .mismatch expected found =>
      TypeError.advise expected found <|
        (Diagnostic.ofCode .typeMismatch).withMessage
          s!"type mismatch: expected `{expected.text}`, found `{found.text}`"
  | .binding (.undeclared name) =>
      (Diagnostic.ofCode .undeclaredVariable).withMessage s!"undeclared variable `{name}`"
        |>.withSuggestion s!"declare it first with `var {name} = ...`"
  | .binding (.alreadyDeclared name) =>
      (Diagnostic.ofCode .alreadyDeclared).withMessage
          s!"variable `{name}` already declared in this scope"
        |>.withSuggestion s!"assign with `{name} = ...` instead"

/-- The code of a runtime error. -/
def EvalError.code : EvalError → ErrorCode
  | .mismatch _ _ => .runtimeTypeMismatch
  | .binding (.undeclared _) => .runtimeUndeclaredVariable
  | .binding (.alreadyDeclared _) => .runtimeAlreadyDeclared
  | .dimensionMismatch _ _ => .dimensionMismatch
  | .negativeLength _ => .negativeLength
  | .indexOutOfBounds _ _ => .indexOutOfBounds

/-- The description of a runtime error. -/
def EvalError.diagnostic (error : EvalError) : Diagnostic :=
  let diagnostic := (Diagnostic.ofCode error.code).withMessage error.message
  match error with
  | .mismatch _ _ =>
      diagnostic.withNote "run with type checking enabled to catch this before execution"
  | .indexOutOfBounds _ length =>
      if 0 < length then
        diagnostic.withSuggestion s!"valid indices are 0 to {length.toInt - 1}"
      else diagnostic
  | .binding _ | .dimensionMismatch _ _ | .negativeLength _ => diagnostic

/-- An error of any phase. -/
inductive Fault where
  | lexical (error : LexError)
  | syntactic (error : SyntaxError)
  | typing (error : TypeError)
  | runtime (error : EvalError)
  deriving DecidableEq, Repr

/-- The description of an error of any phase. -/
def Fault.diagnostic : Fault → Diagnostic
  | .lexical error => error.diagnostic
  | .syntactic error => error.diagnostic
  | .typing error => error.diagnostic
  | .runtime error => error.diagnostic

end VectorLang
