import VectorLang.Name

/-!
# Static types

The types of expressions and the errors of the type checker. A vector type says
nothing about the length: all vectors hold integers and have one type.
-/

namespace VectorLang

/-- The type of an expression. -/
inductive Ty where
  | int
  | bool
  | pair (first second : Ty)
  | vector
  deriving DecidableEq, Repr

/-- How messages show a type. -/
def Ty.text : Ty → String
  | .int => "INT"
  | .bool => "BOOL"
  | .pair first second => "(" ++ first.text ++ "*" ++ second.text ++ ")"
  | .vector => "VECTOR"

/-- What a context asks of a type. -/
inductive ExpectedTy where
  | exactly (ty : Ty)
  | somePair
  deriving DecidableEq, Repr

/-- How messages show what was asked. -/
def ExpectedTy.text : ExpectedTy → String
  | .exactly ty => ty.text
  | .somePair => "PAIR"

/-- Why a program is not well typed. -/
inductive TypeError where
  | mismatch (expected : ExpectedTy) (found : Ty)
  | binding (error : NameError)
  deriving DecidableEq, Repr

/-- The wording of a type error. -/
def TypeError.message : TypeError → String
  | .mismatch expected found => s!"found `{found.text}`, expected `{expected.text}`"
  | .binding error => error.message

namespace Ty

/-- Ask for exactly the type `expected`. -/
def require (expected found : Ty) : Except TypeError Unit :=
  if expected = found then .ok () else .error (.mismatch (.exactly expected) found)

/-- The component types of a pair type. -/
def components : Ty → Except TypeError (Ty × Ty)
  | .pair first second => .ok (first, second)
  | found => .error (.mismatch .somePair found)

end Ty

end VectorLang
