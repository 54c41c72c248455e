import VectorLang.Name
import VectorLang.Text.Lines

/-!
# Values

What expressions compute, how it is printed, and the errors of a running
program. Nothing is known about the kind of a value before the program runs:
every operation asks for the kinds that it needs.
-/

namespace VectorLang

/-- The kind of a value. -/
inductive Kind where
  | int
  | bool
  | pair
  | vector
  deriving DecidableEq, Repr

/-- How messages show a kind. -/
def Kind.text : Kind → String
  | .int => "INT"
  | .bool => "BOOL"
  | .pair => "PAIR"
  | .vector => "VECTOR"

/-- A value. Integers are 32-bit words. -/
inductive Value where
  | int (value : Int32)
  | bool (value : Bool)
  | pair (first second : Value)
  | vector (elements : List Int32)
  deriving DecidableEq, Repr

/-- Why a running program stops. -/
inductive EvalError where
  | mismatch (expected found : Kind)
  | binding (error : NameError)
  | dimensionMismatch (left right : Nat)
  | negativeLength (length : Int32)
  | indexOutOfBounds (index length : Int32)
  deriving DecidableEq, Repr

/-- The wording of a runtime error. -/
def EvalError.message : EvalError → String
  | .mismatch expected found =>
      s!"expecting dynamic type {expected.text}, found {found.text}"
  | .binding error => error.message
  | .dimensionMismatch left right =>
      s!"vectors must have the same dimension, found {left} and {right}"
  | .negativeLength length =>
      s!"vector length must not be negative, found {length.toInt}"
  | .indexOutOfBounds index length =>
      s!"index {index.toInt} out of bounds for vector of length {length.toInt}"

namespace Value

/-- The kind of a value. -/
def kind : Value → Kind
  | .int _ => .int
  | .bool _ => .bool
  | .pair _ _ => .pair
  | .vector _ => .vector

/-- The text of a truth value. -/
def boolText : Bool → String
  | true => "true"
  | false => "false"

/-- The text of an integer, in decimal. -/
def intText (value : Int32) : String := toString value.toInt

/-- The printed text of a value. -/
def text : Value → String
  | .int value => intText value
  | .bool value => boolText value
  | .pair first second => "(" ++ first.text ++ "," ++ second.text ++ ")"
  | .vector elements => "[" ++ ";".intercalate (elements.map intText) ++ "]"

/-- The text of values printed one after the other, each on a line of its own. -/
def lines (values : List Value) : String :=
  Text.unlines (values.map text)

/-- The error for a value of another kind than `expected`. -/
def mismatch (expected : Kind) (found : Value) : EvalError :=
  .mismatch expected found.kind

/-- The integer that a value is. -/
def asInt : Value → Except EvalError Int32
  | .int value => .ok value
  | found => .error (mismatch .int found)

/-- The truth value that a value is. -/
def asBool : Value → Except EvalError Bool
  | .bool value => .ok value
  | found => .error (mismatch .bool found)

/-- The components of the pair that a value is. -/
def asPair : Value → Except EvalError (Value × Value)
  | .pair first second => .ok (first, second)
  | found => .error (mismatch .pair found)

/-- The elements of the vector that a value is. -/
def asVector : Value → Except EvalError (List Int32)
  | .vector elements => .ok elements
  | found => .error (mismatch .vector found)

/-- The vector of `length` elements that are all zero but the one at `index`,
which is one. -/
def oneHot (length index : Int32) : Except EvalError Value :=
  if length < 0 then .error (.negativeLength length)
  else if 0 ≤ index ∧ index < length then
    let zeros := List.replicate length.toNatClampNeg (0 : Int32)
    .ok (.vector (zeros.set index.toNatClampNeg 1))
  else .error (.indexOutOfBounds index length)

end Value

end VectorLang
