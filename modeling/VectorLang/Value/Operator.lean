import VectorLang.Syntax
import VectorLang.Value

/-!
# Operators on values

Integer arithmetic wraps around at 32 bits. Vectors of the same length add up
element by element and multiply to their dot product; a vector times an integer,
on either side, is scaled.
-/

namespace VectorLang

/-- Apply a unary operator. -/
def UnaryOp.apply (op : UnaryOp) (operand : Value) : Except EvalError Value :=
  match op with
  | .negate => do return .int (-(← operand.asInt))
  | .not => do return .bool (!(← operand.asBool))
  | .first => do return (← operand.asPair).1
  | .second => do return (← operand.asPair).2

/-- The sum of the products of corresponding elements. -/
def dotProduct (left right : List Int32) : Int32 :=
  (List.zipWith (· * ·) left right).foldl (· + ·) 0

/-- Every element times `factor`. -/
def scale (factor : Int32) (vector : List Int32) : List Int32 :=
  vector.map (· * factor)

namespace Value

/-- The error for operands of arithmetic that no rule fits. The left operand
decides what was expected of the right one. -/
def arithmeticMismatch (left right : Value) : EvalError :=
  match left with
  | .int _ => mismatch .int right
  | .vector _ => mismatch .vector right
  | found => mismatch .int found

/-- Ask for vectors of the same length. -/
def requireSameLength (left right : List Int32) : Except EvalError Unit :=
  if left.length = right.length then .ok ()
  else .error (.dimensionMismatch left.length right.length)

/-- The sum of two values. -/
def add (left right : Value) : Except EvalError Value :=
  match left, right with
  | .int left, .int right => .ok (.int (left + right))
  | .vector left, .vector right => do
      requireSameLength left right
      return .vector (List.zipWith (· + ·) left right)
  | left, right => .error (arithmeticMismatch left right)

/-- The product of two values. -/
def mul (left right : Value) : Except EvalError Value :=
  match left, right with
  | .int left, .int right => .ok (.int (left * right))
  | .vector left, .vector right => do
      requireSameLength left right
      return .int (dotProduct left right)
  | .int factor, .vector elements | .vector elements, .int factor =>
      .ok (.vector (scale factor elements))
  | left, right => .error (arithmeticMismatch left right)

/-- The conjunction of two values. A false left operand decides it, whatever the
right one is. -/
def and (left right : Value) : Except EvalError Value := do
  if ← left.asBool then return .bool (← right.asBool)
  else return .bool false

end Value

/-- Apply a binary operator. -/
def BinaryOp.apply (op : BinaryOp) (left right : Value) : Except EvalError Value :=
  match op with
  | .mul => left.mul right
  | .add => left.add right
  | .equal => .ok (.bool (left == right))
  | .and => left.and right
  | .pair => .ok (.pair left right)

end VectorLang
