import VectorLang.Proofs.Env
import VectorLang.Evaluation

/-!
# Evaluation with unbounded integers

The rules of evaluation over the integers of mathematics. Each number that an operation
makes is passed through `fit`: without a change the numbers are unbounded, and reduced to 32
bits they are the numbers of running programs. So both evaluations follow the same rules.
-/

namespace VectorLang

/-- A value whose numbers are integers of any size. -/
inductive Exact where
  | int (value : Int)
  | bool (value : Bool)
  | pair (first second : Exact)
  | vector (elements : List Int)
  deriving DecidableEq, Repr

/-- Why evaluation with integers of any size stops. -/
inductive ExactError where
  | mismatch (expected found : Kind)
  | binding (error : NameError)
  | dimensionMismatch (left right : Nat)
  | negativeLength (length : Int)
  | indexOutOfBounds (index length : Int)
  deriving DecidableEq, Repr

/-! ## The rules -/

namespace Exact

/-- The kind of a value. -/
def kind : Exact → Kind
  | .int _ => .int
  | .bool _ => .bool
  | .pair _ _ => .pair
  | .vector _ => .vector

def asInt : Exact → Except ExactError Int
  | .int value => .ok value
  | found => .error (.mismatch .int found.kind)

def asBool : Exact → Except ExactError Bool
  | .bool value => .ok value
  | found => .error (.mismatch .bool found.kind)

def asPair : Exact → Except ExactError (Exact × Exact)
  | .pair first second => .ok (first, second)
  | found => .error (.mismatch .pair found.kind)

/-- The error for operands of arithmetic that no rule fits. -/
def arithmeticMismatch (left right : Exact) : ExactError :=
  match left with
  | .int _ => .mismatch .int right.kind
  | .vector _ => .mismatch .vector right.kind
  | found => .mismatch .int found.kind

def requireSameLength (left right : List Int) : Except ExactError Unit :=
  if left.length = right.length then .ok ()
  else .error (.dimensionMismatch left.length right.length)

/-- The sum of the products of corresponding elements, one after the other. -/
def dotProduct (fit : Int → Int) (left right : List Int) : Int :=
  (List.zipWith (fun x y => fit (x * y)) left right).foldl (fun sum x => fit (sum + x)) 0

/-- The sum of two values. -/
def add (fit : Int → Int) (left right : Exact) : Except ExactError Exact :=
  match left, right with
  | .int left, .int right => .ok (.int (fit (left + right)))
  | .vector left, .vector right => do
      requireSameLength left right
      return .vector (List.zipWith (fun x y => fit (x + y)) left right)
  | left, right => .error (arithmeticMismatch left right)

/-- The product of two values. -/
def mul (fit : Int → Int) (left right : Exact) : Except ExactError Exact :=
  match left, right with
  | .int left, .int right => .ok (.int (fit (left * right)))
  | .vector left, .vector right => do
      requireSameLength left right
      return .int (dotProduct fit left right)
  | .int factor, .vector elements | .vector elements, .int factor =>
      .ok (.vector (elements.map fun element => fit (element * factor)))
  | left, right => .error (arithmeticMismatch left right)

/-- The conjunction of two values. -/
def and (left right : Exact) : Except ExactError Exact := do
  if ← left.asBool then return .bool (← right.asBool)
  else return .bool false

/-- The vector of `length` elements that are all zero but the one at `index`. -/
def oneHot (length index : Int) : Except ExactError Exact :=
  if length < 0 then .error (.negativeLength length)
  else if 0 ≤ index ∧ index < length then
    .ok (.vector ((List.replicate length.toNat 0).set index.toNat 1))
  else .error (.indexOutOfBounds index length)

end Exact

/-- Apply a unary operator. -/
def UnaryOp.applyExact (fit : Int → Int) (op : UnaryOp) (operand : Exact) :
    Except ExactError Exact :=
  match op with
  | .negate => do return .int (fit (-(← operand.asInt)))
  | .not => do return .bool (!(← operand.asBool))
  | .first => do return (← operand.asPair).1
  | .second => do return (← operand.asPair).2

/-- Apply a binary operator. -/
def BinaryOp.applyExact (fit : Int → Int) (op : BinaryOp) (left right : Exact) :
    Except ExactError Exact :=
  match op with
  | .mul => left.mul fit right
  | .add => left.add fit right
  | .equal => .ok (.bool (left == right))
  | .and => left.and right
  | .pair => .ok (.pair left right)

/-- The value of an expression, with `fit` applied to each number that is made. -/
def Expr.evalFitting (fit : Int → Int) (env : Env Exact) : Expr → Except ExactError Exact
  | .int value => .ok (.int value.toInt)
  | .bool value => .ok (.bool value)
  | .var name => (env.lookup name).mapError .binding
  | .unary op operand => do op.applyExact fit (← operand.evalFitting fit env)
  | .binary op left right => do
      let leftValue ← left.evalFitting fit env
      op.applyExact fit leftValue (← right.evalFitting fit env)
  | .oneHot length index => do
      let lengthValue ← (← length.evalFitting fit env).asInt
      let indexValue ← (← index.evalFitting fit env).asInt
      Exact.oneHot lengthValue indexValue

/-- The value of an expression with unbounded integers. -/
def Expr.evalExact (env : Env Exact) (expr : Expr) : Except ExactError Exact :=
  expr.evalFitting id env

/-! ## Numbers of 32 bits -/

/-- The integer between -2³¹ and 2³¹ - 1 that is the same modulo 2³². -/
def wrap (value : Int) : Int :=
  value.bmod 4294967296

/-- A value with the integers that its numbers stand for. -/
def Value.exact : Value → Exact
  | .int value => .int value.toInt
  | .bool value => .bool value
  | .pair first second => .pair first.exact second.exact
  | .vector elements => .vector (elements.map Int32.toInt)

/-- An error with the integers that its numbers stand for. -/
def EvalError.exact : EvalError → ExactError
  | .mismatch expected found => .mismatch expected found
  | .binding error => .binding error
  | .dimensionMismatch left right => .dimensionMismatch left right
  | .negativeLength length => .negativeLength length.toInt
  | .indexOutOfBounds index length => .indexOutOfBounds index.toInt length.toInt

/-! ## Running programs reduce every number -/

namespace Value

variable {left right : Value}

theorem exact_injective : Function.Injective exact := by
  intro left right
  induction left generalizing right with
  | int value => cases right <;> simp [exact, Int32.toInt_inj]
  | bool value => cases right <;> simp [exact]
  | pair first second firstIH secondIH =>
      cases right with
      | pair otherFirst otherSecond =>
          intro same
          rcases Exact.pair.inj same with ⟨sameFirst, sameSecond⟩
          rw [firstIH sameFirst, secondIH sameSecond]
      | int | bool | vector => simp [exact]
  | vector elements =>
      cases right <;> simp [exact, List.map_inj_right fun _ _ => Int32.toInt_inj.mp]

theorem exact_asInt (value : Value) :
    translate EvalError.exact Int32.toInt value.asInt = value.exact.asInt := by
  cases value <;> rfl

theorem exact_asBool (value : Value) :
    translate EvalError.exact id value.asBool = value.exact.asBool := by
  cases value <;> rfl

theorem exact_asPair (value : Value) :
    translate EvalError.exact (Prod.map exact exact) value.asPair = value.exact.asPair := by
  cases value <;> rfl

theorem exact_requireSameLength (left right : List Int32) :
    translate EvalError.exact id (requireSameLength left right) =
      Exact.requireSameLength (left.map Int32.toInt) (right.map Int32.toInt) := by
  unfold requireSameLength Exact.requireSameLength
  simp only [List.length_map]
  split <;> rfl

/-- The sum of numbers is reduced after each summand. -/
theorem toInt_foldl_add (numbers : List Int32) (sum : Int32) :
    (numbers.foldl (· + ·) sum).toInt =
      (numbers.map Int32.toInt).foldl (fun sum number => wrap (sum + number)) sum.toInt := by
  induction numbers generalizing sum with
  | nil => rfl
  | cons number rest ih =>
      rw [List.foldl_cons, ih, Int32.toInt_add]
      rfl

theorem toInt_dotProduct (left right : List Int32) :
    (dotProduct left right).toInt =
      Exact.dotProduct wrap (left.map Int32.toInt) (right.map Int32.toInt) := by
  have product (x y : Int32) : wrap (x.toInt * y.toInt) = (x * y).toInt :=
    (Int32.toInt_mul x y).symm
  simp only [dotProduct, Exact.dotProduct, List.zipWith_map, product]
  rw [← List.map_zipWith]
  exact toInt_foldl_add _ 0

/-- Every element is reduced when a vector is scaled. -/
theorem exact_scale (factor : Int32) (elements : List Int32) :
    (vector (scale factor elements)).exact =
      .vector ((elements.map Int32.toInt).map fun element => wrap (element * factor.toInt)) := by
  simp [exact, scale, wrap, Int32.toInt_mul]

theorem exact_add (left right : Value) :
    translate EvalError.exact exact (left.add right) = left.exact.add wrap right.exact := by
  cases left <;> cases right <;> try rfl
  case int.int left right => exact congrArg (Except.ok ∘ Exact.int) (Int32.toInt_add left right)
  case vector.vector left right =>
      apply translate_bind (exact_requireSameLength left right)
      intro _
      simp only [translate, pure_eq_ok, exact, List.map_zipWith, List.zipWith_map, Int32.toInt_add,
        wrap]

theorem exact_mul (left right : Value) :
    translate EvalError.exact exact (left.mul right) = left.exact.mul wrap right.exact := by
  cases left <;> cases right <;> try rfl
  case int.int left right => exact congrArg (Except.ok ∘ Exact.int) (Int32.toInt_mul left right)
  case vector.vector left right =>
      apply translate_bind (exact_requireSameLength left right)
      intro _
      exact congrArg (Except.ok ∘ Exact.int) (toInt_dotProduct left right)
  case int.vector factor elements | vector.int elements factor =>
      exact congrArg Except.ok (exact_scale factor elements)

theorem exact_and (left right : Value) :
    translate EvalError.exact exact (left.and right) = left.exact.and right.exact := by
  cases left with
  | int | pair | vector => rfl
  | bool truth =>
    cases truth with
    | false => rfl
    | true => cases right <;> rfl

theorem exact_oneHot (length index : Int32) :
    translate EvalError.exact exact (oneHot length index) =
      Exact.oneHot length.toInt index.toInt := by
  unfold oneHot Exact.oneHot
  simp only [Int32.lt_iff_toInt_lt, Int32.le_iff_toInt_le, Int32.toInt_zero]
  split
  · rfl
  · split
    · simp [translate, exact, List.map_set]
    · rfl

end Value

theorem UnaryOp.exact_apply (op : UnaryOp) (operand : Value) :
    translate EvalError.exact Value.exact (op.apply operand) =
      op.applyExact wrap operand.exact := by
  cases op with
  | negate =>
      apply translate_bind operand.exact_asInt
      intro number
      exact congrArg (Except.ok ∘ Exact.int) (Int32.toInt_neg number)
  | not => exact translate_bind operand.exact_asBool fun _ => rfl
  | first | second => exact translate_bind operand.exact_asPair fun _ => rfl

theorem BinaryOp.exact_apply (op : BinaryOp) (left right : Value) :
    translate EvalError.exact Value.exact (op.apply left right) =
      op.applyExact wrap left.exact right.exact := by
  cases op with
  | mul => exact left.exact_mul right
  | add => exact left.exact_add right
  | equal =>
      have same : (left == right) = (left.exact == right.exact) := by
        rw [Bool.eq_iff_iff, beq_iff_eq, beq_iff_eq, Value.exact_injective.eq_iff]
      exact congrArg (Except.ok ∘ Exact.bool) same
  | and => exact left.exact_and right
  | pair => rfl

/-- A running program evaluates with each number reduced to 32 bits. -/
theorem Expr.exact_eval (env : Env Value) (expr : Expr) :
    translate EvalError.exact Value.exact (expr.eval env) =
      expr.evalFitting wrap (env.mapPayloads Value.exact) := by
  induction expr with
  | int | bool => rfl
  | var name =>
      rw [eval, evalFitting, Env.lookup_mapPayloads]
      cases env.lookup name <;> rfl
  | unary op operand ih => exact translate_bind ih op.exact_apply
  | binary op left right leftIH rightIH =>
      apply translate_bind leftIH
      intro leftValue
      exact translate_bind rightIH (op.exact_apply leftValue)
  | oneHot length index lengthIH indexIH =>
      apply translate_bind lengthIH
      intro lengthValue
      apply translate_bind lengthValue.exact_asInt
      intro lengthNumber
      apply translate_bind indexIH
      intro indexValue
      exact translate_bind indexValue.exact_asInt (Value.exact_oneHot lengthNumber)

end VectorLang
