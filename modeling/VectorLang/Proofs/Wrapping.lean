import Mathlib.Algebra.Ring.Int.Defs
import VectorLang.Proofs.UnboundedNumbers

/-!
# Wrapping once at the end

Sums, products and opposites of reduced numbers are, once reduced, those of the numbers
themselves. So a running program, which reduces every number it makes, ends with the same
value as if it had computed with unbounded integers and reduced the result, however often
it wrapped around on the way. Comparisons and vector literals are the only expressions that
look at the size of a number.
-/

namespace VectorLang

/-! ## Reduced numbers -/

theorem wrap_toInt (value : Int32) : wrap value.toInt = value.toInt :=
  value.toInt_bmod

@[simp] theorem wrap_wrap_add (left right : Int) : wrap (wrap left + right) = wrap (left + right) :=
  Int.bmod_add_bmod

@[simp] theorem wrap_add_wrap (left right : Int) : wrap (left + wrap right) = wrap (left + right) :=
  Int.add_bmod_bmod

@[simp] theorem wrap_wrap_mul (left right : Int) : wrap (wrap left * right) = wrap (left * right) :=
  Int.bmod_mul_bmod

@[simp] theorem wrap_mul_wrap (left right : Int) : wrap (left * wrap right) = wrap (left * right) :=
  Int.mul_bmod_bmod

@[simp] theorem wrap_neg_wrap (value : Int) : wrap (-wrap value) = wrap (-value) :=
  Int.bmod_neg_bmod

/-! ## Reduced values -/

namespace Exact

/-- The value with every number reduced to 32 bits. -/
def wrapped : Exact → Exact
  | .int value => .int (wrap value)
  | .bool value => .bool value
  | .pair first second => .pair first.wrapped second.wrapped
  | .vector elements => .vector (elements.map wrap)

theorem wrapped_asInt (value : Exact) : translate id wrap value.asInt = value.wrapped.asInt := by
  cases value <;> rfl

theorem wrapped_asBool (value : Exact) : translate id id value.asBool = value.wrapped.asBool := by
  cases value <;> rfl

theorem wrapped_asPair (value : Exact) :
    translate id (Prod.map wrapped wrapped) value.asPair = value.wrapped.asPair := by
  cases value <;> rfl

theorem wrapped_requireSameLength (left right : List Int) :
    translate id id (requireSameLength left right) =
      requireSameLength (left.map wrap) (right.map wrap) := by
  unfold requireSameLength
  simp only [List.length_map]
  split <;> rfl

/-- It does not matter whether a sum is reduced after each summand. -/
theorem wrap_foldl_add (numbers : List Int) (sum : Int) :
    wrap (numbers.foldl (fun sum number => sum + number) sum) =
      (numbers.map wrap).foldl (fun sum number => wrap (sum + number)) (wrap sum) := by
  induction numbers generalizing sum with
  | nil => rfl
  | cons number rest ih => simp [ih]

/-- However often the sum and the products wrap around, the dot product is reduced once. -/
theorem wrap_dotProduct (left right : List Int) :
    wrap (dotProduct id left right) = dotProduct wrap (left.map wrap) (right.map wrap) := by
  have products :
      List.zipWith (fun x y => wrap (x * y)) (left.map wrap) (right.map wrap) =
        (List.zipWith (fun x y => x * y) left right).map wrap := by
    simp [List.map_zipWith, List.zipWith_map]
  rw [dotProduct, dotProduct, products]
  exact wrap_foldl_add _ 0

theorem dotProduct_id (left right : List Int) :
    dotProduct id left right = (List.zipWith (· * ·) left right).sum :=
  List.sum_eq_foldl.symm

theorem wrapped_add (left right : Exact) :
    translate id wrapped (left.add id right) = left.wrapped.add wrap right.wrapped := by
  cases left <;> cases right <;> try rfl
  case int.int left right => simp [add, translate, wrapped]
  case vector.vector left right =>
      apply translate_bind (wrapped_requireSameLength left right)
      intro _
      simp [translate, wrapped, List.map_zipWith, List.zipWith_map]

theorem wrapped_mul (left right : Exact) :
    translate id wrapped (left.mul id right) = left.wrapped.mul wrap right.wrapped := by
  cases left <;> cases right <;> try rfl
  case int.int left right => simp [mul, translate, wrapped]
  case vector.vector left right =>
      apply translate_bind (wrapped_requireSameLength left right)
      intro _
      exact congrArg (Except.ok ∘ Exact.int) (wrap_dotProduct left right)
  case int.vector factor elements | vector.int elements factor =>
      simp [mul, translate, wrapped]

theorem wrapped_and (left right : Exact) :
    translate id wrapped (left.and right) = left.wrapped.and right.wrapped := by
  cases left with
  | int | pair | vector => rfl
  | bool truth =>
      cases truth with
      | false => rfl
      | true => cases right <;> rfl

end Exact

/-! ## Expressions that do not look at the size of a number -/

theorem UnaryOp.wrapped_apply (op : UnaryOp) (operand : Exact) :
    translate id Exact.wrapped (op.applyExact id operand) =
      op.applyExact wrap operand.wrapped := by
  cases op with
  | negate =>
      apply translate_bind operand.wrapped_asInt
      intro number
      simp [translate, Exact.wrapped]
  | not => exact translate_bind operand.wrapped_asBool fun _ => rfl
  | first | second => exact translate_bind operand.wrapped_asPair fun _ => rfl

theorem BinaryOp.wrapped_apply {op : BinaryOp} (noComparison : op ≠ .equal)
    (left right : Exact) :
    translate id Exact.wrapped (op.applyExact id left right) =
      op.applyExact wrap left.wrapped right.wrapped := by
  cases op with
  | mul => exact left.wrapped_mul right
  | add => exact left.wrapped_add right
  | equal => exact absurd rfl noComparison
  | and => exact left.wrapped_and right
  | pair => rfl

namespace Expr

/-- No comparison and no vector literal occurs in the expression. -/
def isAlgebraic : Expr → Bool
  | .int _ | .bool _ | .var _ => true
  | .unary _ operand => operand.isAlgebraic
  | .binary op left right => op != .equal && left.isAlgebraic && right.isAlgebraic
  | .oneHot _ _ => false

/-- Numbers may be reduced at every step or once at the end. -/
theorem wrapped_evalExact (env : Env Exact) {expr : Expr} (algebraic : expr.isAlgebraic) :
    translate id Exact.wrapped (expr.evalExact env) =
      expr.evalFitting wrap (env.mapPayloads Exact.wrapped) := by
  induction expr with
  | int value => exact congrArg (Except.ok ∘ Exact.int) (wrap_toInt value)
  | bool => rfl
  | var name =>
      rw [evalExact, evalFitting, evalFitting, Env.lookup_mapPayloads]
      cases env.lookup name <;> rfl
  | unary op operand ih => exact translate_bind (ih algebraic) op.wrapped_apply
  | binary op left right leftIH rightIH =>
      simp only [isAlgebraic, Bool.and_eq_true, bne_iff_ne] at algebraic
      obtain ⟨⟨noComparison, leftAlgebraic⟩, rightAlgebraic⟩ := algebraic
      apply translate_bind (leftIH leftAlgebraic)
      intro leftValue
      exact translate_bind (rightIH rightAlgebraic) (BinaryOp.wrapped_apply noComparison leftValue)
  | oneHot => cases algebraic

end Expr

/-! ## Running programs and unbounded integers -/

theorem EvalError.exact_injective : Function.Injective EvalError.exact := by
  intro left right
  cases left <;> cases right <;> simp [exact, Int32.toInt_inj]

/-- The product of two vectors of one length is the sum of the products, reduced once. -/
theorem mul_vectors {left right : List Int32} (sameLength : left.length = right.length) :
    ∃ product, BinaryOp.mul.apply (.vector left) (.vector right) = .ok (.int product) ∧
      product.toInt =
        wrap (List.zipWith (· * ·) (left.map Int32.toInt) (right.map Int32.toInt)).sum := by
  have reduced (elements : List Int32) :
      (elements.map Int32.toInt).map wrap = elements.map Int32.toInt := by
    simp [wrap_toInt]
  refine ⟨dotProduct left right, ?_, ?_⟩
  · simp [BinaryOp.apply, Value.mul, Value.requireSameLength, sameLength]
  · rw [Value.toInt_dotProduct, ← Exact.dotProduct_id, Exact.wrap_dotProduct, reduced, reduced]

/-- Wrapping at every step is wrapping once at the end. In environments that differ only by
reducing their numbers, a running program computes the reduction of the value that unbounded
integers give, and it fails just when they do, with the same error. The dot product of any two
vectors of one length is the exact sum of the products, reduced once. -/
theorem wrapping_once {expr : Expr} (algebraic : expr.isAlgebraic) {env : Env Value}
    {exact : Env Exact}
    (reduced : env.mapPayloads Value.exact = exact.mapPayloads Exact.wrapped) :
    (∀ value, expr.eval env = .ok value ↔
      ∃ result, expr.evalExact exact = .ok result ∧ value.exact = result.wrapped) ∧
    (∀ error, expr.eval env = .error error ↔ expr.evalExact exact = .error error.exact) ∧
    ∀ left right : List Int32, left.length = right.length →
      ∃ product, BinaryOp.mul.apply (.vector left) (.vector right) = .ok (.int product) ∧
        product.toInt =
          wrap (List.zipWith (· * ·) (left.map Int32.toInt) (right.map Int32.toInt)).sum := by
  have same : translate EvalError.exact Value.exact (expr.eval env) =
      translate id Exact.wrapped (expr.evalExact exact) := by
    rw [Expr.exact_eval, reduced, Expr.wrapped_evalExact exact algebraic]
  refine ⟨fun value => ?_, fun error => ?_, fun left right => mul_vectors⟩
  · calc expr.eval env = .ok value
      _ ↔ translate EvalError.exact Value.exact (expr.eval env) = .ok value.exact := by
        simp [translate_eq_ok_iff, Value.exact_injective.eq_iff]
      _ ↔ _ := by
        simp only [same, translate_eq_ok_iff, eq_comm]
  · calc expr.eval env = .error error
      _ ↔ translate EvalError.exact Value.exact (expr.eval env) = .error error.exact := by
        simp [translate_eq_error_iff, EvalError.exact_injective.eq_iff]
      _ ↔ _ := by
        simp [same, translate_eq_error_iff]

/-- The opposite, the dot product and the sum of `-x + v * w` all wrap around. -/
theorem wrapping_once_of_overflow :
    (Expr.binary .add (.unary .negate (.var "x")) (.binary .mul (.var "v") (.var "w"))).eval
        ⟨[("x", .int Int32.minValue), ("v", .vector [Int32.maxValue, 2]),
          ("w", .vector [3, Int32.maxValue])], []⟩ = .ok (.int (-5)) ∧
    (Expr.binary .add (.unary .negate (.var "x")) (.binary .mul (.var "v") (.var "w"))).evalExact
        ⟨[("x", .int (2 ^ 31)), ("v", .vector [2 ^ 31 - 1, 2 - 2 ^ 32]),
          ("w", .vector [3, 2 ^ 31 - 1])], []⟩ =
      .ok (.int (-2 ^ 31 + ((2 ^ 31 - 1) * 3 + (2 - 2 ^ 32) * (2 ^ 31 - 1)))) := by
  have algebraic : (Expr.binary .add (.unary .negate (.var "x"))
      (.binary .mul (.var "v") (.var "w"))).isAlgebraic := by decide
  have reduced : Env.mapPayloads Value.exact
      ⟨[("x", .int Int32.minValue), ("v", .vector [Int32.maxValue, 2]),
        ("w", .vector [3, Int32.maxValue])], []⟩ =
      Env.mapPayloads Exact.wrapped
        ⟨[("x", .int (2 ^ 31)), ("v", .vector [2 ^ 31 - 1, 2 - 2 ^ 32]),
          ("w", .vector [3, 2 ^ 31 - 1])], []⟩ := by
    decide
  refine ⟨((wrapping_once algebraic reduced).1 _).mpr ⟨_, rfl, ?_⟩, rfl⟩
  decide

end VectorLang
