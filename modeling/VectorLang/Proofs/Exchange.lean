import VectorLang.Evaluation
import VectorLang.Proofs.Outcome

/-!
# Exchanging operands

A sum, a product and a comparison keep their value when their operands are exchanged. So
does a conjunction, unless one operand is false and the other one is no truth value: a false
operand on the left decides before the other one is looked at, and on the right it does not.
-/

namespace VectorLang

theorem dotProduct_comm (left right : List Int32) :
    dotProduct left right = dotProduct right left := by
  rw [dotProduct, dotProduct, List.zipWith_comm]
  simp only [Int32.mul_comm]

/-! ## Values -/

namespace Value

variable {left right value : Value}

theorem requireSameLength_comm {left right : List Int32} :
    requireSameLength left right = .ok () ↔ requireSameLength right left = .ok () := by
  simp [requireSameLength, eq_comm]

theorem add_exchange (sum : left.add right = .ok value) : right.add left = .ok value := by
  cases left <;> cases right <;> try contradiction
  case int.int left right =>
      cases sum
      rw [add, Int32.add_comm]
  case vector.vector left right =>
      rcases bind_eq_ok_iff.mp sum with ⟨_, same, added⟩
      rw [add, requireSameLength_comm.mp same, ok_bind, List.zipWith_comm, ← added]
      simp only [Int32.add_comm]

theorem mul_exchange (product : left.mul right = .ok value) : right.mul left = .ok value := by
  cases left <;> cases right <;> try contradiction
  case int.int left right =>
      cases product
      rw [mul, Int32.mul_comm]
  case vector.vector left right =>
      rcases bind_eq_ok_iff.mp product with ⟨_, same, multiplied⟩
      rw [mul, requireSameLength_comm.mp same, ok_bind, dotProduct_comm]
      exact multiplied
  case int.vector | vector.int => exact product

/-- The left operand decides a conjunction whose right operand is no truth value. -/
def Overlooks (left right : Value) : Prop :=
  left = .bool false ∧ right.kind ≠ .bool

theorem and_eq_ok_iff :
    left.and right = .ok value ↔
      (left = .bool false ∧ value = .bool false) ∨
      (left = .bool true ∧ ∃ truth, right = .bool truth ∧ value = .bool truth) := by
  cases left with
  | int | pair | vector => simp [Value.and, asBool]
  | bool truth =>
      cases truth with
      | false => simp [Value.and, asBool, eq_comm]
      | true => cases right <;> simp [Value.and, asBool, eq_comm]

theorem and_exchange (conjunction : left.and right = .ok value)
    (considers : ¬ left.Overlooks right) : right.and left = .ok value := by
  rcases and_eq_ok_iff.mp conjunction with ⟨rfl, rfl⟩ | ⟨rfl, truth, rfl, rfl⟩
  · cases right with
    | bool truth => cases truth <;> rfl
    | int | pair | vector => exact absurd ⟨rfl, by simp [kind]⟩ considers
  · cases truth <;> rfl

/-- Behind an operand that is no truth value, false comes too late. -/
theorem not_and_exchange (overlooks : left.Overlooks right) :
    left.and right = .ok (.bool false) ∧ right.and left ≠ .ok (.bool false) := by
  rcases overlooks with ⟨rfl, other⟩
  cases right <;> simp_all [Value.and, asBool, kind]

end Value

/-! ## Expressions -/

/-- Operators whose operands are alike can be applied the other way round. -/
theorem BinaryOp.apply_exchange {op : BinaryOp} (alike : op ≠ .pair) {left right value : Value}
    (considers : op = .and → ¬ left.Overlooks right) (applied : op.apply left right = .ok value) :
    op.apply right left = .ok value := by
  cases op with
  | mul => exact Value.mul_exchange applied
  | add => exact Value.add_exchange applied
  | equal =>
      rw [apply, BEq.comm]
      exact applied
  | and => exact Value.and_exchange applied (considers rfl)
  | pair => contradiction

namespace Expr

variable {env : Env Value} {op : BinaryOp} {left right : Expr} {leftValue rightValue value : Value}

theorem eval_binary (leftEval : left.eval env = .ok leftValue)
    (rightEval : right.eval env = .ok rightValue) :
    (Expr.binary op left right).eval env = op.apply leftValue rightValue := by
  rw [eval, leftEval, ok_bind, rightEval, ok_bind]

theorem eval_exchange (alike : op ≠ .pair)
    (considers : op = .and → ∀ leftValue rightValue, left.eval env = .ok leftValue →
      right.eval env = .ok rightValue → ¬ leftValue.Overlooks rightValue)
    (evaluated : (Expr.binary op left right).eval env = .ok value) :
    (Expr.binary op right left).eval env = .ok value := by
  rcases bind_eq_ok_iff.mp evaluated with ⟨leftValue, leftEval, rest⟩
  rcases bind_eq_ok_iff.mp rest with ⟨rightValue, rightEval, applied⟩
  rw [eval_binary rightEval leftEval]
  exact op.apply_exchange alike (fun conjunction => considers conjunction _ _ leftEval rightEval)
    applied

end Expr

/-- The operands of every operator but the one that makes pairs may be exchanged: the value
stays the same, and if there is none, there is none either way. The only exception are
conjunctions of false with a value that is no truth value. -/
theorem operands_exchange {op : BinaryOp} (alike : op ≠ .pair) (env : Env Value)
    (left right : Expr) :
    (∀ value, (Expr.binary op left right).eval env = .ok value ↔
      (Expr.binary op right left).eval env = .ok value) ↔
    ¬ (op = .and ∧ ∃ leftValue rightValue, left.eval env = .ok leftValue ∧
      right.eval env = .ok rightValue ∧
      (leftValue.Overlooks rightValue ∨ rightValue.Overlooks leftValue)) := by
  constructor
  · rintro exchanged ⟨rfl, leftValue, rightValue, leftEval, rightEval, overlooks⟩
    have conjunctions := exchanged (.bool false)
    rw [Expr.eval_binary leftEval rightEval, Expr.eval_binary rightEval leftEval] at conjunctions
    rcases overlooks with overlooks | overlooks
    · rcases Value.not_and_exchange overlooks with ⟨decided, undecided⟩
      exact undecided (conjunctions.mp decided)
    · rcases Value.not_and_exchange overlooks with ⟨decided, undecided⟩
      exact undecided (conjunctions.mpr decided)
  · intro considers value
    constructor
    · apply Expr.eval_exchange alike
      intro conjunction leftValue rightValue leftEval rightEval overlooks
      exact considers ⟨conjunction, leftValue, rightValue, leftEval, rightEval, .inl overlooks⟩
    · apply Expr.eval_exchange alike
      intro conjunction rightValue leftValue rightEval leftEval overlooks
      exact considers ⟨conjunction, leftValue, rightValue, leftEval, rightEval, .inr overlooks⟩

/-- A dot product whose first summand wraps around. -/
theorem operands_exchange_of_dotProduct :
    BinaryOp.mul ≠ .pair ∧
    (Expr.binary .mul (.var "v") (.var "w")).eval
        ⟨[("v", .vector [Int32.minValue, 3]), ("w", .vector [2, 5])], []⟩ = .ok (.int 15) ∧
    (Expr.binary .mul (.var "w") (.var "v")).eval
        ⟨[("v", .vector [Int32.minValue, 3]), ("w", .vector [2, 5])], []⟩ = .ok (.int 15) := by
  have alike : BinaryOp.mul ≠ .pair := by decide
  have product : (Expr.binary .mul (.var "v") (.var "w")).eval
      ⟨[("v", .vector [Int32.minValue, 3]), ("w", .vector [2, 5])], []⟩ = .ok (.int 15) := rfl
  refine ⟨alike, product, ((operands_exchange alike _ _ _).mpr ?_ _).mp product⟩
  simp

/-- A conjunction does not keep its value if false comes behind a number. -/
theorem conjunction_not_exchanged :
    (Expr.binary .and (.bool false) (.int 3)).eval .empty = .ok (.bool false) ∧
    (Expr.binary .and (.int 3) (.bool false)).eval .empty = .error (.mismatch .bool .int) ∧
    ¬ ∀ (env : Env Value) (left right : Expr) (op : BinaryOp) (value : Value), op ≠ .pair →
      ((Expr.binary op left right).eval env = .ok value ↔
        (Expr.binary op right left).eval env = .ok value) := by
  have decided : (Expr.binary .and (.bool false) (.int 3)).eval .empty = .ok (.bool false) := rfl
  have failed : (Expr.binary .and (.int 3) (.bool false)).eval .empty =
      .error (.mismatch .bool .int) := rfl
  refine ⟨decided, failed, fun exchanged => ?_⟩
  have wrong := (exchanged .empty (.bool false) (.int 3) .and (.bool false) (by decide)).mp decided
  rw [failed] at wrong
  contradiction

end VectorLang
