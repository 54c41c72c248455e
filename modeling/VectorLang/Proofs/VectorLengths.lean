import VectorLang.Evaluation
import VectorLang.Proofs.Env
import VectorLang.Proofs.Outcome

/-!
# Lengths of vectors

Vectors come from literals, whose index lies inside the vector; sums and products keep
the length. So no program ever holds an empty vector or one that is longer than the
largest integer, whether it passed the type check or not, and whether it ends or fails.
-/

namespace VectorLang

/-- Errors about lengths and indices of vectors. -/
def EvalError.isShape : EvalError → Bool
  | .dimensionMismatch _ _ | .negativeLength _ | .indexOutOfBounds _ _ => true
  | .mismatch _ _ | .binding _ => false

/-- Every vector in a value has a length that is positive and an integer. -/
def Value.WellSized : Value → Prop
  | .int _ | .bool _ => True
  | .pair first second => first.WellSized ∧ second.WellSized
  | .vector elements => 1 ≤ elements.length ∧ elements.length ≤ 2147483647

/-! ## Operators -/

namespace Value

variable {left right : Value}

theorem requireSameLength_computes (left right : List Int32) :
    Computes (requireSameLength left right) (fun _ => left.length = right.length)
      fun error => error.isShape := by
  by_cases same : left.length = right.length
  · simp [requireSameLength, same, Computes]
  · simp [requireSameLength, same, Computes, EvalError.isShape]

theorem oneHot_wellSized (length index : Int32) :
    Computes (oneHot length index) WellSized fun _ => True := by
  rw [oneHot]
  split
  · trivial
  · split
    case isTrue inside =>
      have positive : 0 < length := Int32.lt_of_le_of_lt inside.1 inside.2
      have bounded := length.toNatClampNeg_lt
      simp only [Computes, WellSized, List.length_set, List.length_replicate]
      exact ⟨(Int32.toNatClampNeg_pos_iff length).mpr positive, by omega⟩
    case isFalse => trivial

theorem add_wellSized (leftSized : left.WellSized) (rightSized : right.WellSized) :
    Computes (left.add right) WellSized fun _ => True := by
  cases left <;> cases right <;> try trivial
  case vector.vector left right =>
    apply ((requireSameLength_computes left right).mono (fun _ => id) fun _ _ => trivial).bind
    intro _ same
    simpa [Computes, WellSized, same] using rightSized

theorem mul_wellSized (leftSized : left.WellSized) (rightSized : right.WellSized) :
    Computes (left.mul right) WellSized fun _ => True := by
  cases left <;> cases right <;> try trivial
  case vector.vector left right =>
    apply ((requireSameLength_computes left right).mono (fun _ => id) fun _ _ => trivial).bind
    exact fun _ _ => trivial
  case int.vector factor elements =>
    simpa [mul, Computes, WellSized, scale] using rightSized
  case vector.int elements factor =>
    simpa [mul, Computes, WellSized, scale] using leftSized

theorem and_wellSized (left right : Value) :
    Computes (left.and right) WellSized fun _ => True := by
  cases left with
  | bool truth => cases truth <;> cases right <;> trivial
  | int | pair | vector => trivial

end Value

theorem UnaryOp.apply_wellSized (op : UnaryOp) {operand : Value} (sized : operand.WellSized) :
    Computes (op.apply operand) Value.WellSized fun _ => True := by
  cases op <;> cases operand <;> try trivial
  case first.pair left right => exact sized.1
  case second.pair left right => exact sized.2

theorem BinaryOp.apply_wellSized (op : BinaryOp) {left right : Value}
    (leftSized : left.WellSized) (rightSized : right.WellSized) :
    Computes (op.apply left right) Value.WellSized fun _ => True := by
  cases op with
  | mul => exact Value.mul_wellSized leftSized rightSized
  | add => exact Value.add_wellSized leftSized rightSized
  | equal => trivial
  | and => exact Value.and_wellSized left right
  | pair => exact ⟨leftSized, rightSized⟩

/-! ## Runs -/

/-- The vectors in the value of an expression have lengths in range if those in the
environment have. -/
theorem Expr.eval_wellSized {env : Env Value} (sized : env.All Value.WellSized) (expr : Expr) :
    Computes (expr.eval env) Value.WellSized fun _ => True := by
  induction expr with
  | int | bool => trivial
  | var name =>
      cases found : env.find? name with
      | none =>
          rw [eval, Env.lookup_eq_error_iff.mpr ⟨found, rfl⟩]
          trivial
      | some value =>
          rw [eval, Env.lookup_eq_ok_iff.mpr found]
          exact sized.find? found
  | unary op operand ih =>
      rw [eval]
      exact ih.bind fun value valueSized => op.apply_wellSized valueSized
  | binary op left right leftIH rightIH =>
      rw [eval]
      apply leftIH.bind
      intro leftValue leftSized
      exact rightIH.bind fun rightValue rightSized => op.apply_wellSized leftSized rightSized
  | oneHot length index =>
      rw [eval]
      apply (computes_trivial _).bind
      intro _ _
      apply (computes_trivial _).bind
      intro lengthValue _
      apply (computes_trivial _).bind
      intro _ _
      exact (computes_trivial _).bind fun indexValue _ =>
        Value.oneHot_wellSized lengthValue indexValue

namespace Machine

/-- The vectors in all values of a machine, those printed included, have lengths in
range. -/
structure WellSized (machine : Machine) : Prop where
  env : machine.env.All Value.WellSized
  output : ∀ value ∈ machine.output, value.WellSized

variable {machine : Machine}

theorem start_wellSized : start.WellSized :=
  ⟨.empty, by simp [start]⟩

theorem declare_wellSized (sized : machine.WellSized) {name : Name} {value : Value}
    (valueSized : value.WellSized) :
    (machine.declare name value).Ensures WellSized fun _ => WellSized := by
  rw [declare]
  apply Outcome.ensures_withValue (fun _ _ => sized)
  intro after declared
  rcases Env.declare_eq_ok_iff.mp declared with ⟨_, equal⟩
  subst equal
  exact ⟨sized.env.declare valueSized, sized.output⟩

theorem assign_wellSized (sized : machine.WellSized) {name : Name} {value : Value}
    (valueSized : value.WellSized) :
    (machine.assign name value).Ensures WellSized fun _ => WellSized := by
  rw [assign]
  apply Outcome.ensures_withValue (fun _ _ => sized)
  intro replaced updated
  rcases Env.update_eq_ok_iff.mp updated with ⟨old, _, equal⟩
  subst equal
  exact ⟨sized.env.rebind valueSized, sized.output⟩

theorem inScope_wellSized {body : Machine → Outcome EvalError Machine}
    (block : (body { machine with env := machine.env.enter }).state.WellSized) :
    (machine.inScope body).Ensures WellSized fun _ => WellSized :=
  Outcome.ensures_both_iff.mpr ⟨block.env.leave, block.output⟩

theorem WellSized.enter (sized : machine.WellSized) :
    WellSized { machine with env := machine.env.enter } :=
  ⟨sized.env.enter, sized.output⟩

end Machine

namespace Stmt

mutual

/-- Running one statement keeps the lengths of vectors in range. -/
theorem exec_wellSized {machine : Machine} (sized : machine.WellSized) (stmt : Stmt) :
    (exec machine stmt).state.WellSized := by
  apply Outcome.ensures_both_iff.mp
  cases stmt with
  | declare name value =>
      rw [exec]
      apply Outcome.ensures_withValue_of_computes (value.eval_wellSized sized.env)
        (fun _ _ => sized)
      intro value valueSized
      exact Machine.declare_wellSized sized valueSized
  | assign name value =>
      rw [exec]
      apply Outcome.ensures_withValue_of_computes (value.eval_wellSized sized.env)
        (fun _ _ => sized)
      intro value valueSized
      exact Machine.assign_wellSized sized valueSized
  | print value =>
      rw [exec]
      apply Outcome.ensures_withValue_of_computes (value.eval_wellSized sized.env)
        (fun _ _ => sized)
      intro value valueSized
      refine ⟨sized.env, ?_⟩
      intro printed member
      rcases Array.mem_push.mp member with before | equal
      · exact sized.output printed before
      · exact equal ▸ valueSized
  | ifThen condition body =>
      rw [exec]
      apply Outcome.ensures_withValue (fun _ _ => sized)
      intro truth _
      cases truth with
      | false => exact sized
      | true => exact Machine.inScope_wellSized (execAll_wellSized sized.enter body)
  | ifElse condition body alternative =>
      rw [exec]
      apply Outcome.ensures_withValue (fun _ _ => sized)
      intro truth _
      cases truth with
      | false =>
          exact Machine.inScope_wellSized (execAll_wellSized sized.enter alternative)
      | true => exact Machine.inScope_wellSized (execAll_wellSized sized.enter body)
  | forEach name elements body =>
      rw [exec]
      apply Outcome.ensures_withValue (fun _ _ => sized)
      intro elements _
      apply Machine.inScope_wellSized
      apply Outcome.ensures_both_iff.mp
      have number (element : Int32) : (Value.int element).WellSized := trivial
      apply Outcome.Ensures.andThen (Machine.declare_wellSized sized.enter (number 0))
      intro machine sized
      refine Outcome.ensures_forEach elements (fun element _ machine sized => ?_) sized
      apply Outcome.Ensures.andThen (Machine.assign_wellSized sized (number element))
      intro machine sized
      exact Machine.inScope_wellSized (execAll_wellSized sized.enter body)

/-- Running a sequence keeps the lengths of vectors in range. -/
theorem execAll_wellSized {machine : Machine} (sized : machine.WellSized)
    (stmts : List Stmt) : (execAll machine stmts).state.WellSized := by
  apply Outcome.ensures_both_iff.mp
  cases stmts with
  | nil => exact sized
  | cons stmt rest =>
      rw [execAll]
      apply Outcome.Ensures.andThen (Outcome.ensures_both_iff.mpr (exec_wellSized sized stmt))
      intro machine sized
      exact Outcome.ensures_both_iff.mpr (execAll_wellSized sized rest)

end

end Stmt

end VectorLang
