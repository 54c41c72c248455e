import VectorLang.Proofs.Agreement
import VectorLang.Proofs.Typing
import VectorLang.Proofs.VectorLengths
import VectorLang.Source

/-!
# Type soundness

A program that passes the type check never meets a value of a wrong kind, and no
name that is missing or declared twice. What may still stop it are the shapes of
vectors, which types do not tell.

The invariant is that the types and the values of all scopes agree, at every
statement, for both branches of an `if` and in every round of a loop. An error leaves
some declarations of a block out; the values that are there then still have the types
of their names.
-/

namespace VectorLang

variable {complete : Prop}

namespace EvalError

/-- Errors that a checked program may stop with: those about shapes and, unless the
bindings are `complete`, that of a missing value. -/
def Tolerated (complete : Prop) (error : EvalError) : Prop :=
  error.isShape ∨ ¬complete ∧ ∃ name, error = .binding (.undeclared name)

theorem Tolerated.mono {strict : Prop} {error : EvalError} (tolerated : error.Tolerated strict)
    (weaken : complete → strict) : error.Tolerated complete := by
  rcases tolerated with shape | ⟨lacking, missing⟩
  · exact .inl shape
  · exact .inr ⟨fun full => lacking (weaken full), missing⟩

/-- With complete bindings only shapes of vectors stop a run. -/
theorem Tolerated.isShape {error : EvalError} (tolerated : error.Tolerated True) :
    error.isShape := by
  rcases tolerated with shape | ⟨lacking, _⟩
  · exact shape
  · exact (lacking trivial).elim

theorem not_tolerated_mismatch (expected found : Kind) :
    ¬(mismatch expected found).Tolerated complete := by
  simp [Tolerated, EvalError.isShape]

theorem not_tolerated_alreadyDeclared (name : Name) :
    ¬(binding (.alreadyDeclared name)).Tolerated complete := by
  simp [Tolerated, EvalError.isShape]

theorem tolerated_undeclared_iff (name : Name) :
    (binding (.undeclared name)).Tolerated complete ↔ ¬complete := by
  simp [Tolerated, EvalError.isShape]

end EvalError

/-! ## Operators -/

/-- A unary operator has a value of the type that it promises. -/
theorem UnaryOp.apply_sound {op : UnaryOp} {operand : Value} {ty : Ty}
    (typed : op.resultTy operand.ty = .ok ty) :
    ∃ result, op.apply operand = .ok result ∧ result.ty = ty := by
  cases op with
  | negate =>
      simp only [resultTy, bind_eq_ok_iff, Ty.require_eq_ok_iff, pure_eq_ok,
        Except.ok.injEq] at typed
      rcases typed with ⟨_, operandTy, rfl⟩
      rcases Value.ty_eq_int_iff.mp operandTy.symm with ⟨number, rfl⟩
      exact ⟨_, rfl, rfl⟩
  | not =>
      simp only [resultTy, bind_eq_ok_iff, Ty.require_eq_ok_iff, pure_eq_ok,
        Except.ok.injEq] at typed
      rcases typed with ⟨_, operandTy, rfl⟩
      rcases Value.ty_eq_bool_iff.mp operandTy.symm with ⟨truth, rfl⟩
      exact ⟨_, rfl, rfl⟩
  | first | second =>
      cases operand with
      | int | bool | vector => contradiction
      | pair left right =>
          cases typed
          exact ⟨_, rfl, rfl⟩

namespace Value

variable {left right : Value} {ty : Ty}

/-- Sums of operands that have a type. -/
theorem add_sound (typed : BinaryOp.resultTy .add left.ty right.ty = .ok ty) :
    Computes (left.add right) (·.ty = ty) fun error => error.isShape := by
  cases left <;> cases right <;> cases typed
  case int.int.refl => rfl
  case vector.vector.refl left right =>
    exact (requireSameLength_computes left right).bind fun _ _ => rfl

/-- Products of operands that have a type. -/
theorem mul_sound (typed : BinaryOp.resultTy .mul left.ty right.ty = .ok ty) :
    Computes (left.mul right) (·.ty = ty) fun error => error.isShape := by
  cases left <;> cases right <;> cases typed
  case int.int.refl | int.vector.refl | vector.int.refl => rfl
  case vector.vector.refl left right =>
    exact (requireSameLength_computes left right).bind fun _ _ => rfl

/-- The vectors that a literal can ask for. -/
theorem oneHot_sound (length index : Int32) :
    Computes (oneHot length index) (·.ty = .vector) fun error => error.isShape := by
  rw [oneHot]
  split
  · rfl
  · split <;> rfl

end Value

/-- A binary operator has a value of the type that it promises, or the shapes of its
operands do not fit. -/
theorem BinaryOp.apply_sound {op : BinaryOp} {left right : Value} {ty : Ty}
    (typed : op.resultTy left.ty right.ty = .ok ty) :
    Computes (op.apply left right) (·.ty = ty) fun error => error.isShape := by
  cases op with
  | mul => exact Value.mul_sound typed
  | add => exact Value.add_sound typed
  | pair =>
      simp only [resultTy, Except.ok.injEq] at typed
      exact typed
  | equal =>
      simp only [resultTy, bind_eq_ok_iff, pure_eq_ok, Except.ok.injEq] at typed
      rcases typed with ⟨_, _, rfl⟩
      rfl
  | and =>
      simp only [resultTy, bind_eq_ok_iff, Ty.require_eq_ok_iff, pure_eq_ok,
        Except.ok.injEq] at typed
      rcases typed with ⟨_, leftTy, _, rightTy, rfl⟩
      rcases Value.ty_eq_bool_iff.mp leftTy.symm with ⟨leftTruth, rfl⟩
      rcases Value.ty_eq_bool_iff.mp rightTy.symm with ⟨rightTruth, rfl⟩
      cases leftTruth <;> rfl

/-! ## Expressions -/

/-- An expression has a value of its type, if types and values agree. -/
theorem Expr.eval_sound {types : Env Ty} {values : Env Value}
    (agree : ∀ name, Agree complete (types.find? name) (values.find? name)) {expr : Expr}
    {ty : Ty} (typed : expr.typeIn types = .ok ty) :
    Computes (expr.eval values) (·.ty = ty) (·.Tolerated complete) := by
  induction expr generalizing ty with
  | int value =>
      cases typed
      rfl
  | bool value =>
      cases typed
      rfl
  | var name =>
      rw [typeIn, Env.lookup_eq_ok_iff] at typed
      have found := agree name
      rw [typed] at found
      rcases found.exists_or_missing with ⟨value, present, rfl⟩ | ⟨lacking, missing⟩
      · rw [eval, Env.lookup_eq_ok_iff.mpr present]
        rfl
      · rw [eval, Env.lookup_eq_error_iff.mpr ⟨missing, rfl⟩]
        exact .inr ⟨lacking, name, rfl⟩
  | unary op operand ih =>
      rw [typeIn, bind_eq_ok_iff] at typed
      rcases typed with ⟨operandTy, operandTyped, typed⟩
      rw [eval]
      apply (ih operandTyped).bind
      intro value valueTy
      subst valueTy
      rcases UnaryOp.apply_sound typed with ⟨result, applied, resultTy⟩
      rw [applied]
      exact resultTy
  | binary op left right leftIH rightIH =>
      simp only [typeIn, bind_eq_ok_iff] at typed
      rcases typed with ⟨leftTy, leftTyped, _, _, rightTy, rightTyped, typed⟩
      rw [eval]
      apply (leftIH leftTyped).bind
      intro leftValue leftValueTy
      apply (rightIH rightTyped).bind
      intro rightValue rightValueTy
      subst leftValueTy rightValueTy
      exact (BinaryOp.apply_sound typed).mono (fun _ => id) fun _ => .inl
  | oneHot length index lengthIH indexIH =>
      simp only [typeIn, bind_eq_ok_iff, Ty.require_eq_ok_iff, pure_eq_ok,
        Except.ok.injEq] at typed
      rcases typed with ⟨_, lengthTyped, _, rfl, _, indexTyped, _, rfl, rfl⟩
      rw [eval]
      apply (lengthIH lengthTyped).bind
      intro lengthValue lengthTy
      rcases Value.ty_eq_int_iff.mp lengthTy with ⟨lengthNumber, rfl⟩
      rw [Value.asInt, ok_bind]
      apply (indexIH indexTyped).bind
      intro indexValue indexTy
      rcases Value.ty_eq_int_iff.mp indexTy with ⟨indexNumber, rfl⟩
      exact (Value.oneHot_sound lengthNumber indexNumber).mono (fun _ => id) fun _ => .inl

/-- A condition that passed the check has a truth value. -/
theorem Expr.asBool_sound {types : Env Ty} {values : Env Value}
    (agrees : Env.Agrees complete types values) {condition : Expr}
    (typed : condition.typeIn types = .ok .bool) :
    Computes (condition.eval values >>= Value.asBool) (fun _ => True)
      (·.Tolerated complete) := by
  apply (eval_sound agrees.find? typed).bind
  intro value valueTy
  rcases Value.ty_eq_bool_iff.mp valueTy with ⟨truth, rfl⟩
  trivial

/-- What a loop that passed the check runs over is a vector. -/
theorem Expr.asVector_sound {types : Env Ty} {values : Env Value}
    (agrees : Env.Agrees complete types values) {elements : Expr}
    (typed : elements.typeIn types = .ok .vector) :
    Computes (elements.eval values >>= Value.asVector) (fun _ => True)
      (·.Tolerated complete) := by
  apply (eval_sound agrees.find? typed).bind
  intro value valueTy
  rcases Value.ty_eq_vector_iff.mp valueTy with ⟨elements, rfl⟩
  trivial

/-! ## Statements -/

/-- A run that the check foresaw: `after` are the types behind the statement. -/
def Outcome.Sound (complete : Prop) (after : Env Ty) (outcome : Outcome EvalError Machine) :
    Prop :=
  outcome.Ensures (fun machine => Env.Agrees complete after machine.env)
    fun error machine => error.Tolerated complete ∧ after.Covers machine.env

/-- A value is computed before a statement changes anything. -/
theorem Outcome.sound_withValue {α : Type} {machine : Machine} {before after : Env Ty}
    {value : Except EvalError α} {goodValue : α → Prop} {next : α → Outcome EvalError Machine}
    (agrees : Env.Agrees complete before machine.env) (grows : before.Grows after)
    (computes : Computes value goodValue (·.Tolerated complete))
    (going : ∀ result, goodValue result → (next result).Sound complete after) :
    (Outcome.withValue machine value next).Sound complete after :=
  Outcome.ensures_withValue_of_computes computes
    (fun _ tolerated => ⟨tolerated, agrees.covers.grow grows⟩) going

namespace Machine

variable {machine : Machine} {types after : Env Ty}

/-- A declaration that is possible for the type is possible for the value. -/
theorem declare_sound (agrees : Env.Agrees complete types machine.env) {name : Name}
    {value : Value} (new : types.innermost.lookup name = none) :
    (machine.declare name value).Sound complete
      ⟨(name, value.ty) :: types.innermost, types.outer⟩ := by
  rcases agrees.declare new value with ⟨absent, agreesAfter⟩
  rw [declare, Env.declare_eq_ok_iff.mpr ⟨absent, rfl⟩]
  exact agreesAfter

/-- An assignment that keeps the type keeps the agreement. -/
theorem assign_sound (agrees : Env.Agrees complete types machine.env) {name : Name}
    {value : Value} (typed : types.find? name = some value.ty) :
    (machine.assign name value).Sound complete types := by
  have agree := agrees.find? name
  rw [typed] at agree
  rcases agree.exists_or_missing with ⟨old, present, _⟩ | ⟨lacking, missing⟩
  · rw [assign, Env.update_eq_ok_iff.mpr ⟨old, present, rfl⟩]
    exact agrees.rebind typed
  · rw [assign, Env.update_eq_error_iff.mpr ⟨missing, rfl⟩]
    exact ⟨.inr ⟨lacking, name, rfl⟩, agrees.covers⟩

/-- What a block declares is gone behind it, for the types as for the values. -/
theorem inScope_sound {inner : Env Ty} {body : Machine → Outcome EvalError Machine}
    (block : (body { machine with env := machine.env.enter }).Sound complete inner)
    (grows : types.enter.Grows inner) : (machine.inScope body).Sound complete types := by
  have closed := grows.leave
  apply Outcome.Ensures.mapState block
  · intro state agrees
    exact closed ▸ agrees.leave
  · intro error state ⟨tolerated, covers⟩
    exact ⟨tolerated, closed ▸ covers.leave⟩

/-- One round of a loop: the loop variable takes the next element, and the block runs
in a scope of its own. -/
theorem round_sound {inner : Env Ty} {name : Name} {body : Machine → Outcome EvalError Machine}
    (agrees : Env.Agrees complete (types.loop name .int) machine.env)
    (block : ∀ machine : Machine, Env.Agrees complete (types.loop name .int).enter machine.env →
      (body machine).Sound complete inner)
    (grows : (types.loop name .int).enter.Grows inner) (element : Int32) :
    ((machine.assign name (.int element)).andThen fun machine => machine.inScope body).Sound
      complete (types.loop name .int) := by
  have typed : (types.loop name .int).find? name = some (Value.int element).ty := by
    simp [Env.loop, Env.find?, Env.scopes, Value.ty]
  apply Outcome.Ensures.andThen (assign_sound agrees typed)
  intro machine agrees
  exact inScope_sound (block _ agrees.enter) grows

end Machine

namespace Stmt

mutual

/-- Running a checked statement keeps types and values in agreement. -/
theorem exec_sound {types : Env Ty} {machine : Machine}
    (agrees : Env.Agrees complete types machine.env) (stmt : Stmt)
    (accepted : (check types stmt).error? = none) :
    (exec machine stmt).Sound complete (check types stmt).state := by
  have grows := check_grows types stmt
  cases stmt with
  | declare name value =>
      rcases check_declare_succeeds_iff.mp accepted with ⟨ty, typed, new⟩
      rw [check_declare_of_typed typed new, Outcome.state_done] at grows ⊢
      rw [exec]
      apply Outcome.sound_withValue agrees grows (Expr.eval_sound agrees.find? typed)
      intro value valueTy
      subst valueTy
      exact Machine.declare_sound agrees new
  | assign name value =>
      rcases check_assign_succeeds_iff.mp accepted with ⟨ty, typed, declared⟩
      rw [state_check_of_ne_declare types _ (by simp)] at grows ⊢
      rw [exec]
      apply Outcome.sound_withValue agrees grows (Expr.eval_sound agrees.find? typed)
      intro value valueTy
      subst valueTy
      exact Machine.assign_sound agrees declared
  | print value =>
      rcases check_print_succeeds_iff.mp accepted with ⟨ty, typed⟩
      rw [state_check_of_ne_declare types _ (by simp)] at grows ⊢
      rw [exec]
      apply Outcome.sound_withValue agrees grows (Expr.eval_sound agrees.find? typed)
      intro value _
      exact agrees
  | ifThen condition body =>
      rcases check_ifThen_succeeds_iff.mp accepted with ⟨typed, accepted⟩
      rw [state_check_of_ne_declare types _ (by simp)] at grows ⊢
      rw [exec]
      apply Outcome.sound_withValue agrees grows (Expr.asBool_sound agrees typed)
      intro truth _
      cases truth with
      | false => exact agrees
      | true =>
          exact Machine.inScope_sound (execAll_sound agrees.enter body accepted)
            (checkAll_grows types.enter body)
  | ifElse condition body alternative =>
      rcases check_ifElse_succeeds_iff.mp accepted with ⟨typed, accepted, acceptedElse⟩
      rw [state_check_of_ne_declare types _ (by simp)] at grows ⊢
      rw [exec]
      apply Outcome.sound_withValue agrees grows (Expr.asBool_sound agrees typed)
      intro truth _
      cases truth with
      | false =>
          exact Machine.inScope_sound (execAll_sound agrees.enter alternative acceptedElse)
            (checkAll_grows types.enter alternative)
      | true =>
          exact Machine.inScope_sound (execAll_sound agrees.enter body accepted)
            (checkAll_grows types.enter body)
  | forEach name elements body =>
      rcases check_forEach_succeeds_iff.mp accepted with ⟨typed, accepted⟩
      rw [state_check_of_ne_declare types _ (by simp)] at grows ⊢
      rw [exec]
      apply Outcome.sound_withValue agrees grows (Expr.asVector_sound agrees typed)
      intro elements _
      refine Machine.inScope_sound ?_ (types.enter_grows_loop name .int)
      have new : types.enter.innermost.lookup name = none := rfl
      apply Outcome.Ensures.andThen (Machine.declare_sound agrees.enter new)
      intro machine agrees
      refine Outcome.ensures_forEach elements (fun element _ machine agrees => ?_) agrees
      exact Machine.round_sound agrees (fun machine agrees => execAll_sound agrees body accepted)
        (checkAll_grows _ body) element

/-- Running a checked sequence keeps types and values in agreement. -/
theorem execAll_sound {types : Env Ty} {machine : Machine}
    (agrees : Env.Agrees complete types machine.env) (stmts : List Stmt)
    (accepted : (checkAll types stmts).error? = none) :
    (execAll machine stmts).Sound complete (checkAll types stmts).state := by
  cases stmts with
  | nil => exact agrees
  | cons stmt rest =>
      rcases checkAll_cons_succeeds_iff.mp accepted with ⟨acceptedFirst, acceptedRest⟩
      have grows := checkAll_grows (check types stmt).state rest
      rw [checkAll, Outcome.andThen_of_success acceptedFirst, execAll]
      have first := (exec_sound agrees stmt acceptedFirst).mono (fun _ => id)
        fun error state ⟨tolerated, covers⟩ => And.intro tolerated (covers.grow grows)
      exact first.andThen fun machine agrees => execAll_sound agrees rest acceptedRest

end

end Stmt

/-! ## Programs -/

namespace Program

/-- The types of the names at top level, as far as the check of the program gets. -/
def types (program : Program) : Env Ty :=
  (Stmt.checkAll .empty program).state

theorem outer_types (program : Program) : program.types.outer = [] :=
  (Stmt.checkAll_grows .empty program).outer

/-- The contract of a checked program that starts with no declaration. -/
theorem exec_sound {program : Program} (accepted : program.check = .ok ()) :
    program.exec.Sound True program.types :=
  Stmt.execAll_sound (.empty True) program (Outcome.result_eq_ok_iff.mp accepted)

/-- Only shapes of vectors stop the run of a checked program. -/
theorem isShape_of_error {program : Program} (accepted : program.check = .ok ())
    {error : EvalError} (failure : program.exec.error? = some error) : error.isShape := by
  have contract := (exec_sound accepted).of_failure failure
  exact contract.1.isShape

/-- A run to the end leaves one scope, whose values have the types that the check
recorded. -/
theorem base_of_success {program : Program} (accepted : program.check = .ok ())
    (success : program.exec.error? = none) :
    program.exec.state.env.depth = 1 ∧ program.types.depth = 1 ∧
      ∀ name, (program.exec.state.env.base.lookup name).map Value.ty =
        program.types.base.lookup name := by
  have lone := program.outer_types
  rcases ((exec_sound accepted).of_success success).of_lone lone with ⟨loneValues, agrees⟩
  rw [Env.depth_eq_one_iff, Env.depth_eq_one_iff, Env.base_of_lone loneValues,
    Env.base_of_lone lone]
  exact ⟨loneValues, lone, fun name => (agrees name).map_eq⟩

end Program

/-! ## Source texts -/

namespace EvalError

/-- A description shows the code of its error. -/
theorem code_diagnostic (error : EvalError) : error.diagnostic.code = error.code := by
  cases error with
  | mismatch | binding | dimensionMismatch | negativeLength => rfl
  | indexOutOfBounds index length =>
      rw [diagnostic]
      split <;> rfl

/-- Errors about shapes have codes of their own. -/
theorem code_of_isShape {error : EvalError} (shape : error.isShape) :
    error.code.text ∉ ["E6001", "E6002", "E6003"] := by
  cases error with
  | mismatch | binding => contradiction
  | dimensionMismatch | negativeLength | indexOutOfBounds => simp [code, ErrorCode.text]

end EvalError

namespace Source

/-- A text that fails the check is not run. -/
theorem run_of_check_error {source : String} {fault : Fault}
    (rejected : check source = .error fault) : run source true = .failed fault #[] := by
  rw [run, prepare]
  rw [check] at rejected
  rcases bind_eq_error_iff.mp rejected with unread | ⟨program, read, mistyped⟩
  · simp [unread]
  · simp [read, mistyped]

/-- A text that passes the check is a program that does. -/
theorem exists_program_of_check_ok {source : String} (accepted : check source = .ok ()) :
    ∃ program, Program.ofSource source = .ok program ∧ program.check = .ok () := by
  rw [check, bind_eq_ok_iff] at accepted
  rcases accepted with ⟨program, read, checked⟩
  refine ⟨program, read, ?_⟩
  cases typed : Program.check program with
  | ok => rfl
  | error error => simp [typed] at checked

/-- What the run of a text that can be read reports. -/
theorem run_of_read {source : String} {program : Program} {typecheck : Bool}
    (read : Program.ofSource source = .ok program) (accepted : program.check = .ok ()) :
    run source typecheck =
      ⟨program.exec.error?.map .runtime, program.exec.state.output⟩ := by
  cases typecheck <;> simp [run, prepare, read, accepted]

end Source

/-- Type soundness, of program trees and of source texts. -/
theorem type_soundness :
    (∀ program : Program, program.check = .ok () →
      (∀ error, program.exec.error? = some error → error.isShape) ∧
      (program.exec.error? = none →
        program.exec.state.env.depth = 1 ∧ program.types.depth = 1 ∧
          ∀ name, (program.exec.state.env.base.lookup name).map Value.ty =
            program.types.base.lookup name)) ∧
    ∀ source : String,
      (∃ fault, Source.check source = .error fault ∧
        Source.run source true = .failed fault #[]) ∨
      Source.check source = .ok () ∧ Source.run source true = Source.run source false ∧
        ∀ fault, (Source.run source true).error? = some fault →
          fault.diagnostic.code.text ∉ ["E6001", "E6002", "E6003"] := by
  constructor
  · intro program accepted
    constructor
    · intro error failure
      exact Program.isShape_of_error accepted failure
    · exact Program.base_of_success accepted
  · intro source
    cases checked : Source.check source with
    | error fault => exact .inl ⟨fault, rfl, Source.run_of_check_error checked⟩
    | ok =>
        rcases Source.exists_program_of_check_ok checked with ⟨program, read, accepted⟩
        refine .inr ⟨rfl, ?_, ?_⟩
        · rw [Source.run_of_read read accepted, Source.run_of_read read accepted]
        · rw [Source.run_of_read read accepted]
          intro fault failure
          rcases Option.map_eq_some_iff.mp failure with ⟨error, failed, rfl⟩
          rw [Fault.diagnostic, EvalError.code_diagnostic]
          exact EvalError.code_of_isShape (Program.isShape_of_error accepted failed)

/-- A loop whose block hides the loop variable and changes an outer one, and a branch
that fails in a run because lengths differ. -/
theorem type_soundness_of_loop :
    (∃ program : Program, program.check = .ok () ∧ program.exec.error? = none ∧
      program.exec.state.output.size = 3 ∧
      ∀ name, (program.exec.state.env.base.lookup name).map Value.ty =
        program.types.base.lookup name) ∧
    ∃ program : Program, program.check = .ok () ∧
      ∃ error, program.exec.error? = some error ∧ error.isShape := by
  constructor
  · have accepted : Program.check [.declare "a" (.int 0),
        .forEach "x" (.oneHot (.int 3) (.int 1))
          [.assign "a" (.binary .add (.var "a") (.var "x")), .declare "x" (.bool true),
            .print (.binary .pair (.var "a") (.var "x"))]] = .ok () := rfl
    exact ⟨_, accepted, rfl, rfl, ((type_soundness.1 _ accepted).2 rfl).2.2⟩
  · have accepted : Program.check
        [.print (.binary .mul (.oneHot (.int 2) (.int 0)) (.oneHot (.int 1) (.int 0)))] =
          .ok () := rfl
    exact ⟨_, accepted, .dimensionMismatch 2 1, rfl, (type_soundness.1 _ accepted).1 _ rfl⟩

end VectorLang
