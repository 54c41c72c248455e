import VectorLang.Evaluation
import VectorLang.Proofs.Outcome
import VectorLang.Typing

/-!
# Mismatches are genuine

Where a type or a kind is reported that was not expected, it is another one than the
expected one, and their texts tell them apart. All that is asked of an operand, a condition
or an assignment compares what it expects with what it finds. Only arithmetic reports what no
rule fits, with the left operand deciding what is named as expected; that no rule fits is
what makes such a report genuine.
-/

namespace VectorLang

/-! ## Texts -/

namespace Ty

/-- The first character in the text of a type. -/
def initial : Ty → Char
  | .int => 'I'
  | .bool => 'B'
  | .pair _ _ => '('
  | .vector => 'V'

theorem toList_text_pair_append (first second : Ty) (rest : List Char) :
    (pair first second).text.toList ++ rest =
      '(' :: (first.text.toList ++ '*' :: (second.text.toList ++ ')' :: rest)) := by
  simp [text]

theorem exists_first (ty : Ty) : ∃ more, ty.text.toList = ty.initial :: more := by
  cases ty with
  | pair first second =>
      exact ⟨_, (List.append_nil _).symm.trans (toList_text_pair_append first second [])⟩
  | int | bool | vector => exact ⟨_, rfl⟩

theorem initial_eq_of_text {ty other : Ty} {rest rest' : List Char}
    (same : ty.text.toList ++ rest = other.text.toList ++ rest') : ty.initial = other.initial := by
  obtain ⟨more, printed⟩ := ty.exists_first
  obtain ⟨more', printed'⟩ := other.exists_first
  rw [printed, printed'] at same
  exact (List.cons.inj same).1

/-- The text of a type ends with the type, whatever stands behind it. -/
theorem text_append_inj {ty other : Ty} {rest rest' : List Char}
    (same : ty.text.toList ++ rest = other.text.toList ++ rest') : ty = other ∧ rest = rest' := by
  have initials := initial_eq_of_text same
  induction ty generalizing other rest rest' with
  | pair first second ihFirst ihSecond =>
      cases other with
      | pair first' second' =>
          rw [toList_text_pair_append, toList_text_pair_append] at same
          have firsts := (List.cons.inj same).2
          obtain ⟨rfl, further⟩ := ihFirst firsts (initial_eq_of_text firsts)
          have seconds := (List.cons.inj further).2
          obtain ⟨rfl, behind⟩ := ihSecond seconds (initial_eq_of_text seconds)
          exact ⟨rfl, (List.cons.inj behind).2⟩
      | int | bool | vector => simp [initial] at initials
  | int | bool | vector =>
      cases other <;>
        first
          | exact ⟨rfl, List.append_cancel_left same⟩
          | simp [initial] at initials

/-- Different types have different texts. -/
theorem text_inj {ty other : Ty} : ty.text = other.text ↔ ty = other := by
  refine ⟨fun same => ?_, congrArg text⟩
  exact (text_append_inj (congrArg (·.toList ++ []) same)).1

/-- What is asked where any pair fits is no type. -/
theorem text_ne_somePair (ty : Ty) : ExpectedTy.somePair.text ≠ ty.text := by
  intro same
  obtain ⟨more, printed⟩ := ty.exists_first
  have initials : 'P' = ty.initial :=
    (List.cons.inj ((congrArg String.toList same).trans printed)).1
  cases ty <;> simp [initial] at initials

end Ty

theorem Kind.text_inj {kind other : Kind} : kind.text = other.text ↔ kind = other := by
  cases kind <;> cases other <;> decide

/-! ## Reports of the checker -/

/-- The type is what was asked for. -/
def ExpectedTy.Admits : ExpectedTy → Ty → Prop
  | .exactly ty, found => ty = found
  | .somePair, found => ∃ first second, found = .pair first second

/-- What was asked for and what was found instead read differently. -/
theorem ExpectedTy.text_ne_of_not_admits {expected : ExpectedTy} {found : Ty}
    (other : ¬ expected.Admits found) : expected.text ≠ found.text := by
  cases expected with
  | exactly ty => exact fun same => other (Ty.text_inj.mp same)
  | somePair => exact found.text_ne_somePair

/-- A mismatch reports a type that was not asked for. -/
def TypeError.Genuine : TypeError → Prop
  | .mismatch expected found => ¬ expected.Admits found
  | .binding _ => True

namespace Ty

theorem require_genuine (expected found : Ty) :
    Computes (expected.require found) (fun _ => True) TypeError.Genuine := by
  rw [require]
  split
  case isTrue => trivial
  case isFalse different => exact different

theorem components_genuine (ty : Ty) :
    Computes ty.components (fun _ => True) TypeError.Genuine := by
  cases ty with
  | pair => trivial
  | int | bool | vector =>
      rintro ⟨first, second, equal⟩
      cases equal

end Ty

theorem UnaryOp.resultTy_genuine (op : UnaryOp) (operand : Ty) :
    Computes (op.resultTy operand) (fun _ => True) TypeError.Genuine := by
  cases op with
  | negate => exact (Ty.require_genuine .int operand).bind fun _ _ => trivial
  | not => exact (Ty.require_genuine .bool operand).bind fun _ _ => trivial
  | first | second => exact operand.components_genuine.bind fun _ _ => trivial

namespace BinaryOp

theorem requireLeft_genuine (op : BinaryOp) (left : Ty) :
    Computes (op.requireLeft left) (fun _ => True) TypeError.Genuine := by
  cases op with
  | and => exact Ty.require_genuine .bool left
  | mul | add | equal | pair => trivial

/-- Operands of arithmetic that no rule fits: they are not both integers and not both
vectors. -/
theorem arithmeticMismatch_genuine {left right : Ty}
    (notInts : left = .int → right = .int → False)
    (notVectors : left = .vector → right = .vector → False) :
    (arithmeticMismatch left right).Genuine := by
  cases left with
  | int => exact fun same => notInts rfl same.symm
  | vector => exact fun same => notVectors rfl same.symm
  | bool | pair => exact Ty.noConfusion

theorem resultTy_genuine (op : BinaryOp) (left right : Ty) :
    Computes (op.resultTy left right) (fun _ => True) TypeError.Genuine := by
  cases op with
  | pair => trivial
  | and =>
      apply (Ty.require_genuine .bool left).bind
      intro _ _
      exact (Ty.require_genuine .bool right).bind fun _ _ => trivial
  | equal => exact (Ty.require_genuine left right).bind fun _ _ => trivial
  | add =>
      unfold resultTy
      dsimp only
      split
      · trivial
      · trivial
      · next notInts notVectors => exact arithmeticMismatch_genuine notInts notVectors
  | mul =>
      unfold resultTy
      dsimp only
      split
      · trivial
      · trivial
      · trivial
      · trivial
      · next notInts notVectors _ _ => exact arithmeticMismatch_genuine notInts notVectors

end BinaryOp

theorem Expr.typeIn_genuine (types : Env Ty) (expr : Expr) :
    Computes (expr.typeIn types) (fun _ => True) TypeError.Genuine := by
  induction expr with
  | int | bool => trivial
  | var name =>
      rw [typeIn]
      cases types.lookup name <;> trivial
  | unary op operand ih =>
      rw [typeIn]
      exact ih.bind fun ty _ => op.resultTy_genuine ty
  | binary op left right leftIH rightIH =>
      rw [typeIn]
      apply leftIH.bind
      intro leftTy _
      apply (op.requireLeft_genuine leftTy).bind
      intro _ _
      exact rightIH.bind fun rightTy _ => op.resultTy_genuine leftTy rightTy
  | oneHot length index lengthIH indexIH =>
      rw [typeIn]
      apply lengthIH.bind
      intro lengthTy _
      apply (Ty.require_genuine .int lengthTy).bind
      intro _ _
      apply indexIH.bind
      intro indexTy _
      exact (Ty.require_genuine .int indexTy).bind fun _ _ => trivial

theorem Expr.requireTy_genuine (types : Env Ty) (expected : Ty) (expr : Expr) :
    Computes (expr.requireTy types expected) (fun _ => True) TypeError.Genuine :=
  (expr.typeIn_genuine types).bind fun found _ => expected.require_genuine found

theorem binding_genuine {α : Type} (result : Except NameError α) :
    Computes (result.mapError TypeError.binding) (fun _ => True) TypeError.Genuine := by
  cases result <;> trivial

theorem Env.inScope_failsOnly {α ε : Type} {bad : ε → Prop} {env : Env α}
    {body : Env α → Outcome ε (Env α)} (block : (body env.enter).FailsOnly bad) :
    (env.inScope body).FailsOnly bad :=
  block

namespace Stmt

mutual

/-- Every mismatch that a statement is refused for is genuine. -/
theorem check_genuine (types : Env Ty) (stmt : Stmt) :
    (check types stmt).FailsOnly TypeError.Genuine := by
  cases stmt with
  | declare name value =>
      rw [check]
      apply Outcome.failsOnly_withValue (value.typeIn_genuine types)
      intro ty
      exact Outcome.failsOnly_withValue (binding_genuine _) fun _ => trivial
  | assign name value =>
      rw [check]
      apply Outcome.failsOnly_withValue (value.typeIn_genuine types)
      intro found
      apply Outcome.failsOnly_withValue (binding_genuine _)
      intro declared
      apply Outcome.failsOnly_withValue (declared.require_genuine found)
      intro _
      exact Outcome.failsOnly_withValue (binding_genuine _) fun _ => trivial
  | print value =>
      rw [check]
      exact Outcome.failsOnly_withValue (value.typeIn_genuine types) fun _ => trivial
  | ifThen condition body =>
      rw [check]
      apply Outcome.failsOnly_withValue (condition.requireTy_genuine types .bool)
      intro _
      exact Env.inScope_failsOnly (checkAll_genuine types.enter body)
  | ifElse condition body alternative =>
      rw [check]
      apply Outcome.failsOnly_withValue (condition.requireTy_genuine types .bool)
      intro _
      apply Outcome.FailsOnly.andThen
        (Env.inScope_failsOnly (checkAll_genuine types.enter body))
      intro after
      exact Env.inScope_failsOnly (checkAll_genuine after.enter alternative)
  | forEach name elements body =>
      rw [check]
      apply Outcome.failsOnly_withValue (elements.requireTy_genuine types .vector)
      intro _
      apply Env.inScope_failsOnly
      apply Outcome.failsOnly_withValue (binding_genuine _)
      intro inside
      exact Env.inScope_failsOnly (checkAll_genuine inside.enter body)

/-- Every mismatch that a sequence is refused for is genuine. -/
theorem checkAll_genuine (types : Env Ty) (stmts : List Stmt) :
    (checkAll types stmts).FailsOnly TypeError.Genuine := by
  cases stmts with
  | nil => trivial
  | cons stmt rest =>
      rw [checkAll]
      exact (check_genuine types stmt).andThen fun after => checkAll_genuine after rest

end

end Stmt

/-! ## Reports of a run -/

/-- A mismatch reports a kind that was not asked for. -/
def EvalError.Genuine : EvalError → Prop
  | .mismatch expected found => expected ≠ found
  | .binding _ | .dimensionMismatch _ _ | .negativeLength _ | .indexOutOfBounds _ _ => True

namespace Value

theorem asInt_genuine (value : Value) :
    Computes value.asInt (fun _ => True) EvalError.Genuine := by
  cases value with
  | int => trivial
  | bool | pair | vector => exact Kind.noConfusion

theorem asBool_genuine (value : Value) :
    Computes value.asBool (fun _ => True) EvalError.Genuine := by
  cases value with
  | bool => trivial
  | int | pair | vector => exact Kind.noConfusion

theorem asPair_genuine (value : Value) :
    Computes value.asPair (fun _ => True) EvalError.Genuine := by
  cases value with
  | pair => trivial
  | int | bool | vector => exact Kind.noConfusion

theorem asVector_genuine (value : Value) :
    Computes value.asVector (fun _ => True) EvalError.Genuine := by
  cases value with
  | vector => trivial
  | int | bool | pair => exact Kind.noConfusion

theorem requireSameLength_genuine (left right : List Int32) :
    Computes (requireSameLength left right) (fun _ => True) EvalError.Genuine := by
  rw [requireSameLength]
  split <;> trivial

/-- Operands of arithmetic that no rule fits: they are not both integers and not both
vectors. -/
theorem arithmeticMismatch_genuine {left right : Value}
    (notInts : ∀ value other, left = .int value → right = .int other → False)
    (notVectors : ∀ elements others, left = .vector elements → right = .vector others → False) :
    (arithmeticMismatch left right).Genuine := by
  cases left with
  | int value =>
      cases right with
      | int other => exact (notInts value other rfl rfl).elim
      | bool | pair | vector => exact Kind.noConfusion
  | vector elements =>
      cases right with
      | vector others => exact (notVectors elements others rfl rfl).elim
      | int | bool | pair => exact Kind.noConfusion
  | bool | pair => exact Kind.noConfusion

theorem add_genuine (left right : Value) :
    Computes (left.add right) (fun _ => True) EvalError.Genuine := by
  unfold add
  split
  · trivial
  · exact (requireSameLength_genuine _ _).bind fun _ _ => trivial
  · next notInts notVectors => exact arithmeticMismatch_genuine notInts notVectors

theorem mul_genuine (left right : Value) :
    Computes (left.mul right) (fun _ => True) EvalError.Genuine := by
  unfold mul
  split
  · trivial
  · exact (requireSameLength_genuine _ _).bind fun _ _ => trivial
  · trivial
  · trivial
  · next notInts notVectors _ _ => exact arithmeticMismatch_genuine notInts notVectors

theorem and_genuine (left right : Value) :
    Computes (left.and right) (fun _ => True) EvalError.Genuine := by
  rw [Value.and]
  apply left.asBool_genuine.bind
  intro truth _
  cases truth with
  | true => exact right.asBool_genuine.bind fun _ _ => trivial
  | false => trivial

theorem oneHot_genuine (length index : Int32) :
    Computes (oneHot length index) (fun _ => True) EvalError.Genuine := by
  rw [oneHot]
  split
  · trivial
  · split <;> trivial

end Value

theorem UnaryOp.apply_genuine (op : UnaryOp) (operand : Value) :
    Computes (op.apply operand) (fun _ => True) EvalError.Genuine := by
  cases op with
  | negate => exact operand.asInt_genuine.bind fun _ _ => trivial
  | not => exact operand.asBool_genuine.bind fun _ _ => trivial
  | first | second => exact operand.asPair_genuine.bind fun _ _ => trivial

theorem BinaryOp.apply_genuine (op : BinaryOp) (left right : Value) :
    Computes (op.apply left right) (fun _ => True) EvalError.Genuine := by
  cases op with
  | mul => exact left.mul_genuine right
  | add => exact left.add_genuine right
  | and => exact left.and_genuine right
  | equal | pair => trivial

theorem Expr.eval_genuine (env : Env Value) (expr : Expr) :
    Computes (expr.eval env) (fun _ => True) EvalError.Genuine := by
  induction expr with
  | int | bool => trivial
  | var name =>
      rw [eval]
      cases env.lookup name <;> trivial
  | unary op operand ih =>
      rw [eval]
      exact ih.bind fun value _ => op.apply_genuine value
  | binary op left right leftIH rightIH =>
      rw [eval]
      apply leftIH.bind
      intro leftValue _
      exact rightIH.bind fun rightValue _ => op.apply_genuine leftValue rightValue
  | oneHot length index lengthIH indexIH =>
      rw [eval]
      apply lengthIH.bind
      intro lengthValue _
      apply lengthValue.asInt_genuine.bind
      intro length _
      apply indexIH.bind
      intro indexValue _
      apply indexValue.asInt_genuine.bind
      intro index _
      exact Value.oneHot_genuine length index

namespace Machine

theorem declare_genuine (machine : Machine) (name : Name) (value : Value) :
    (machine.declare name value).FailsOnly EvalError.Genuine := by
  rw [declare]
  refine Outcome.failsOnly_withValue ?_ fun _ => trivial
  cases machine.env.declare name value <;> trivial

theorem assign_genuine (machine : Machine) (name : Name) (value : Value) :
    (machine.assign name value).FailsOnly EvalError.Genuine := by
  rw [assign]
  refine Outcome.failsOnly_withValue ?_ fun _ => trivial
  cases machine.env.update name value <;> trivial

theorem inScope_failsOnly {bad : EvalError → Prop} {machine : Machine}
    {body : Machine → Outcome EvalError Machine}
    (block : (body { machine with env := machine.env.enter }).FailsOnly bad) :
    (machine.inScope body).FailsOnly bad :=
  block

end Machine

namespace Stmt

mutual

/-- Every mismatch that stops a statement is genuine. -/
theorem exec_genuine (machine : Machine) (stmt : Stmt) :
    (exec machine stmt).FailsOnly EvalError.Genuine := by
  cases stmt with
  | declare name value =>
      rw [exec]
      apply Outcome.failsOnly_withValue (value.eval_genuine machine.env)
      intro value
      exact machine.declare_genuine name value
  | assign name value =>
      rw [exec]
      apply Outcome.failsOnly_withValue (value.eval_genuine machine.env)
      intro value
      exact machine.assign_genuine name value
  | print value =>
      rw [exec]
      exact Outcome.failsOnly_withValue (value.eval_genuine machine.env) fun _ => trivial
  | ifThen condition body =>
      rw [exec]
      apply Outcome.failsOnly_withValue
        ((condition.eval_genuine machine.env).bind fun value _ => value.asBool_genuine)
      intro truth
      cases truth with
      | true => exact Machine.inScope_failsOnly (execAll_genuine _ body)
      | false => trivial
  | ifElse condition body alternative =>
      rw [exec]
      apply Outcome.failsOnly_withValue
        ((condition.eval_genuine machine.env).bind fun value _ => value.asBool_genuine)
      intro truth
      cases truth with
      | true => exact Machine.inScope_failsOnly (execAll_genuine _ body)
      | false => exact Machine.inScope_failsOnly (execAll_genuine _ alternative)
  | forEach name elements body =>
      rw [exec]
      apply Outcome.failsOnly_withValue
        ((elements.eval_genuine machine.env).bind fun value _ => value.asVector_genuine)
      intro elements
      apply Machine.inScope_failsOnly
      apply (Machine.declare_genuine _ name _).andThen
      intro machine
      refine Outcome.failsOnly_forEach elements (fun element machine => ?_) machine
      apply (machine.assign_genuine name (.int element)).andThen
      intro machine
      exact Machine.inScope_failsOnly (execAll_genuine _ body)

/-- Every mismatch that stops a sequence is genuine. -/
theorem execAll_genuine (machine : Machine) (stmts : List Stmt) :
    (execAll machine stmts).FailsOnly EvalError.Genuine := by
  cases stmts with
  | nil => trivial
  | cons stmt rest =>
      rw [execAll]
      exact (exec_genuine machine stmt).andThen fun machine => execAll_genuine machine rest

end

end Stmt

/-- Whatever is declared before, the type that a program is refused for is none of those
that were asked for, and reads differently; where any pair was asked for, it is no pair.
Types read the same only if they are the same. The kind of the value that stops a run is not
the kind that was asked for, and reads differently, too. -/
theorem mismatches_genuine :
    (∀ (types : Env Ty) (program : Program) (expected : ExpectedTy) (found : Ty),
      (Stmt.checkAll types program).error? = some (.mismatch expected found) →
      expected.text ≠ found.text ∧
        (expected = .somePair → ∀ first second, found ≠ .pair first second)) ∧
    (∀ ty other : Ty, ty.text = other.text ↔ ty = other) ∧
    ∀ (machine : Machine) (program : Program) (expected found : Kind),
      (Stmt.execAll machine program).error? = some (.mismatch expected found) →
      expected ≠ found ∧ expected.text ≠ found.text := by
  refine ⟨?_, fun _ _ => Ty.text_inj, ?_⟩
  · intro types program expected found refused
    have genuine : ¬ expected.Admits found :=
      (Stmt.checkAll_genuine types program).of_failure refused
    refine ⟨ExpectedTy.text_ne_of_not_admits genuine, ?_⟩
    rintro rfl first second rfl
    exact genuine ⟨first, second, rfl⟩
  · intro machine program expected found stopped
    have genuine : expected ≠ found :=
      (Stmt.execAll_genuine machine program).of_failure stopped
    exact ⟨genuine, fun same => genuine (Kind.text_inj.mp same)⟩

/-- A pair that is assigned to a pair of another type, a vector where a pair was asked for,
and a number that is added to a vector. -/
theorem mismatches_genuine_of_pair :
    ((Stmt.checkAll ⟨[("x", .pair .int .bool)], []⟩
        [.assign "x" (.binary .pair (.int 1) (.int 2))]).error? =
          some (.mismatch (.exactly (.pair .int .bool)) (.pair .int .int)) ∧
      ExpectedTy.text (.exactly (.pair .int .bool)) ≠ Ty.text (.pair .int .int)) ∧
    ((Stmt.checkAll .empty [.print (.unary .first (.oneHot (.int 2) (.int 0)))]).error? =
        some (.mismatch .somePair .vector) ∧
      ∀ first second, Ty.vector ≠ .pair first second) ∧
    (Stmt.execAll ⟨⟨[("v", .vector [1, 0])], []⟩, #[]⟩
        [.forEach "x" (.var "v") [.print (.binary .add (.var "v") (.var "x"))]]).error? =
          some (.mismatch .vector .int) ∧
      Kind.vector ≠ .int := by
  refine ⟨⟨rfl, ?_⟩, ⟨rfl, ?_⟩, rfl, ?_⟩
  · exact (mismatches_genuine.1 ⟨[("x", .pair .int .bool)], []⟩
      [.assign "x" (.binary .pair (.int 1) (.int 2))] _ _ rfl).1
  · exact (mismatches_genuine.1 .empty
      [.print (.unary .first (.oneHot (.int 2) (.int 0)))] _ _ rfl).2 rfl
  · exact (mismatches_genuine.2.2 ⟨⟨[("v", .vector [1, 0])], []⟩, #[]⟩
      [.forEach "x" (.var "v") [.print (.binary .add (.var "v") (.var "x"))]] _ _ rfl).1

end VectorLang
