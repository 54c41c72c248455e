import VectorLang.Proofs.Soundness

/-!
# Straight-line programs

A program without `if`, assignment, `==` and `&&` leaves nothing unexecuted that was
checked: operands are all evaluated, and a loop runs its block at least once since no
vector is empty. So where the check of such a program stops with an error, the run
stops with the same error, unless the shape of a vector stopped it before.
-/

namespace VectorLang

/-! ## The programs -/

/-- Expressions without `==` and `&&`. -/
def Expr.isPlain : Expr → Bool
  | .int _ | .bool _ | .var _ => true
  | .unary _ operand => operand.isPlain
  | .binary op left right => op != .equal && op != .and && left.isPlain && right.isPlain
  | .oneHot length index => length.isPlain && index.isPlain

namespace Stmt

mutual

/-- Statements without `if` and assignments, over plain expressions. -/
def isStraight : Stmt → Bool
  | .declare _ value | .print value => value.isPlain
  | .forEach _ elements body => elements.isPlain && areStraight body
  | .assign _ _ | .ifThen _ _ | .ifElse _ _ _ => false

/-- Sequences of such statements. -/
def areStraight : List Stmt → Bool
  | [] => true
  | stmt :: rest => isStraight stmt && areStraight rest

end

end Stmt

/-! ## Errors of both phases -/

/-- The kind of the values of a type. -/
def Ty.kind : Ty → Kind
  | .int => .int
  | .bool => .bool
  | .pair _ _ => .pair
  | .vector => .vector

/-- The kind of value that a context asks for. -/
def ExpectedTy.kind : ExpectedTy → Kind
  | .exactly ty => ty.kind
  | .somePair => .pair

/-- A type error as a running program reports it. -/
def TypeError.atRuntime : TypeError → EvalError
  | .mismatch expected found => .mismatch expected.kind found.kind
  | .binding error => .binding error

/-- A runtime error is the one that the check found, or a shape came first. -/
def EvalError.Mirrors (failure : EvalError) (error : TypeError) : Prop :=
  failure.isShape ∨ failure = error.atRuntime

theorem Ty.require_eq_error_iff {expected found : Ty} {error : TypeError} :
    expected.require found = .error error ↔
      expected ≠ found ∧ error = .mismatch (.exactly expected) found := by
  by_cases equal : expected = found <;> simp [Ty.require, equal, eq_comm]

/-! ## Operators -/

namespace Value

variable {value left right : Value} {error : TypeError}

theorem asInt_of_mismatch (rejected : Ty.require .int value.ty = .error error) :
    value.asInt = .error error.atRuntime := by
  rcases Ty.require_eq_error_iff.mp rejected with ⟨different, rfl⟩
  cases value with
  | int => contradiction
  | bool | pair | vector => rfl

theorem asBool_of_mismatch (rejected : Ty.require .bool value.ty = .error error) :
    value.asBool = .error error.atRuntime := by
  rcases Ty.require_eq_error_iff.mp rejected with ⟨different, rfl⟩
  cases value with
  | bool => contradiction
  | int | pair | vector => rfl

theorem asVector_of_mismatch (rejected : Ty.require .vector value.ty = .error error) :
    value.asVector = .error error.atRuntime := by
  rcases Ty.require_eq_error_iff.mp rejected with ⟨different, rfl⟩
  cases value with
  | vector => contradiction
  | int | bool | pair => rfl

theorem asPair_of_mismatch (rejected : value.ty.components = .error error) :
    value.asPair = .error error.atRuntime := by
  cases value <;> cases rejected <;> rfl

end Value

theorem UnaryOp.apply_of_mismatch {op : UnaryOp} {operand : Value} {error : TypeError}
    (rejected : op.resultTy operand.ty = .error error) :
    op.apply operand = .error error.atRuntime := by
  cases op with
  | negate =>
      have rejected : Ty.require .int operand.ty = .error error := by
        simpa [resultTy, bind_eq_error_iff] using rejected
      rw [apply, Value.asInt_of_mismatch rejected]
      rfl
  | not =>
      have rejected : Ty.require .bool operand.ty = .error error := by
        simpa [resultTy, bind_eq_error_iff] using rejected
      rw [apply, Value.asBool_of_mismatch rejected]
      rfl
  | first | second =>
      have rejected : operand.ty.components = .error error := by
        simpa [resultTy, bind_eq_error_iff] using rejected
      rw [apply, Value.asPair_of_mismatch rejected]
      rfl

theorem BinaryOp.apply_of_mismatch {op : BinaryOp} (notEqual : op ≠ .equal) (notAnd : op ≠ .and)
    {left right : Value} {error : TypeError}
    (rejected : op.resultTy left.ty right.ty = .error error) :
    op.apply left right = .error error.atRuntime := by
  cases op with
  | equal => contradiction
  | and => contradiction
  | pair => simp [resultTy] at rejected
  | add | mul => cases left <;> cases right <;> cases rejected <;> rfl

theorem BinaryOp.requireLeft_of_ne_and {op : BinaryOp} (notAnd : op ≠ .and) (left : Ty) :
    op.requireLeft left = .ok () := by
  cases op with
  | and => contradiction
  | mul | add | equal | pair => rfl

/-! ## Expressions -/

/-- Without a mismatch a value is there, or the shape of a vector stopped it. -/
theorem Expr.eval_of_typed {types : Env Ty} {values : Env Value}
    (agrees : Env.Agrees True types values) {expr : Expr} {ty : Ty}
    (typed : expr.typeIn types = .ok ty) (error : TypeError) :
    Computes (expr.eval values) (·.ty = ty) (·.Mirrors error) :=
  (eval_sound agrees.find? typed).mono (fun _ => id) fun _ tolerated =>
    .inl tolerated.isShape

/-- The first type error of a plain expression is its first runtime error. -/
theorem Expr.eval_of_mismatch {types : Env Ty} {values : Env Value}
    (agrees : Env.Agrees True types values) {expr : Expr} (plain : expr.isPlain)
    {error : TypeError} (rejected : expr.typeIn types = .error error) :
    Computes (expr.eval values) (fun _ => False) (·.Mirrors error) := by
  induction expr with
  | int | bool => contradiction
  | var name =>
      rw [typeIn, Env.lookup_eq_error_iff] at rejected
      rcases rejected with ⟨untyped, rfl⟩
      have found := agrees.find? name
      rw [untyped] at found
      rw [eval, Env.lookup_eq_error_iff.mpr ⟨found.eq_none, rfl⟩]
      exact .inr rfl
  | unary op operand ih =>
      rw [typeIn, bind_eq_error_iff] at rejected
      rw [eval]
      rcases rejected with rejected | ⟨operandTy, typed, rejected⟩
      · exact (ih plain rejected).bind_of_fails _
      · apply (eval_of_typed agrees typed error).bind
        intro value valueTy
        rw [UnaryOp.apply_of_mismatch (valueTy ▸ rejected)]
        exact .inr rfl
  | binary op left right leftIH rightIH =>
      simp only [isPlain, Bool.and_eq_true, bne_iff_ne] at plain
      rcases plain with ⟨⟨⟨notEqual, notAnd⟩, plainLeft⟩, plainRight⟩
      rw [typeIn, bind_eq_error_iff] at rejected
      rw [eval]
      rcases rejected with rejected | ⟨leftTy, leftTyped, rejected⟩
      · exact (leftIH plainLeft rejected).bind_of_fails _
      rw [BinaryOp.requireLeft_of_ne_and notAnd, ok_bind, bind_eq_error_iff] at rejected
      apply (eval_of_typed agrees leftTyped error).bind
      intro leftValue leftValueTy
      rcases rejected with rejected | ⟨rightTy, rightTyped, rejected⟩
      · exact (rightIH plainRight rejected).bind_of_fails _
      apply (eval_of_typed agrees rightTyped error).bind
      intro rightValue rightValueTy
      subst leftValueTy rightValueTy
      rw [BinaryOp.apply_of_mismatch notEqual notAnd rejected]
      exact .inr rfl
  | oneHot length index lengthIH indexIH =>
      simp only [isPlain, Bool.and_eq_true] at plain
      rw [typeIn, bind_eq_error_iff] at rejected
      rw [eval]
      rcases rejected with rejected | ⟨lengthTy, lengthTyped, rejected⟩
      · exact (lengthIH plain.1 rejected).bind_of_fails _
      apply (eval_of_typed agrees lengthTyped error).bind
      intro lengthValue lengthValueTy
      subst lengthValueTy
      rcases bind_eq_error_iff.mp rejected with mismatch | ⟨_, lengthInt, rejectedIndex⟩
      · rw [Value.asInt_of_mismatch mismatch]
        exact .inr rfl
      rcases Value.ty_eq_int_iff.mp (Ty.require_eq_ok_iff.mp lengthInt).symm with ⟨number, rfl⟩
      rw [Value.asInt, ok_bind]
      rcases bind_eq_error_iff.mp rejectedIndex with unfit | ⟨indexTy, indexTyped, unfit⟩
      · exact (indexIH plain.2 unfit).bind_of_fails _
      apply (eval_of_typed agrees indexTyped error).bind
      intro indexValue indexValueTy
      subst indexValueTy
      rcases bind_eq_error_iff.mp unfit with mismatch | ⟨_, _, impossible⟩
      · rw [Value.asInt_of_mismatch mismatch]
        exact .inr rfl
      · contradiction

/-! ## Statements -/

namespace Machine

variable {machine : Machine} {types : Env Ty}

/-- A machine that the check of a statement in `types` foresees. -/
structure Foreseen (types : Env Ty) (machine : Machine) : Prop where
  agrees : Env.Agrees True types machine.env
  sized : machine.WellSized

theorem Foreseen.enter (foreseen : Foreseen types machine) :
    Foreseen types.enter { machine with env := machine.env.enter } :=
  ⟨foreseen.agrees.enter, foreseen.sized.enter⟩

end Machine

/-- What a loop cannot run over stops it with the error of the check. -/
theorem Expr.asVector_of_unfit {types : Env Ty} {values : Env Value}
    (agrees : Env.Agrees True types values) {elements : Expr} (plain : elements.isPlain)
    {error : TypeError} (unfit : elements.requireTy types .vector = .error error) :
    Computes (elements.eval values >>= Value.asVector) (fun _ => False) (·.Mirrors error) := by
  rcases bind_eq_error_iff.mp unfit with rejected | ⟨ty, typed, mismatch⟩
  · exact (eval_of_mismatch agrees plain rejected).bind_of_fails _
  · apply (eval_of_typed agrees typed error).bind
    intro value valueTy
    rw [Value.asVector_of_mismatch (valueTy ▸ mismatch)]
    exact .inr rfl

/-- The vector that a loop runs over has a first element. -/
theorem Expr.asVector_of_typed {types : Env Ty} {machine : Machine}
    (foreseen : machine.Foreseen types) {elements : Expr}
    (typed : elements.typeIn types = .ok .vector) (error : TypeError) :
    Computes (elements.eval machine.env >>= Value.asVector) (· ≠ []) (·.Mirrors error) := by
  have sized := elements.eval_wellSized foreseen.sized.env
  apply (((eval_of_typed foreseen.agrees typed error).and sized).mono (fun _ => id)
    fun _ both => both.1).bind
  intro value ⟨valueTy, valueSized⟩
  rcases Value.ty_eq_vector_iff.mp valueTy with ⟨elements, rfl⟩
  exact List.ne_nil_of_length_pos valueSized.1

/-- A sound run of a machine with vectors in range only stops for shapes. -/
theorem Outcome.Sound.foreseen {outcome : Outcome EvalError Machine} {after : Env Ty}
    (sound : outcome.Sound True after) (sized : outcome.state.WellSized) (error : TypeError) :
    outcome.Ensures (Machine.Foreseen after) fun failure _ => failure.Mirrors error :=
  (sound.and (ensures_both_iff.mpr sized)).mono (fun _ ⟨agrees, sized⟩ => ⟨agrees, sized⟩)
    fun _ _ ⟨⟨tolerated, _⟩, _⟩ => .inl tolerated.isShape

/-- A run that must stop, and does so with the error of the check. -/
def Outcome.StopsWith (error : TypeError) (outcome : Outcome EvalError Machine) : Prop :=
  outcome.Ensures (fun _ => False) fun failure _ => failure.Mirrors error

namespace Stmt

variable {types : Env Ty} {machine : Machine} {error : TypeError}

/-- What the check rejects in the block of a loop stops the first round. -/
theorem forEach_stops {name : Name} {body : Machine → Outcome EvalError Machine}
    (foreseen : machine.Foreseen types)
    (block : ∀ machine : Machine, machine.Foreseen (types.loop name .int).enter →
      (body machine).StopsWith error)
    {elements : List Int32} (nonempty : elements ≠ []) :
    (machine.inScope fun machine =>
      (machine.declare name (.int 0)).andThen
        (Outcome.forEach (fun element machine =>
          (machine.assign name (.int element)).andThen fun machine =>
            machine.inScope body) elements)).StopsWith error := by
  rcases List.exists_cons_of_ne_nil nonempty with ⟨first, rest, rfl⟩
  have new : types.enter.innermost.lookup name = none := rfl
  have number (element : Int32) : (Value.int element).WellSized := trivial
  have declared := (Machine.declare_sound foreseen.agrees.enter new).foreseen
    (Outcome.ensures_both_iff.mp
      (Machine.declare_wellSized foreseen.sized.enter (number 0))) error
  refine Outcome.Ensures.mapState (declared.andThen ?_) (fun _ => id) fun _ _ => id
  intro machine foreseen
  have typed : (types.loop name .int).find? name = some (Value.int first).ty := by
    simp [Env.loop, Env.find?, Env.scopes, Value.ty]
  have assigned := (Machine.assign_sound foreseen.agrees typed).foreseen
    (Outcome.ensures_both_iff.mp (Machine.assign_wellSized foreseen.sized (number first))) error
  -- the first round stops, so the others do not matter
  apply Outcome.Ensures.andThen_of_fails
  apply assigned.andThen
  intro machine foreseen
  exact Outcome.Ensures.mapState (block _ foreseen.enter) (fun _ => id) fun _ _ => id

/-- A name that the check finds declared twice is declared twice in the run. -/
theorem declare_stops (foreseen : machine.Foreseen types) {name : Name} {ty : Ty}
    (bound : (types.declare name ty).mapError .binding = .error error) (value : Value) :
    (machine.declare name value).StopsWith error := by
  rcases Env.declare_eq_error_iff.mp bound with ⟨typed, rfl⟩
  have present : machine.env.innermost.lookup name ≠ none := by
    intro absent
    have agree := (foreseen.agrees.innermost name).map_eq
    rw [absent] at agree
    exact typed agree.symm
  rw [Machine.declare, Env.declare_eq_error_iff.mpr ⟨present, rfl⟩]
  exact .inr rfl

mutual

/-- Where the check of a straight-line statement stops, its run stops. -/
theorem exec_stops {types : Env Ty} {machine : Machine} (foreseen : machine.Foreseen types)
    (stmt : Stmt) (straight : isStraight stmt)
    (rejected : (check types stmt).error? = some error) :
    (exec machine stmt).StopsWith error := by
  cases stmt with
  | declare name value =>
      rw [check, Outcome.withValue_fails_iff] at rejected
      rw [exec]
      rcases rejected with untyped | ⟨ty, typed, rejected⟩
      · have stops := value.eval_of_mismatch foreseen.agrees straight untyped
        exact Outcome.ensures_withValue_of_computes stops (fun _ => id) fun _ => False.elim
      · have going := value.eval_of_typed foreseen.agrees typed error
        refine Outcome.ensures_withValue_of_computes going (fun _ => id) ?_
        intro value _
        rcases Outcome.withValue_fails_iff.mp rejected with bound | ⟨_, _, impossible⟩
        · exact declare_stops foreseen bound value
        · contradiction
  | print value =>
      rw [check, Outcome.withValue_fails_iff] at rejected
      rw [exec]
      rcases rejected with untyped | ⟨_, _, impossible⟩
      · have stops := value.eval_of_mismatch foreseen.agrees straight untyped
        exact Outcome.ensures_withValue_of_computes stops (fun _ => id) fun _ => False.elim
      · contradiction
  | forEach name elements body =>
      simp only [isStraight, Bool.and_eq_true] at straight
      rw [check, Outcome.withValue_fails_iff] at rejected
      rw [exec]
      rcases rejected with unfit | ⟨_, typed, rejected⟩
      · have stops := elements.asVector_of_unfit foreseen.agrees straight.1 unfit
        exact Outcome.ensures_withValue_of_computes stops (fun _ => id) fun _ => False.elim
      · have going := elements.asVector_of_typed foreseen (Expr.requireTy_eq_ok_iff.mp typed) error
        refine Outcome.ensures_withValue_of_computes going (fun _ => id) ?_
        intro elements nonempty
        rw [Env.inScope, Env.declare_enter] at rejected
        exact forEach_stops foreseen
          (fun machine foreseen => execAll_stops foreseen body straight.2 rejected) nonempty
  | assign | ifThen | ifElse => contradiction

/-- Where the check of a straight-line sequence stops, its run stops. -/
theorem execAll_stops {types : Env Ty} {machine : Machine} (foreseen : machine.Foreseen types)
    (stmts : List Stmt) (straight : areStraight stmts)
    (rejected : (checkAll types stmts).error? = some error) :
    (execAll machine stmts).StopsWith error := by
  cases stmts with
  | nil => contradiction
  | cons stmt rest =>
      simp only [areStraight, Bool.and_eq_true] at straight
      rw [checkAll, Outcome.andThen_fails_iff] at rejected
      rw [execAll]
      rcases rejected with rejectedFirst | ⟨accepted, rejectedRest⟩
      · exact (exec_stops foreseen stmt straight.1 rejectedFirst).andThen_of_fails _
      · apply ((exec_sound foreseen.agrees stmt accepted).foreseen
          (exec_wellSized foreseen.sized stmt) error).andThen
        intro machine foreseen
        exact execAll_stops foreseen rest straight.2 rejectedRest

end

end Stmt

/-- On straight-line programs the first error of the check is that of the run, unless
the shape of a vector stops the run before. -/
theorem straight_line_check_first_error (program : Program)
    (straight : Stmt.areStraight program) :
    (∀ error, program.check = .error error →
      ∃ failure, program.exec.error? = some failure ∧ failure.Mirrors error) ∧
    (program.exec.error? = none → program.check = .ok ()) := by
  have stops (error : TypeError) (rejected : program.check = .error error) :
      ∃ failure, program.exec.error? = some failure ∧ failure.Mirrors error := by
    have foreseen : Machine.Foreseen .empty .start := ⟨.empty True, Machine.start_wellSized⟩
    have stop := Stmt.execAll_stops foreseen program straight
      (Outcome.result_eq_error_iff.mp rejected)
    cases failed : program.exec.error? with
    | none => exact (stop.of_success failed).elim
    | some failure => exact ⟨failure, rfl, stop.of_failure failed⟩
  refine ⟨stops, ?_⟩
  intro success
  cases checked : program.check with
  | ok => rfl
  | error error =>
      rcases stops error checked with ⟨failure, failed, _⟩
      simp [success] at failed

/-- A block that hides the vector of an outer loop by a number, over which it loops, and
a loop that runs to its end. -/
theorem straight_line_check_first_error_of_loop :
    (∃ program : Program, Stmt.areStraight program ∧
      ∃ failure, program.exec.error? = some failure ∧
        failure.Mirrors (.mismatch (.exactly .vector) .int)) ∧
    ∃ program : Program, Stmt.areStraight program ∧ program.exec.error? = none ∧
      program.check = .ok () := by
  constructor
  · have straight : Stmt.areStraight
        [.declare "x" (.oneHot (.int 2) (.int 0)),
          .forEach "y" (.var "x")
            [.declare "x" (.var "y"), .forEach "z" (.var "x") []]] := rfl
    exact ⟨_, straight, (straight_line_check_first_error _ straight).1 _ rfl⟩
  · have straight : Stmt.areStraight
        [.forEach "y" (.oneHot (.int 2) (.int 0)) [.print (.binary .mul (.var "y") (.int 3))]] :=
      rfl
    exact ⟨_, straight, rfl, (straight_line_check_first_error _ straight).2 rfl⟩

end VectorLang
