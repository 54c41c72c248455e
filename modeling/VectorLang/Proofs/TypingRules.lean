import VectorLang.Proofs.Typing

/-!
# Typing rules

The rules that say which programs are well typed, independently of any checking. A
context is never changed: a declaration leads from its context to a larger one, in which
the rest of its sequence is typed, and the context of a block is dropped behind the block.

The checker decides these rules. Its environment is the context of the rules before and
behind every statement.
-/

namespace VectorLang

/-- The types of names, scope by scope from the inside out. -/
abbrev Context := List (Scope Ty)

/-- The innermost binding of the name has the type. -/
inductive Context.Binds (name : Name) (ty : Ty) : Context → Prop where
  | here {scope : Scope Ty} {outer : Context} :
      scope.lookup name = some ty → Binds name ty (scope :: outer)
  | outward {scope : Scope Ty} {outer : Context} :
      scope.lookup name = none → Binds name ty outer → Binds name ty (scope :: outer)

/-! ## Expressions -/

/-- The operator takes the first type to the second one. -/
inductive UnaryOp.Takes : UnaryOp → Ty → Ty → Prop where
  | negate : Takes .negate .int .int
  | not : Takes .not .bool .bool
  | first (first second : Ty) : Takes .first (.pair first second) first
  | second (first second : Ty) : Takes .second (.pair first second) second

/-- The operator takes the first two types to the third one. -/
inductive BinaryOp.Takes : BinaryOp → Ty → Ty → Ty → Prop where
  | addInt : Takes .add .int .int .int
  | addVector : Takes .add .vector .vector .vector
  | mulInt : Takes .mul .int .int .int
  /-- The dot product. -/
  | mulVector : Takes .mul .vector .vector .int
  | scaleLeft : Takes .mul .int .vector .vector
  | scaleRight : Takes .mul .vector .int .vector
  | and : Takes .and .bool .bool .bool
  | equal (ty : Ty) : Takes .equal ty ty .bool
  | pair (left right : Ty) : Takes .pair left right (.pair left right)

/-- The expression has the type in the context. -/
inductive Expr.HasTy (context : Context) : Expr → Ty → Prop where
  | int (value : Int32) : HasTy context (.int value) .int
  | bool (value : Bool) : HasTy context (.bool value) .bool
  | var {name : Name} {ty : Ty} : context.Binds name ty → HasTy context (.var name) ty
  | unary {op : UnaryOp} {operand : Expr} {operandTy ty : Ty} :
      HasTy context operand operandTy → op.Takes operandTy ty →
      HasTy context (.unary op operand) ty
  | binary {op : BinaryOp} {left right : Expr} {leftTy rightTy ty : Ty} :
      HasTy context left leftTy → HasTy context right rightTy → op.Takes leftTy rightTy ty →
      HasTy context (.binary op left right) ty
  | oneHot {length index : Expr} :
      HasTy context length .int → HasTy context index .int →
      HasTy context (.oneHot length index) .vector

/-! ## Statements -/

namespace Stmt

mutual

/-- The statement is typed in the first context, and what follows it in the second one. -/
inductive Typed : Context → Stmt → Context → Prop where
  | declare {scope : Scope Ty} {outer : Context} {name : Name} {value : Expr} {ty : Ty} :
      value.HasTy (scope :: outer) ty → scope.lookup name = none →
      Typed (scope :: outer) (.declare name value) (((name, ty) :: scope) :: outer)
  | assign {context : Context} {name : Name} {value : Expr} {ty : Ty} :
      value.HasTy context ty → context.Binds name ty → Typed context (.assign name value) context
  | print {context : Context} {value : Expr} {ty : Ty} :
      value.HasTy context ty → Typed context (.print value) context
  | ifThen {context inner : Context} {condition : Expr} {body : Block} :
      condition.HasTy context .bool → TypedAll ([] :: context) body inner →
      Typed context (.ifThen condition body) context
  | ifElse {context inner innerElse : Context} {condition : Expr} {body alternative : Block} :
      condition.HasTy context .bool → TypedAll ([] :: context) body inner →
      TypedAll ([] :: context) alternative innerElse →
      Typed context (.ifElse condition body alternative) context
  /-- The loop variable has a scope of its own around the block. -/
  | forEach {context inner : Context} {name : Name} {elements : Expr} {body : Block} :
      elements.HasTy context .vector → TypedAll ([] :: [(name, .int)] :: context) body inner →
      Typed context (.forEach name elements body) context

/-- The statements are typed one after the other. -/
inductive TypedAll : Context → List Stmt → Context → Prop where
  | nil (context : Context) : TypedAll context [] context
  | cons {before middle after : Context} {stmt : Stmt} {rest : List Stmt} :
      Typed before stmt middle → TypedAll middle rest after →
      TypedAll before (stmt :: rest) after

end

end Stmt

/-! ## The checker follows the rules -/

/-- The environment finds the innermost binding. -/
theorem Context.binds_iff {types : Env Ty} {name : Name} {ty : Ty} :
    Binds name ty types.scopes ↔ types.find? name = some ty := by
  rw [Env.find?]
  induction types.scopes with
  | nil =>
      constructor
      · intro binds
        cases binds
      · simp
  | cons scope outer ih =>
      cases bound : scope.lookup name with
      | none =>
          rw [List.findSome?_cons, bound, ← ih]
          constructor
          · intro binds
            cases binds with
            | here found => simp [bound] at found
            | outward _ binds => exact binds
          · exact .outward bound
      | some inner =>
          rw [List.findSome?_cons, bound]
          constructor
          · intro binds
            cases binds with
            | here found => exact bound.symm.trans found
            | outward missing _ => simp [bound] at missing
          · intro equal
            exact .here (bound.trans equal)

theorem UnaryOp.takes_iff {op : UnaryOp} {operand ty : Ty} :
    op.Takes operand ty ↔ op.resultTy operand = .ok ty := by
  constructor
  · intro takes
    cases takes <;> rfl
  · intro typed
    cases op <;> cases operand <;> cases typed <;> constructor

theorem BinaryOp.takes_iff {op : BinaryOp} {left right ty : Ty} :
    op.Takes left right ty ↔ op.resultTy left right = .ok ty := by
  constructor
  · intro takes
    cases takes with
    | equal ty => simp [resultTy, Ty.require]
    | addInt | addVector | mulInt | mulVector | scaleLeft | scaleRight | and | pair => rfl
  · intro typed
    cases op with
    | add | mul | and => cases left <;> cases right <;> cases typed <;> constructor
    | pair =>
        cases typed
        exact .pair left right
    | equal =>
        simp only [resultTy, bind_eq_ok_iff, Ty.require_eq_ok_iff, pure_eq_ok,
          Except.ok.injEq] at typed
        rcases typed with ⟨_, rfl, rfl⟩
        exact .equal left

/-- What an operator takes passes the question that is asked before its right operand. -/
theorem BinaryOp.Takes.requireLeft {op : BinaryOp} {left right ty : Ty}
    (takes : op.Takes left right ty) : op.requireLeft left = .ok () := by
  cases takes <;> rfl

/-- The checker finds the types that the rules give. -/
theorem Expr.hasTy_iff {types : Env Ty} {expr : Expr} {ty : Ty} :
    expr.HasTy types.scopes ty ↔ expr.typeIn types = .ok ty := by
  constructor
  · intro hasTy
    induction hasTy with
    | int | bool => rfl
    | var binds => rwa [typeIn, Env.lookup_eq_ok_iff, ← Context.binds_iff]
    | unary _ takes ih => rwa [typeIn, ih, ok_bind, ← UnaryOp.takes_iff]
    | binary _ _ takes leftIH rightIH =>
        rwa [typeIn, leftIH, ok_bind, takes.requireLeft, ok_bind, rightIH, ok_bind,
          ← BinaryOp.takes_iff]
    | oneHot _ _ lengthIH indexIH =>
        rw [typeIn, lengthIH, indexIH]
        rfl
  · intro typed
    induction expr generalizing ty with
    | int value =>
        cases typed
        exact .int value
    | bool value =>
        cases typed
        exact .bool value
    | var name =>
        rw [typeIn, Env.lookup_eq_ok_iff] at typed
        exact .var (Context.binds_iff.mpr typed)
    | unary op operand ih =>
        simp only [typeIn, bind_eq_ok_iff] at typed
        rcases typed with ⟨operandTy, operandTyped, typed⟩
        exact .unary (ih operandTyped) (UnaryOp.takes_iff.mpr typed)
    | binary op left right leftIH rightIH =>
        simp only [typeIn, bind_eq_ok_iff] at typed
        rcases typed with ⟨leftTy, leftTyped, _, _, rightTy, rightTyped, typed⟩
        exact .binary (leftIH leftTyped) (rightIH rightTyped) (BinaryOp.takes_iff.mpr typed)
    | oneHot length index lengthIH indexIH =>
        simp only [typeIn, bind_eq_ok_iff, Ty.require_eq_ok_iff, pure_eq_ok,
          Except.ok.injEq] at typed
        rcases typed with ⟨_, lengthTyped, _, rfl, _, indexTyped, _, rfl, rfl⟩
        exact .oneHot (lengthIH lengthTyped) (indexIH indexTyped)

namespace Stmt

mutual

/-- A statement passes the check where the rules type it, and then the environment is the
context behind it. -/
theorem typed_iff (types : Env Ty) (stmt : Stmt) {after : Context} :
    Typed types.scopes stmt after ↔
      (check types stmt).error? = none ∧ (check types stmt).state.scopes = after := by
  cases stmt with
  | declare name value =>
      rw [check_declare_succeeds_iff]
      constructor
      · intro typed
        cases typed with
        | declare valueTyped new =>
            have typed := Expr.hasTy_iff.mp valueTyped
            rw [check_declare_of_typed typed new]
            exact ⟨⟨_, typed, new⟩, rfl⟩
      · intro ⟨⟨ty, typed, new⟩, equal⟩
        rw [check_declare_of_typed typed new] at equal
        rw [← equal]
        exact .declare (Expr.hasTy_iff.mpr typed) new
  | assign name value =>
      rw [check_assign_succeeds_iff, state_check_of_ne_declare types _ (by simp)]
      constructor
      · intro typed
        cases typed with
        | assign typed binds =>
            exact ⟨⟨_, Expr.hasTy_iff.mp typed, Context.binds_iff.mp binds⟩, rfl⟩
      · intro ⟨⟨ty, typed, bound⟩, equal⟩
        rw [← equal]
        exact .assign (Expr.hasTy_iff.mpr typed) (Context.binds_iff.mpr bound)
  | print value =>
      rw [check_print_succeeds_iff, state_check_of_ne_declare types _ (by simp)]
      constructor
      · intro typed
        cases typed with
        | print typed => exact ⟨⟨_, Expr.hasTy_iff.mp typed⟩, rfl⟩
      · intro ⟨⟨ty, typed⟩, equal⟩
        rw [← equal]
        exact .print (Expr.hasTy_iff.mpr typed)
  | ifThen condition body =>
      rw [check_ifThen_succeeds_iff, state_check_of_ne_declare types _ (by simp)]
      constructor
      · intro typed
        cases typed with
        | ifThen truth bodyTyped =>
            have accepted := ((typedAll_iff types.enter body).mp bodyTyped).1
            exact ⟨⟨Expr.hasTy_iff.mp truth, accepted⟩, rfl⟩
      · intro ⟨⟨truth, accepted⟩, equal⟩
        rw [← equal]
        have bodyTyped := (typedAll_iff types.enter body).mpr ⟨accepted, rfl⟩
        exact .ifThen (Expr.hasTy_iff.mpr truth) bodyTyped
  | ifElse condition body alternative =>
      rw [check_ifElse_succeeds_iff, state_check_of_ne_declare types _ (by simp)]
      constructor
      · intro typed
        cases typed with
        | ifElse truth bodyTyped elseTyped =>
            have accepted := ((typedAll_iff types.enter body).mp bodyTyped).1
            have acceptedElse := ((typedAll_iff types.enter alternative).mp elseTyped).1
            exact ⟨⟨Expr.hasTy_iff.mp truth, accepted, acceptedElse⟩, rfl⟩
      · intro ⟨⟨truth, accepted, acceptedElse⟩, equal⟩
        rw [← equal]
        have bodyTyped := (typedAll_iff types.enter body).mpr ⟨accepted, rfl⟩
        have elseTyped := (typedAll_iff types.enter alternative).mpr ⟨acceptedElse, rfl⟩
        exact .ifElse (Expr.hasTy_iff.mpr truth) bodyTyped elseTyped
  | forEach name elements body =>
      rw [check_forEach_succeeds_iff, state_check_of_ne_declare types _ (by simp)]
      constructor
      · intro typed
        cases typed with
        | forEach vector bodyTyped =>
            have accepted := ((typedAll_iff (types.loop name .int).enter body).mp bodyTyped).1
            exact ⟨⟨Expr.hasTy_iff.mp vector, accepted⟩, rfl⟩
      · intro ⟨⟨vector, accepted⟩, equal⟩
        rw [← equal]
        have bodyTyped := (typedAll_iff (types.loop name .int).enter body).mpr ⟨accepted, rfl⟩
        exact .forEach (Expr.hasTy_iff.mpr vector) bodyTyped

/-- The same of a sequence. -/
theorem typedAll_iff (types : Env Ty) (stmts : List Stmt) {after : Context} :
    TypedAll types.scopes stmts after ↔
      (checkAll types stmts).error? = none ∧ (checkAll types stmts).state.scopes = after := by
  cases stmts with
  | nil =>
      constructor
      · intro typed
        cases typed
        exact ⟨rfl, rfl⟩
      · intro ⟨_, equal⟩
        exact equal ▸ .nil types.scopes
  | cons stmt rest =>
      rw [checkAll_cons_succeeds_iff]
      constructor
      · intro typed
        cases typed with
        | cons first restTyped =>
            rcases (typed_iff types stmt).mp first with ⟨accepted, rfl⟩
            rcases (typedAll_iff _ rest).mp restTyped with ⟨acceptedRest, rfl⟩
            rw [checkAll, Outcome.andThen_of_success accepted]
            exact ⟨⟨accepted, acceptedRest⟩, rfl⟩
      · intro ⟨⟨accepted, acceptedRest⟩, equal⟩
        rw [checkAll, Outcome.andThen_of_success accepted] at equal
        exact .cons ((typed_iff types stmt).mpr ⟨accepted, rfl⟩)
          ((typedAll_iff _ rest).mpr ⟨acceptedRest, equal⟩)

end

/-- The checker accepts a sequence exactly where the rules type it in some way. -/
theorem checkAll_succeeds_iff (types : Env Ty) (stmts : List Stmt) :
    (checkAll types stmts).error? = none ↔ ∃ after, TypedAll types.scopes stmts after := by
  simp [typedAll_iff]

end Stmt

/-- In every environment the checker finds exactly the types of expressions, the programs
and the blocks that are derived by the rules, and a program leads to the environment that
is the context behind it. -/
theorem check_decides_typing (types : Env Ty) :
    (∀ (expr : Expr) (ty : Ty), expr.typeIn types = .ok ty ↔ expr.HasTy types.scopes ty) ∧
    (∀ program : Program, (Stmt.checkAll types program).error? = none ↔
      ∃ after, Stmt.TypedAll types.scopes program after) ∧
    (∀ block : Block, (types.inScope fun inner => Stmt.checkAll inner block).error? = none ↔
      ∃ inner, Stmt.TypedAll ([] :: types.scopes) block inner) ∧
    ∀ (program : Program) (after : Env Ty), Stmt.checkAll types program = .done after ↔
      Stmt.TypedAll types.scopes program after.scopes := by
  refine ⟨?_, ?_, ?_, ?_⟩
  · intro expr ty
    exact Expr.hasTy_iff.symm
  · exact Stmt.checkAll_succeeds_iff types
  · exact Stmt.checkAll_succeeds_iff types.enter
  · intro program after
    rw [Stmt.typedAll_iff, Outcome.eq_done_iff]
    exact and_congr_right fun _ => ⟨congrArg Env.scopes, Env.ext_scopes⟩

/-- A block may hide the loop variable, since the loop declares it around the block; a name
that a block declares is gone behind it. -/
theorem check_decides_typing_of_loop :
    (∃ after, Stmt.TypedAll [[]]
      [.forEach "x" (.oneHot (.int 2) (.int 0)) [.declare "x" (.bool true)]] after) ∧
    ¬∃ after, Stmt.TypedAll [[]]
      [.ifThen (.bool true) [.declare "x" (.int 1)], .print (.var "x")] after := by
  constructor
  · exact ((check_decides_typing .empty).2.1 _).mp rfl
  · intro typed
    exact absurd (((check_decides_typing .empty).2.1 _).mpr typed) (by decide)

end VectorLang
