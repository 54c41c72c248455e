import VectorLang.Proofs.Env
import VectorLang.Proofs.Outcome
import VectorLang.Typing

/-!
# Type checking and its environment

Checking changes the environment by declarations only, and these stay in the scope
they stand in: an assignment keeps the type that is there, and a block leaves nothing
behind, whether it passes the check or not.
-/

namespace VectorLang

namespace Env

variable {α ε : Type} {env : Env α} {body : Env α → Outcome ε (Env α)}

/-- Work in a new scope that only declares leaves no trace. -/
theorem inScope_unchanged (grows : env.enter.Grows (body env.enter).state) :
    (env.inScope body).state = env :=
  grows.leave

/-- The scope of a loop inside `env`, with the loop variable. -/
def loop (env : Env α) (name : Name) (payload : α) : Env α :=
  ⟨[(name, payload)], env.scopes⟩

theorem enter_grows_loop (env : Env α) (name : Name) (payload : α) :
    env.enter.Grows (env.loop name payload) := by
  have new : env.enter.innermost.lookup name = none := rfl
  exact .declare new payload

/-- A name is always new in a scope just opened. -/
theorem declare_enter {wrap : NameError → ε} (env : Env α) (name : Name) (payload : α) :
    (env.enter.declare name payload).mapError wrap = .ok (env.loop name payload) := by
  rw [declare_eq_ok_iff]
  exact ⟨rfl, rfl⟩

end Env

theorem Ty.require_eq_ok_iff {expected found : Ty} {result : Unit} :
    expected.require found = .ok result ↔ expected = found := by
  simp [Ty.require]

theorem Expr.requireTy_eq_ok_iff {types : Env Ty} {expected : Ty} {expr : Expr} {result : Unit} :
    expr.requireTy types expected = .ok result ↔ expr.typeIn types = .ok expected := by
  simp only [requireTy, bind_eq_ok_iff, Ty.require_eq_ok_iff]
  constructor
  · intro ⟨_, typed, equal⟩
    exact equal ▸ typed
  · intro typed
    exact ⟨expected, typed, rfl⟩

namespace Stmt

/-! ## What a statement leaves behind -/

theorem check_declare_of_typed {types : Env Ty} {name : Name} {value : Expr} {ty : Ty}
    (typed : value.typeIn types = .ok ty) (new : types.innermost.lookup name = none) :
    check types (.declare name value) = .done ⟨(name, ty) :: types.innermost, types.outer⟩ := by
  rw [check, typed, Outcome.withValue_ok, Env.declare_eq_ok_iff.mpr ⟨new, rfl⟩,
    Outcome.withValue_ok]

/-- A declaration grows the environment; of other statements it is enough that they
leave it as it was. -/
theorem check_grows_of_unchanged {types : Env Ty} {stmt : Stmt}
    (unchanged : (∀ name value, stmt ≠ .declare name value) → (check types stmt).state = types) :
    types.Grows (check types stmt).state := by
  cases stmt with
  | declare name value =>
      apply Outcome.ensures_both_iff.mp
      rw [check]
      apply Outcome.ensures_withValue (fun _ _ => .refl types)
      intro ty typed
      apply Outcome.ensures_withValue (fun _ _ => .refl types)
      intro after declared
      rcases Env.declare_eq_ok_iff.mp declared with ⟨new, rfl⟩
      exact .declare new ty
  | assign | print | ifThen | ifElse | forEach =>
      rw [unchanged (by simp)]
      exact .refl types

mutual

/-- Checking a statement other than a declaration leaves the environment as it was. -/
theorem state_check_of_ne_declare (types : Env Ty) (stmt : Stmt)
    (other : ∀ name value, stmt ≠ .declare name value) : (check types stmt).state = types := by
  have unchanged : (check types stmt).Ensures (types = ·) fun _ => (types = ·) := by
    cases stmt with
    | declare name value => exact (other name value rfl).elim
    | assign name value =>
        rw [check]
        apply Outcome.ensures_withValue (fun _ _ => rfl)
        intro found typed
        apply Outcome.ensures_withValue (fun _ _ => rfl)
        intro declared bound
        apply Outcome.ensures_withValue (fun _ _ => rfl)
        intro _ required
        -- the type that is written is the one that is there
        rw [Env.lookup_eq_ok_iff, Ty.require_eq_ok_iff.mp required] at bound
        rw [Env.update_of_find? bound]
        rfl
    | print value =>
        rw [check]
        exact Outcome.ensures_withValue (fun _ _ => rfl) fun _ _ => rfl
    | ifThen condition body =>
        rw [check]
        apply Outcome.ensures_withValue (fun _ _ => rfl)
        intro _ truth
        exact Outcome.ensures_both_iff.mpr (checkAll_grows types.enter body).leave.symm
    | ifElse condition body alternative =>
        rw [check]
        apply Outcome.ensures_withValue (fun _ _ => rfl)
        intro _ truth
        apply Outcome.Ensures.andThen
          (Outcome.ensures_both_iff.mpr (checkAll_grows types.enter body).leave.symm)
        intro after unchanged
        subst unchanged
        exact Outcome.ensures_both_iff.mpr (checkAll_grows types.enter alternative).leave.symm
    | forEach name elements body =>
        rw [check]
        apply Outcome.ensures_withValue (fun _ _ => rfl)
        intro _ vector
        apply Outcome.ensures_both_iff.mpr
        rw [Env.inScope_unchanged]
        rw [Env.declare_enter, Outcome.withValue_ok,
          Env.inScope_unchanged (checkAll_grows (types.loop name .int).enter body)]
        exact types.enter_grows_loop name .int
  exact (Outcome.ensures_both_iff.mp unchanged).symm

/-- Checking a sequence declares, at most. -/
theorem checkAll_grows (types : Env Ty) (stmts : List Stmt) :
    types.Grows (checkAll types stmts).state := by
  apply Outcome.ensures_both_iff.mp
  cases stmts with
  | nil => exact .refl types
  | cons stmt rest =>
      rw [checkAll]
      have head := check_grows_of_unchanged (state_check_of_ne_declare types stmt)
      apply Outcome.Ensures.andThen (Outcome.ensures_both_iff.mpr head)
      intro after early
      exact Outcome.ensures_both_iff.mpr (early.trans (checkAll_grows after rest))

end

/-- Checking one statement declares, at most. -/
theorem check_grows (types : Env Ty) (stmt : Stmt) : types.Grows (check types stmt).state :=
  check_grows_of_unchanged (state_check_of_ne_declare types stmt)

variable {types : Env Ty} {name : Name} {value condition elements : Expr}
  {body alternative : Block}

/-! ## When a statement passes the check -/

theorem check_declare_succeeds_iff :
    (check types (.declare name value)).error? = none ↔
      ∃ ty, value.typeIn types = .ok ty ∧ types.innermost.lookup name = none := by
  simp only [check, Outcome.withValue_succeeds_iff, Env.declare_eq_ok_iff, Outcome.error?_done]
  constructor
  · intro ⟨ty, typed, _, ⟨new, _⟩, _⟩
    exact ⟨ty, typed, new⟩
  · intro ⟨ty, typed, new⟩
    exact ⟨ty, typed, _, ⟨new, rfl⟩, trivial⟩

theorem check_assign_succeeds_iff :
    (check types (.assign name value)).error? = none ↔
      ∃ ty, value.typeIn types = .ok ty ∧ types.find? name = some ty := by
  simp only [check, Outcome.withValue_succeeds_iff, Env.lookup_eq_ok_iff, Ty.require_eq_ok_iff,
    Outcome.error?_done]
  constructor
  · intro ⟨ty, typed, _, declared, _, equal, _⟩
    exact ⟨ty, typed, equal ▸ declared⟩
  · intro ⟨ty, typed, declared⟩
    exact ⟨ty, typed, ty, declared, (), rfl, _, Env.update_of_find? declared, trivial⟩

theorem check_print_succeeds_iff :
    (check types (.print value)).error? = none ↔ ∃ ty, value.typeIn types = .ok ty := by
  simp [check, Outcome.withValue_succeeds_iff]

theorem check_ifThen_succeeds_iff :
    (check types (.ifThen condition body)).error? = none ↔
      condition.typeIn types = .ok .bool ∧ (checkAll types.enter body).error? = none := by
  simp [check, Outcome.withValue_succeeds_iff, Expr.requireTy_eq_ok_iff, Env.inScope]

theorem check_ifElse_succeeds_iff :
    (check types (.ifElse condition body alternative)).error? = none ↔
      condition.typeIn types = .ok .bool ∧ (checkAll types.enter body).error? = none ∧
        (checkAll types.enter alternative).error? = none := by
  simp [check, Outcome.withValue_succeeds_iff, Outcome.andThen_succeeds_iff,
    Expr.requireTy_eq_ok_iff, Env.inScope, (checkAll_grows types.enter body).leave]

theorem check_forEach_succeeds_iff :
    (check types (.forEach name elements body)).error? = none ↔
      elements.typeIn types = .ok .vector ∧
        (checkAll (types.loop name .int).enter body).error? = none := by
  simp [check, Outcome.withValue_succeeds_iff, Expr.requireTy_eq_ok_iff, Env.inScope,
    Env.declare_enter]

/-- One statement is a sequence. -/
theorem checkAll_singleton (types : Env Ty) (stmt : Stmt) :
    checkAll types [stmt] = check types stmt :=
  Outcome.andThen_done _

/-- Two sequences are checked one after the other. -/
theorem checkAll_append (env : Env Ty) (stmts more : List Stmt) :
    checkAll env (stmts ++ more) =
      (checkAll env stmts).andThen fun env => checkAll env more := by
  induction stmts generalizing env with
  | nil => rfl
  | cons stmt rest ih =>
      rw [List.cons_append, checkAll, checkAll, Outcome.andThen_assoc]
      simp only [ih]

theorem checkAll_cons_succeeds_iff {stmt : Stmt} {rest : List Stmt} :
    (checkAll types (stmt :: rest)).error? = none ↔
      (check types stmt).error? = none ∧
        (checkAll (check types stmt).state rest).error? = none := by
  rw [checkAll, Outcome.andThen_succeeds_iff]

end Stmt

end VectorLang
