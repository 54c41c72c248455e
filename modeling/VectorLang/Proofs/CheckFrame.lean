import Mathlib.Data.List.Induction
import VectorLang.Proofs.Frame
import VectorLang.Proofs.Typing

/-!
# What a check leaves alone

A check that ends or fails leaves the environment with the types that it had. It only adds the
declarations that stand in the checked sequence itself, in front of the first statement that
fails. So a branch cannot be told from the environment behind it, and the branches of a
conditional may be checked in either order.
-/

namespace VectorLang

/-- The environment with more bindings in its innermost scope. -/
def Env.extend {α : Type} (env : Env α) (added : Scope α) : Env α :=
  ⟨added ++ env.innermost, env.outer⟩

namespace Stmt

/-! ## Declarations -/

/-- The declarations of the sequence, the last one in front, each with the type that its value
has behind the ones before it. -/
inductive Adds (types : Env Ty) : List Stmt → Scope Ty → Prop where
  | nil : Adds types [] []
  | declare {stmts : List Stmt} {added : Scope Ty} {name : Name} {value : Expr} {ty : Ty} :
      Adds types stmts added → value.typeIn (types.extend added) = .ok ty →
      (added ++ types.innermost).lookup name = none →
      Adds types (stmts ++ [.declare name value]) ((name, ty) :: added)
  | other {stmts : List Stmt} {added : Scope Ty} {stmt : Stmt} :
      Adds types stmts added → (∀ name value, stmt ≠ .declare name value) →
      Adds types (stmts ++ [stmt]) added

/-- A sequence adds the names that it declares. -/
theorem Adds.names_eq {types : Env Ty} {stmts : List Stmt} {added : Scope Ty}
    (adds : Adds types stmts added) : added.names = (declaredAll stmts).reverse := by
  induction adds with
  | nil => rfl
  | declare _ _ _ ih =>
      simp only [Scope.names, List.map_cons, declaredAll, List.flatMap_append] at ih ⊢
      simp [ih, declared]
  | @other stmts added stmt _ notDeclare ih =>
      cases stmt with
      | declare name value => exact absurd rfl (notDeclare name value)
      | assign | print | ifThen | ifElse | forEach => simpa [declaredAll, declared] using ih

/-- A failing statement changes nothing. -/
theorem state_check_of_failure {types : Env Ty} {stmt : Stmt} {error : TypeError}
    (failure : (check types stmt).error? = some error) : (check types stmt).state = types := by
  cases stmt with
  | declare name value =>
      have unchanged : (check types (.declare name value)).Ensures (fun _ => True)
          fun _ => (types = ·) := by
        rw [check]
        apply Outcome.ensures_withValue (fun _ _ => rfl)
        intro ty _
        exact Outcome.ensures_withValue (fun _ _ => rfl) fun _ _ => trivial
      exact (unchanged.of_failure failure).symm
  | assign | print | ifThen | ifElse | forEach =>
      exact state_check_of_ne_declare types _ (by simp)

/-- A declaration that passes adds one binding. -/
theorem check_declare_of_success {types : Env Ty} {name : Name} {value : Expr}
    (success : (check types (.declare name value)).error? = none) :
    ∃ ty, value.typeIn types = .ok ty ∧ types.innermost.lookup name = none ∧
      (check types (.declare name value)).state = types.extend [(name, ty)] := by
  rcases check_declare_succeeds_iff.mp success with ⟨ty, typed, new⟩
  refine ⟨ty, typed, new, ?_⟩
  rw [check_declare_of_typed typed new]
  rfl

/-- A statement that passes behind some others adds its declaration to theirs. -/
theorem Adds.concat {types : Env Ty} {stmts : List Stmt} {added : Scope Ty}
    (adds : Adds types stmts added) {stmt : Stmt}
    (success : (check (types.extend added) stmt).error? = none) :
    ∃ further, Adds types (stmts ++ [stmt]) further ∧
      (check (types.extend added) stmt).state = types.extend further := by
  cases stmt with
  | declare name value =>
      rcases check_declare_of_success success with ⟨ty, typed, new, state⟩
      exact ⟨(name, ty) :: added, .declare adds typed new, state⟩
  | assign | print | ifThen | ifElse | forEach =>
      exact ⟨added, .other adds (by simp), state_check_of_ne_declare _ _ (by simp)⟩

/-- The run of a check: it passes some statements, and fails at the next one unless there is
none. -/
theorem exists_adds_checkAll (types : Env Ty) (program : List Stmt) :
    ∃ passed rest added, program = passed ++ rest ∧ Adds types passed added ∧
      (checkAll types program).state = types.extend added ∧
      (rest = [] ∧ (checkAll types program).error? = none ∨
        ∃ stmt more error, rest = stmt :: more ∧
          (check (types.extend added) stmt).error? = some error ∧
          (checkAll types program).error? = some error) := by
  induction program using List.reverseRecOn with
  | nil => exact ⟨[], [], [], rfl, .nil, rfl, .inl ⟨rfl, rfl⟩⟩
  | append_singleton program stmt ih =>
      rcases ih with ⟨passed, rest, added, rfl, adds, state, ⟨rfl, success⟩ | failed⟩
      · rw [List.append_nil] at success state ⊢
        rw [checkAll_append, Outcome.andThen_of_success success, checkAll_singleton, state]
        cases next : (check (types.extend added) stmt).error? with
        | none =>
            rcases adds.concat next with ⟨further, addsToo, behind⟩
            exact ⟨_, [], further, (List.append_nil _).symm, addsToo, behind, .inl ⟨rfl, rfl⟩⟩
        | some error =>
            exact ⟨passed, [stmt], added, rfl, adds, state_check_of_failure next,
              .inr ⟨stmt, [], error, rfl, next, rfl⟩⟩
      · rcases failed with ⟨first, more, error, rfl, failing, failure⟩
        rw [checkAll_append, Outcome.andThen_of_failure failure]
        exact ⟨passed, first :: more ++ [stmt], added, List.append_assoc _ _ _, adds, state,
          .inr ⟨first, more ++ [stmt], error, rfl, failing, failure⟩⟩

/-! ## The order of branches -/

mutual

/-- The statements are the same, but for conditionals inside whose branches are exchanged. -/
inductive Exchanged : Stmt → Stmt → Prop where
  | refl (stmt : Stmt) : Exchanged stmt stmt
  | ifThen {condition : Expr} {body body' : Block} :
      ExchangedAll body body' → Exchanged (.ifThen condition body) (.ifThen condition body')
  | ifElse {condition : Expr} {body body' alternative alternative' : Block} :
      ExchangedAll body body' → ExchangedAll alternative alternative' →
      Exchanged (.ifElse condition body alternative) (.ifElse condition body' alternative')
  | exchange {condition : Expr} {body body' alternative alternative' : Block} :
      ExchangedAll body body' → ExchangedAll alternative alternative' →
      Exchanged (.ifElse condition body alternative) (.ifElse condition alternative' body')
  | forEach {name : Name} {elements : Expr} {body body' : Block} :
      ExchangedAll body body' →
      Exchanged (.forEach name elements body) (.forEach name elements body')

/-- The same of sequences. -/
inductive ExchangedAll : List Stmt → List Stmt → Prop where
  | nil : ExchangedAll [] []
  | cons {stmt stmt' : Stmt} {rest rest' : List Stmt} :
      Exchanged stmt stmt' → ExchangedAll rest rest' →
      ExchangedAll (stmt :: rest) (stmt' :: rest')

end

/-- The environment behind a statement does not show the order of branches. -/
theorem Exchanged.state_eq {stmt stmt' : Stmt} (exchanged : Exchanged stmt stmt')
    (types : Env Ty) : (check types stmt').state = (check types stmt).state := by
  cases exchanged with
  | refl => rfl
  | ifThen | ifElse | exchange | forEach =>
      rw [state_check_of_ne_declare types _ (by simp), state_check_of_ne_declare types _ (by simp)]

mutual

/-- A statement passes the check with its branches in either order. -/
theorem Exchanged.succeeds_iff {stmt stmt' : Stmt} (exchanged : Exchanged stmt stmt')
    (types : Env Ty) :
    (check types stmt').error? = none ↔ (check types stmt).error? = none := by
  cases exchanged with
  | refl => exact Iff.rfl
  | ifThen body =>
      rw [check_ifThen_succeeds_iff, check_ifThen_succeeds_iff, body.succeeds_iff]
  | ifElse body alternative =>
      rw [check_ifElse_succeeds_iff, check_ifElse_succeeds_iff, body.succeeds_iff,
        alternative.succeeds_iff]
  | exchange body alternative =>
      rw [check_ifElse_succeeds_iff, check_ifElse_succeeds_iff, body.succeeds_iff,
        alternative.succeeds_iff]
      exact and_congr_right fun _ => and_comm
  | forEach body =>
      rw [check_forEach_succeeds_iff, check_forEach_succeeds_iff, body.succeeds_iff]

/-- The same of a sequence. -/
theorem ExchangedAll.succeeds_iff {stmts stmts' : List Stmt}
    (exchanged : ExchangedAll stmts stmts') (types : Env Ty) :
    (checkAll types stmts').error? = none ↔ (checkAll types stmts).error? = none := by
  cases exchanged with
  | nil => exact Iff.rfl
  | cons first rest =>
      rw [checkAll_cons_succeeds_iff, checkAll_cons_succeeds_iff, first.succeeds_iff,
        first.state_eq, rest.succeeds_iff]

end

end Stmt

/-- In every environment a check only declares. A statement that is no declaration, and one that
fails, leaves the environment as it is, and a declaration that passes adds one binding to the
innermost scope. So a program, whether it passes or not, adds the declarations in front of its
first failing statement, and it passes with the branches of its conditionals in any order. -/
theorem checking_only_declares (types : Env Ty) :
    (∀ stmt : Stmt, (∀ name value, stmt ≠ .declare name value) →
      (Stmt.check types stmt).state = types) ∧
    (∀ (stmt : Stmt) (error : TypeError), (Stmt.check types stmt).error? = some error →
      (Stmt.check types stmt).state = types) ∧
    (∀ (name : Name) (value : Expr), (Stmt.check types (.declare name value)).error? = none →
      ∃ ty, value.typeIn types = .ok ty ∧ types.innermost.lookup name = none ∧
        (Stmt.check types (.declare name value)).state = types.extend [(name, ty)]) ∧
    (∀ program : Program, ∃ passed rest added, program = passed ++ rest ∧
      Stmt.Adds types passed added ∧ added.names = (Stmt.declaredAll passed).reverse ∧
      (Stmt.checkAll types program).state = types.extend added ∧
      (types.outer = [] → (Stmt.checkAll types program).state.base = added ++ types.base) ∧
      (rest = [] ∧ (Stmt.checkAll types program).error? = none ∨
        ∃ stmt more error, rest = stmt :: more ∧
          (Stmt.check (types.extend added) stmt).error? = some error ∧
          (Stmt.checkAll types program).error? = some error)) ∧
    ∀ program program' : Program, Stmt.ExchangedAll program program' →
      ((Stmt.checkAll types program').error? = none ↔
        (Stmt.checkAll types program).error? = none) := by
  refine ⟨?_, ?_, ?_, ?_, ?_⟩
  · exact Stmt.state_check_of_ne_declare types
  · exact fun stmt error failure => Stmt.state_check_of_failure failure
  · exact fun name value success => Stmt.check_declare_of_success success
  · intro program
    rcases Stmt.exists_adds_checkAll types program with
      ⟨passed, rest, added, whole, adds, state, verdict⟩
    refine ⟨passed, rest, added, whole, adds, adds.names_eq, state, ?_, verdict⟩
    intro lone
    rw [state, Env.base_of_lone lone]
    exact Env.base_of_lone lone
  · exact fun program program' exchanged => exchanged.succeeds_iff types

/-- A branch that assigns outside and then fails leaves no trace; a program that fails in its
second statement keeps the first declaration; a branch may redeclare what the other one uses. -/
theorem checking_only_declares_of_failure :
    let types : Env Ty := ⟨[("x", .int)], []⟩
    let branch : Stmt := .ifThen (.bool true)
      [.assign "x" (.int 1), .declare "y" (.bool true), .print (.var "z")]
    (Stmt.check types branch).error? = some (.binding (.undeclared "z")) ∧
      (Stmt.check types branch).state = types ∧
      (Stmt.check types (.assign "x" (.int 1))).state = types ∧
      (∃ ty, (Stmt.check types (.declare "y" (.bool true))).state = types.extend [("y", ty)]) ∧
      ((Stmt.checkAll types
          [.ifElse (.bool true) [.assign "x" (.int 2)] [.declare "x" (.bool true)]]).error? = none ↔
        (Stmt.checkAll types
          [.ifElse (.bool true) [.declare "x" (.bool true)] [.assign "x" (.int 2)]]).error? =
            none) ∧
      ∃ passed rest added, [.declare "y" (.bool true), branch, .declare "w" (.int 0)] =
          passed ++ rest ∧
        Stmt.Adds types passed added ∧ rest ≠ [] := by
  intro types branch
  rcases checking_only_declares types with ⟨others, failing, declaring, programs, orders⟩
  refine ⟨by decide, ?_, ?_, ?_, ?_, ?_⟩
  · exact failing branch (.binding (.undeclared "z")) (by decide)
  · exact others (.assign "x" (.int 1)) (by simp)
  · rcases declaring "y" (.bool true) (by decide) with ⟨ty, _, _, state⟩
    exact ⟨ty, state⟩
  · have exchanged (first second : Stmt) : Stmt.ExchangedAll
        [.ifElse (.bool true) [first] [second]] [.ifElse (.bool true) [second] [first]] :=
      .cons (.exchange (.cons (.refl first) .nil) (.cons (.refl second) .nil)) .nil
    exact orders _ _ (exchanged _ _)
  · rcases programs [.declare "y" (.bool true), branch, .declare "w" (.int 0)] with
      ⟨passed, rest, added, whole, adds, _, _, _, verdict⟩
    refine ⟨passed, rest, added, whole, adds, ?_⟩
    rintro rfl
    rcases verdict with ⟨_, success⟩ | ⟨_, _, _, impossible, _⟩
    · exact absurd success (by decide)
    · contradiction

end VectorLang
