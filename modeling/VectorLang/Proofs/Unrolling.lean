import VectorLang.Proofs.Frame
import VectorLang.Proofs.Typing

/-!
# Loops and their unrolling

A loop keeps one scope open for its variable and overwrites the variable in every round. It
does the same as a sequence with a block for each element, which declares the variable anew:
a round leaves nothing in the scope of the loop but the variable, so that closing the scope
and opening another one is not seen.
-/

namespace VectorLang

variable {α : Type}

namespace Env

/-! ## The names in the scopes -/

/-- All scopes bind the names that they did, in the same order, but for new ones in front of
the innermost scope. -/
structure Extends (before after : Env α) : Prop where
  innermost : before.innermost.names <:+ after.innermost.names
  outer : after.outer.map Scope.names = before.outer.map Scope.names

theorem Extends.refl (env : Env α) : env.Extends env :=
  ⟨List.suffix_rfl, rfl⟩

theorem Extends.trans {first second third : Env α} (early : first.Extends second)
    (late : second.Extends third) : first.Extends third :=
  ⟨early.innermost.trans late.innermost, late.outer.trans early.outer⟩

/-- All scopes bind the names that they did. -/
theorem Extends.of_scopes {before after : Env α}
    (same : after.scopes.map Scope.names = before.scopes.map Scope.names) :
    before.Extends after := by
  rw [scopes, scopes, List.map_cons, List.map_cons, List.cons.injEq] at same
  exact ⟨same.1 ▸ List.suffix_rfl, same.2⟩

/-- Behind a scope of its own, a body leaves no name. -/
theorem Extends.names_leave {env inner : Env α} (extends_ : env.enter.Extends inner) :
    inner.leave.scopes.map Scope.names = env.scopes.map Scope.names := by
  have nested : inner.outer ≠ [] := by
    intro lone
    have outer := extends_.outer
    simp [lone, enter, scopes] at outer
  rw [scopes_leave nested, extends_.outer]
  rfl

/-- An environment that binds the names of one in a loop is itself one in that loop. -/
theorem exists_loop_of_names {env other : Env α} {name : Name} {payload : α}
    (same : env.scopes.map Scope.names = (other.loop name payload).scopes.map Scope.names) :
    ∃ (after : Env α) (last : α), env = after.loop name last := by
  rcases env with ⟨innermost, outer⟩
  simp only [scopes, loop, Scope.names, List.map_cons, List.map_nil, List.cons.injEq,
    List.map_eq_nil_iff, List.map_eq_cons_iff] at same
  rcases same with ⟨⟨⟨bound, last⟩, rest, rfl, rfl, rfl⟩, scope, further, rfl, _⟩
  exact ⟨⟨scope, further⟩, last, rfl⟩

theorem names_scopes_rebind (name : Name) (payload : α) (env : Env α) :
    (env.rebind name payload).scopes.map Scope.names = env.scopes.map Scope.names := by
  rw [scopes_rebind]
  induction env.scopes with
  | nil => rfl
  | cons scope outer ih =>
      rw [Scope.rebindFirst]
      split
      · rw [List.map_cons, List.map_cons, Scope.names_rebind]
      · rw [List.map_cons, List.map_cons, ih]

end Env

namespace Machine

/-- The scopes of the machine before are extended. -/
def Extends (before after : Machine) : Prop :=
  before.env.Extends after.env

theorem declare_extends (machine : Machine) (name : Name) (value : Value) :
    machine.Extends (machine.declare name value).state := by
  apply Outcome.ensures_both_iff.mp
  rw [declare]
  apply Outcome.ensures_withValue (fun _ _ => .refl machine.env)
  intro after declared
  rcases Env.declare_eq_ok_iff.mp declared with ⟨_, rfl⟩
  exact ⟨List.suffix_cons name _, rfl⟩

theorem assign_extends (machine : Machine) (name : Name) (value : Value) :
    machine.Extends (machine.assign name value).state := by
  apply Outcome.ensures_both_iff.mp
  rw [assign]
  apply Outcome.ensures_withValue (fun _ _ => .refl machine.env)
  intro replaced updated
  rcases Env.update_eq_ok_iff.mp updated with ⟨old, _, rfl⟩
  exact .of_scopes (Env.names_scopes_rebind name value machine.env)

/-- No step of a run takes a name away or brings one into an outer scope. -/
theorem steady_extends : Steady Extends where
  refl machine := .refl machine.env
  trans := .trans
  declare := declare_extends
  assign := assign_extends
  print machine _ := .refl machine.env
  leave inner := .of_scopes inner.names_leave

/-! ## The scope of a loop -/

/-- The machine in the scope of a loop whose variable has the value. -/
def loop (machine : Machine) (name : Name) (value : Value) : Machine :=
  { machine with env := machine.env.loop name value }

variable (machine : Machine) (name : Name) (body : Block)

@[simp] theorem leave_loop (value : Value) : (machine.loop name value).leave = machine := rfl

theorem declare_enter (value : Value) :
    machine.enter.declare name value = .done (machine.loop name value) := by
  rw [declare, Env.declare_enter]
  rfl

theorem assign_loop (old value : Value) :
    (machine.loop name old).assign name value = .done (machine.loop name value) := by
  simp [assign, loop, Env.loop, Env.update, Env.find?, Env.scopes, Env.rebind, Scope.rebind,
    Outcome.withValue]

theorem round_loop (old : Value) (element : Int32) :
    (machine.loop name old).round name body element =
      (machine.loop name (.int element)).inScope fun machine => Stmt.execAll machine body := by
  rw [round, assign_loop, Outcome.done_andThen]

/-- Behind a round the scope of the loop holds the variable and nothing else. -/
theorem exists_loop_of_inScope (value : Value) :
    ∃ (after : Machine) (last : Value),
      ((machine.loop name value).inScope fun machine => Stmt.execAll machine body).state =
        after.loop name last := by
  have inside := Stmt.execAll_steady steady_extends (machine.loop name value).enter body
  have names := inside.names_leave
  rcases Env.exists_loop_of_names names with ⟨env, last, equal⟩
  let output := (Stmt.execAll (machine.loop name value).enter body).state.output
  exact ⟨⟨env, output⟩, last, congrArg (Machine.mk · output) equal⟩

end Machine

/-! ## The unrolled loop -/

/-- The statement that stands for one round of a loop. -/
def Stmt.unrolledRound (name : Name) (body : Block) (element : Int32) : Stmt :=
  .ifThen (.bool true) [.declare name (.int element), .ifThen (.bool true) body]

theorem Stmt.exec_ifTrue (machine : Machine) (body : Block) :
    exec machine (.ifThen (.bool true) body) =
      machine.inScope fun machine => execAll machine body := by
  rw [exec]
  rfl

theorem Stmt.exec_unrolledRound (machine : Machine) (name : Name) (body : Block)
    (element : Int32) :
    exec machine (unrolledRound name body element) =
      ((machine.loop name (.int element)).inScope fun machine =>
        execAll machine body).mapState Machine.leave := by
  have declared : exec machine.enter (.declare name (.int element)) =
      .done (machine.loop name (.int element)) := by
    rw [exec, Expr.eval, Outcome.withValue_ok, Machine.declare_enter]
  rw [unrolledRound, exec_ifTrue, Machine.inScope, execAll, declared, Outcome.done_andThen,
    execAll_singleton, exec_ifTrue]

/-- The rounds in the open scope of a loop, and the scope closed behind them. -/
theorem Machine.rounds_loop (machine : Machine) (name : Name) (body : Block) (old : Value)
    (elements : List Int32) :
    (Outcome.forEach (Machine.round name body) elements (machine.loop name old)).mapState leave =
      Stmt.execAll machine (elements.map (Stmt.unrolledRound name body)) := by
  induction elements generalizing machine old with
  | nil => rfl
  | cons element rest ih =>
      rw [Outcome.forEach, List.map_cons, Stmt.execAll, Stmt.exec_unrolledRound, round_loop]
      apply Outcome.mapState_andThen
      intro _
      rcases machine.exists_loop_of_inScope name body (.int element) with ⟨after, last, equal⟩
      rw [equal, leave_loop]
      exact ih after last

/-- A loop is the sequence of its unrolled rounds, in every machine: it ends or fails in the
same way, with the same machine. -/
theorem forEach_eq_unrolled (machine : Machine) (name : Name) (elements : Expr) (body : Block)
    (values : List Int32) (evaluated : elements.eval machine.env = .ok (.vector values)) :
    Stmt.exec machine (.forEach name elements body) =
      Stmt.execAll machine (values.map fun value =>
        .ifThen (.bool true) [.declare name (.int value), .ifThen (.bool true) body]) := by
  rw [Stmt.exec_forEach, evaluated]
  change machine.inScope (Work.loop name values body).run = _
  rw [Machine.inScope, Work.run, Machine.declare_enter, Outcome.done_andThen]
  exact machine.rounds_loop name body (.int 0) values

/-- A block that assigns the vector of the loop, assigns the loop variable and then hides it,
and fails in the second round. -/
theorem forEach_eq_unrolled_of_failure :
    ∃ (machine : Machine) (body : Block),
      (Expr.var "v").eval machine.env = .ok (.vector [2, -1]) ∧
      Stmt.exec machine (.forEach "x" (.var "v") body) =
        Stmt.execAll machine
          [.ifThen (.bool true) [.declare "x" (.int 2), .ifThen (.bool true) body],
            .ifThen (.bool true) [.declare "x" (.int (-1)), .ifThen (.bool true) body]] ∧
      Stmt.exec machine (.forEach "x" (.var "v") body) =
        .failed (.indexOutOfBounds 0 0) ⟨⟨[("v", .int 0)], []⟩, #[.vector [1, 0, 0]]⟩ := by
  let machine : Machine := ⟨⟨[("v", .vector [2, -1])], []⟩, #[]⟩
  let body : Block :=
    [.assign "x" (.binary .add (.var "x") (.int 1)), .assign "v" (.int 0),
      .print (.oneHot (.var "x") (.int 0)), .declare "x" (.bool true)]
  have unrolled := forEach_eq_unrolled machine "x" (.var "v") body [2, -1] rfl
  refine ⟨machine, body, rfl, unrolled, ?_⟩
  rw [unrolled]
  decide

end VectorLang
