import VectorLang.Proofs.Renaming
import VectorLang.Proofs.Soundness

/-!
# Programs that differ in a bound name

A program and the program with a renamed declaration bind the same names in the same scopes,
but for one that has another name. Expressions have the same types and values in both, so
neither the check nor the run can tell the programs apart.
-/

namespace VectorLang

/-! ## Expressions -/

namespace Expr

variable {plan : Renaming} {sites : Env Nat}

/-- A renamed expression has the type that it had, or the same error. -/
theorem typeIn_rename {types types' : Env Ty} (renamed : Env.Renamed plan sites types types')
    (expr : Expr) (fresh : plan.new ∉ expr.names) :
    (expr.rename plan sites).typeIn types' = expr.typeIn types :=
  expr.typeIn_mapNames fun _ member => renamed.lookup_eq (ne_of_mem_of_not_mem member fresh)

/-- A renamed expression has the value that it had, or the same error. -/
theorem eval_rename {values values' : Env Value} (renamed : Env.Renamed plan sites values values')
    (expr : Expr) (fresh : plan.new ∉ expr.names) :
    (expr.rename plan sites).eval values' = expr.eval values :=
  expr.eval_mapNames fun _ member => renamed.lookup_eq (ne_of_mem_of_not_mem member fresh)

end Expr

/-! ## The check -/

namespace Stmt

variable {plan : Renaming}

/-- Behind a statement that passes, the environments of the two checks are alike. -/
theorem state_check_rename {sites : Env Nat} {types types' : Env Ty}
    (renamed : Env.Renamed plan sites types types') (first : Nat) {stmt : Stmt}
    (fresh : plan.new ∉ stmt.names) (passes : (check types stmt).error? = none) :
    Env.Renamed plan (stmt.sitesAfter sites first) (check types stmt).state
      (check types' (stmt.rename plan sites first)).state := by
  cases stmt with
  | declare name value =>
      rw [names, List.mem_cons, not_or] at fresh
      rcases check_declare_succeeds_iff.mp passes with ⟨ty, typed, new⟩
      rw [check_declare_of_typed typed new, rename, check_declare_of_typed
        ((value.typeIn_rename renamed fresh.2).trans typed)
        (renamed.lookup_innermost_eq_none (Ne.symm fresh.1) new (some first))]
      exact renamed.declare (Ne.symm fresh.1) first ty
  | assign | print | ifThen | ifElse | forEach =>
      rw [state_check_of_ne_declare types _ (by simp),
        state_check_of_ne_declare types' _ (by simp [rename])]
      exact renamed

mutual

/-- A renamed statement passes the check, if the statement does. -/
theorem check_rename {sites : Env Nat} {types types' : Env Ty}
    (renamed : Env.Renamed plan sites types types') (first : Nat) (stmt : Stmt)
    (fresh : plan.new ∉ stmt.names) (passes : (check types stmt).error? = none) :
    (check types' (stmt.rename plan sites first)).error? = none := by
  cases stmt with
  | declare name value =>
      rw [names, List.mem_cons, not_or] at fresh
      rcases check_declare_succeeds_iff.mp passes with ⟨ty, typed, new⟩
      rw [rename, check_declare_succeeds_iff, value.typeIn_rename renamed fresh.2]
      exact ⟨ty, typed, renamed.lookup_innermost_eq_none (Ne.symm fresh.1) new (some first)⟩
  | assign name value =>
      rw [names, List.mem_cons, not_or] at fresh
      rw [rename, check_assign_succeeds_iff, value.typeIn_rename renamed fresh.2,
        renamed.find?_eq (Ne.symm fresh.1)]
      exact check_assign_succeeds_iff.mp passes
  | print value =>
      rw [rename, check_print_succeeds_iff, value.typeIn_rename renamed fresh]
      exact check_print_succeeds_iff.mp passes
  | ifThen condition body =>
      rw [names, List.mem_append, not_or] at fresh
      rw [check_ifThen_succeeds_iff] at passes
      rw [rename, check_ifThen_succeeds_iff, condition.typeIn_rename renamed fresh.1]
      exact ⟨passes.1, checkAll_rename renamed.enter first body fresh.2 passes.2⟩
  | ifElse condition body alternative =>
      rw [names, List.mem_append, List.mem_append, not_or, not_or] at fresh
      rw [check_ifElse_succeeds_iff] at passes
      rw [rename, check_ifElse_succeeds_iff, condition.typeIn_rename renamed fresh.1]
      exact ⟨passes.1, checkAll_rename renamed.enter first body fresh.2.1 passes.2.1,
        checkAll_rename renamed.enter _ alternative fresh.2.2 passes.2.2⟩
  | forEach name elements body =>
      rw [names, List.mem_cons, List.mem_append, not_or, not_or] at fresh
      rw [check_forEach_succeeds_iff] at passes
      rw [rename, check_forEach_succeeds_iff, elements.typeIn_rename renamed fresh.2.1]
      have inside := (renamed.loop (Ne.symm fresh.1) first .int).enter
      exact ⟨passes.1, checkAll_rename inside (first + 1) body fresh.2.2 passes.2⟩

/-- The same of a sequence. -/
theorem checkAll_rename {sites : Env Nat} {types types' : Env Ty}
    (renamed : Env.Renamed plan sites types types') (first : Nat) (stmts : List Stmt)
    (fresh : plan.new ∉ namesAll stmts)
    (passes : (checkAll types stmts).error? = none) :
    (checkAll types' (renameAll plan sites first stmts)).error? = none := by
  cases stmts with
  | nil => rfl
  | cons stmt rest =>
      rw [namesAll, List.mem_append, not_or] at fresh
      rw [checkAll_cons_succeeds_iff] at passes
      rw [renameAll, checkAll_cons_succeeds_iff]
      have behind := state_check_rename renamed first fresh.1 passes.1
      exact ⟨check_rename renamed first stmt fresh.1 passes.1,
        checkAll_rename behind _ rest fresh.2 passes.2⟩

end

end Stmt

/-! ## The run -/

/-- A name is declared twice in a scope. -/
def EvalError.Redeclares (error : EvalError) : Prop :=
  ∃ name, error = .binding (.alreadyDeclared name)

namespace Machine

/-- Both machines have printed the same. -/
def SameOutput (machine machine' : Machine) : Prop :=
  machine'.output = machine.output

/-- The variables of the second machine have the names that they have afterwards. -/
structure Renamed (plan : Renaming) (sites : Env Nat) (machine machine' : Machine) : Prop where
  env : Env.Renamed plan sites machine.env machine'.env
  output : machine.SameOutput machine'

/-- The same in some scope inside of others. -/
def RenamedInside (plan : Renaming) (outer : List (Scope Nat)) (machine machine' : Machine) :
    Prop :=
  ∃ scope, machine.Renamed plan ⟨scope, outer⟩ machine'

variable {plan : Renaming} {sites : Env Nat} {machine machine' : Machine} {name : Name}

theorem Renamed.enter (renamed : machine.Renamed plan sites machine') :
    machine.enter.Renamed plan sites.enter machine'.enter :=
  ⟨renamed.env.enter, renamed.output⟩

theorem declare_renamed (renamed : machine.Renamed plan sites machine') (known : name ≠ plan.new)
    (site : Nat) (value : Value) :
    (machine.declare name value).SimulatedBy (machine'.declare (plan.target (some site) name) value)
      EvalError.Redeclares (Renamed plan ⟨(name, site) :: sites.innermost, sites.outer⟩)
      SameOutput := by
  rw [declare, declare, Env.declare, Env.declare]
  cases bound : machine.env.innermost.lookup name with
  | some old => exact Outcome.simulatedBy_of_excused ⟨name, rfl⟩ machine
  | none =>
      rw [renamed.env.lookup_innermost_eq_none known bound]
      exact Outcome.simulatedBy_done.mpr ⟨renamed.env.declare known site value, renamed.output⟩

theorem assign_renamed (renamed : machine.Renamed plan sites machine') (known : name ≠ plan.new)
    (value : Value) :
    (machine.assign name value).SimulatedBy
      (machine'.assign (plan.target (sites.find? name) name) value) EvalError.Redeclares
      (Renamed plan sites) SameOutput := by
  rw [assign, assign, Env.update, Env.update, renamed.env.find?_eq known]
  cases found : machine.env.find? name with
  | some old =>
      exact Outcome.simulatedBy_done.mpr ⟨renamed.env.rebind known value, renamed.output⟩
  | none =>
      rw [renamed.env.target_eq_self found]
      exact fun _ => ⟨rfl, renamed.output⟩

theorem print_renamed (renamed : machine.Renamed plan sites machine') (value : Value) :
    (machine.print value).SimulatedBy (machine'.print value) EvalError.Redeclares
      (Renamed plan sites) SameOutput := by
  have same : machine'.output.push value = machine.output.push value :=
    congrArg (Array.push · value) renamed.output
  exact Outcome.simulatedBy_done.mpr ⟨renamed.env, same⟩

theorem inScope_renamed {body body' : Machine → Outcome EvalError Machine}
    (inside : (body machine.enter).SimulatedBy (body' machine'.enter) EvalError.Redeclares
      (RenamedInside plan sites.scopes) SameOutput) :
    (machine.inScope body).SimulatedBy (machine'.inScope body') EvalError.Redeclares
      (Renamed plan sites) SameOutput :=
  inside.mapState (fun _ _ ⟨_, renamed⟩ => ⟨renamed.env.leave, renamed.output⟩) fun _ _ => id

section Loop

variable {body body' : Block} {first : Nat}

/-- The blocks of two loops run alike in the scope of the loop variable. -/
def BlocksRenamed (plan : Renaming) (sites : Env Nat) (body body' : Block) : Prop :=
  ∀ machine machine' : Machine, machine.Renamed plan sites.enter machine' →
    (Stmt.execAll machine body).SimulatedBy (Stmt.execAll machine' body') EvalError.Redeclares
      (RenamedInside plan sites.scopes) SameOutput

theorem round_renamed (block : BlocksRenamed plan (sites.loop name first) body body')
    (renamed : machine.Renamed plan (sites.loop name first) machine') (known : name ≠ plan.new)
    (element : Int32) :
    (machine.round name body element).SimulatedBy
      (machine'.round (plan.target (some first) name) body' element) EvalError.Redeclares
      (Renamed plan (sites.loop name first)) SameOutput := by
  have found : (sites.loop name first).find? name = some first := by
    simp [Env.loop, Env.find?, Env.scopes]
  have assigned := assign_renamed renamed known (.int element)
  rw [found] at assigned
  exact assigned.andThen fun _ _ related => inScope_renamed (block _ _ related.enter)

theorem loop_renamed (block : BlocksRenamed plan (sites.loop name first) body body')
    (renamed : machine.Renamed plan sites machine') (known : name ≠ plan.new)
    (elements : List Int32) :
    ((Work.loop name elements body).run machine.enter).SimulatedBy
      ((Work.loop (plan.target (some first) name) elements body').run machine'.enter)
      EvalError.Redeclares (RenamedInside plan sites.scopes) SameOutput := by
  rw [Work.run, Work.run]
  apply (declare_renamed renamed.enter known first (.int 0)).andThen
  intro inside inside' start
  have round (element : Int32) (before before' : Machine)
      (related : before.Renamed plan (sites.loop name first) before') :=
    round_renamed block related known element
  exact (Outcome.simulatedBy_forEach round elements start).mono fun _ _ related => ⟨_, related⟩

end Loop

end Machine

namespace Stmt

variable {plan : Renaming}

mutual

/-- A renamed statement runs like the statement, unless a name is declared twice. -/
theorem exec_rename {sites : Env Nat} {machine machine' : Machine}
    (renamed : machine.Renamed plan sites machine') (first : Nat) (stmt : Stmt)
    (fresh : plan.new ∉ stmt.names) :
    (exec machine stmt).SimulatedBy (exec machine' (stmt.rename plan sites first))
      EvalError.Redeclares (Machine.Renamed plan (stmt.sitesAfter sites first))
      Machine.SameOutput := by
  cases stmt with
  | declare name value =>
      rw [names, List.mem_cons, not_or] at fresh
      rw [rename, exec, exec, value.eval_rename renamed.env fresh.2]
      apply Outcome.simulatedBy_withValue renamed.output
      exact Machine.declare_renamed renamed (Ne.symm fresh.1) first
  | assign name value =>
      rw [names, List.mem_cons, not_or] at fresh
      rw [rename, exec, exec, value.eval_rename renamed.env fresh.2]
      apply Outcome.simulatedBy_withValue renamed.output
      exact Machine.assign_renamed renamed (Ne.symm fresh.1)
  | print value =>
      rw [rename, exec, exec, value.eval_rename renamed.env fresh]
      apply Outcome.simulatedBy_withValue renamed.output
      exact Machine.print_renamed renamed
  | ifThen condition body =>
      rw [names, List.mem_append, not_or] at fresh
      rw [rename, exec, exec, condition.eval_rename renamed.env fresh.1]
      apply Outcome.simulatedBy_withValue renamed.output
      intro truth
      cases truth with
      | false => exact Outcome.simulatedBy_done.mpr renamed
      | true =>
          exact Machine.inScope_renamed (execAll_rename renamed.enter first body fresh.2)
  | ifElse condition body alternative =>
      rw [names, List.mem_append, List.mem_append, not_or, not_or] at fresh
      rw [rename, exec, exec, condition.eval_rename renamed.env fresh.1]
      apply Outcome.simulatedBy_withValue renamed.output
      intro truth
      cases truth with
      | false =>
          exact Machine.inScope_renamed (execAll_rename renamed.enter _ alternative fresh.2.2)
      | true =>
          exact Machine.inScope_renamed (execAll_rename renamed.enter first body fresh.2.1)
  | forEach name elements body =>
      rw [names, List.mem_cons, List.mem_append, not_or, not_or] at fresh
      rw [rename, exec_forEach, exec_forEach, elements.eval_rename renamed.env fresh.2.1]
      apply Outcome.simulatedBy_withValue renamed.output
      intro elements
      have block : Machine.BlocksRenamed plan (sites.loop name first) body
          (renameAll plan (sites.loop name first).enter (first + 1) body) :=
        fun _ _ inside => execAll_rename inside (first + 1) body fresh.2.2
      exact Machine.inScope_renamed
        (Machine.loop_renamed block renamed (Ne.symm fresh.1) elements)

/-- The same of a sequence. -/
theorem execAll_rename {sites : Env Nat} {machine machine' : Machine}
    (renamed : machine.Renamed plan sites machine') (first : Nat) (stmts : List Stmt)
    (fresh : plan.new ∉ namesAll stmts) :
    (execAll machine stmts).SimulatedBy (execAll machine' (renameAll plan sites first stmts))
      EvalError.Redeclares (Machine.RenamedInside plan sites.outer) Machine.SameOutput := by
  cases stmts with
  | nil => exact Outcome.simulatedBy_done.mpr ⟨sites.innermost, renamed⟩
  | cons stmt rest =>
      rw [namesAll, List.mem_append, not_or] at fresh
      rw [renameAll, execAll, execAll]
      apply (exec_rename renamed first stmt fresh.1).andThen
      intro middle middle' related
      have behind := execAll_rename related (first + (binders stmt).length) rest fresh.2
      rwa [outer_sitesAfter] at behind

end

end Stmt

/-! ## Programs -/

/-- A declaration of a program that passes the check, with all uses and assignments that stand
for it, may have any name that is not in the program. No name comes to stand for another
declaration, the renamed program passes the check, and its run ends or fails in the same way
with the same output. -/
theorem bound_names_irrelevant (program : Program) (plan : Renaming)
    (accepted : program.check = .ok ())
    (declares : (Stmt.bindersAll program)[plan.site]? = some plan.old)
    (fresh : plan.new ∉ Stmt.namesAll program) :
    Stmt.bindersAll (program.rename plan) = (Stmt.bindersAll program).set plan.site plan.new ∧
      Stmt.usesAll .empty 0 (program.rename plan) =
        (Stmt.usesAll .empty 0 program).map (fun use =>
          (if use.2 = some plan.site then plan.new else use.1, use.2)) ∧
      (program.rename plan).check = .ok () ∧
      (program.rename plan).exec.error? = program.exec.error? ∧
      (program.rename plan).exec.state.output = program.exec.state.output := by
  refine ⟨?_, ?_, ?_, ?_⟩
  · rw [Program.rename, Stmt.bindersAll_rename, Renaming.declared_eq_set declares]
  · rw [Program.rename, Stmt.usesAll_rename (.empty plan) 0 program fresh]
    have named := Stmt.usesAll_named (.empty (Stmt.bindersAll program)) 0 program
      List.prefix_rfl
    exact List.map_congr_left fun use member => Renaming.used_of_named declares (named use member)
  · rw [Program.check, Outcome.result_eq_ok_iff] at accepted ⊢
    exact Stmt.checkAll_rename (.empty plan) 0 program fresh accepted
  · have start : Machine.start.Renamed plan .empty Machine.start := ⟨.empty plan, rfl⟩
    have simulated := Stmt.execAll_rename start 0 program fresh
    cases failure : program.exec.error? with
    | none =>
        rcases simulated.of_success failure with ⟨success, _, related⟩
        exact ⟨success, related.output⟩
    | some error =>
        -- the check has seen that no name is declared twice
        have shape := Program.isShape_of_error accepted failure
        have serious : ¬error.Redeclares := by
          rintro ⟨name, rfl⟩
          contradiction
        exact simulated.of_failure failure serious

/-- The outermost of four declarations of `x` is renamed. A block uses it before it declares
its own `x`, whose value still uses it; a loop has its vector from it and another `x` as its
variable; and it is assigned behind them. -/
theorem bound_names_irrelevant_of_shadowing :
    let program : Program :=
      [.declare "x" (.int 1),
        .ifThen (.bool true) [.print (.var "x"),
          .declare "x" (.binary .add (.var "x") (.int 1)),
          .assign "x" (.binary .mul (.var "x") (.int 5)), .print (.var "x")],
        .forEach "x" (.oneHot (.int 2) (.var "x"))
          [.assign "x" (.int 3), .declare "x" (.bool true), .print (.var "x")],
        .assign "x" (.int 7), .print (.oneHot (.var "x") (.var "x"))]
    let renamed : Program :=
      [.declare "y" (.int 1),
        .ifThen (.bool true) [.print (.var "y"),
          .declare "x" (.binary .add (.var "y") (.int 1)),
          .assign "x" (.binary .mul (.var "x") (.int 5)), .print (.var "x")],
        .forEach "x" (.oneHot (.int 2) (.var "y"))
          [.assign "x" (.int 3), .declare "x" (.bool true), .print (.var "x")],
        .assign "y" (.int 7), .print (.oneHot (.var "y") (.var "y"))]
    program.rename ⟨0, "x", "y"⟩ = renamed ∧ program.check = .ok () ∧ renamed.check = .ok () ∧
      renamed.exec.error? = program.exec.error? ∧
      renamed.exec.state.output = program.exec.state.output ∧
      program.exec.error? = some (.indexOutOfBounds 7 7) ∧
      program.exec.state.output = #[.int 1, .int 10, .bool true, .bool true] := by
  intro program renamed
  have equal : program.rename ⟨0, "x", "y"⟩ = renamed := rfl
  have accepted : program.check = .ok () := by decide
  rcases bound_names_irrelevant program ⟨0, "x", "y"⟩ accepted (by decide) (by decide) with
    ⟨_, _, check, error, output⟩
  rw [equal] at check error output
  exact ⟨equal, accepted, check, error, output, by decide, by decide⟩

end VectorLang
