import VectorLang.Proofs.CheckFrame
import VectorLang.Proofs.Resolution

/-!
# Names that a program does not mention

Two environments with as many scopes may bind other names as they like: if they agree on the
names that a program mentions, scope by scope, no run and no check can tell them apart. What
they bind besides is never looked at, hides nothing and stays as it is.
-/

namespace VectorLang

variable {α : Type}

/-! ## Agreement on some names -/

namespace Scope

/-- Each of the known names is bound to the same payload in both scopes, or in none of them. -/
def AgreeOn (known : Name → Prop) (scope scope' : Scope α) : Prop :=
  ∀ name, known name → scope'.lookup name = scope.lookup name

/-- The same of all scopes of two chains, which are of one length. -/
def ChainAgreeOn (known : Name → Prop) (scopes scopes' : List (Scope α)) : Prop :=
  List.Forall₂ (AgreeOn known) scopes scopes'

variable {known : Name → Prop} {scope scope' : Scope α} {scopes scopes' : List (Scope α)}

theorem AgreeOn.cons (agree : AgreeOn known scope scope') (binding : Name × α) :
    AgreeOn known (binding :: scope) (binding :: scope') := by
  intro name member
  rw [List.lookup_cons, List.lookup_cons, agree name member]

theorem AgreeOn.rebind (agree : AgreeOn known scope scope') (name : Name) (payload : α) :
    AgreeOn known (scope.rebind name payload) (scope'.rebind name payload) := by
  intro query member
  rw [lookup_rebind, lookup_rebind, agree query member]

/-- A frame keeps the names that it neither changes nor brings in. -/
theorem Frame.agreeOn {changed new : List Name} {after : Scope α}
    (frame : scope.Frame changed new after)
    (others : ∀ name, known name → name ∉ changed ∧ name ∉ new) : AgreeOn known scope after := by
  intro name member
  rcases others name member with ⟨unchanged, notNew⟩
  by_cases bound : name ∈ scope.names
  · exact frame.payload name bound unchanged
  · have absent : name ∉ after.names := fun gained =>
      (frame.gained name gained).elim bound notNew
    rw [lookup_eq_none_iff.mpr bound, lookup_eq_none_iff.mpr absent]

namespace ChainAgreeOn

theorem refl (known : Name → Prop) (scopes : List (Scope α)) :
    ChainAgreeOn known scopes scopes :=
  List.forall₂_same.mpr fun _ _ _ _ => rfl

theorem findSome?_eq (agree : ChainAgreeOn known scopes scopes') {name : Name}
    (mentioned : known name) :
    scopes'.findSome? (·.lookup name) = scopes.findSome? (·.lookup name) := by
  induction agree with
  | nil => rfl
  | cons innermost _ ih =>
      rw [List.findSome?_cons, List.findSome?_cons, innermost name mentioned, ih]

/-- A known name is overwritten in the same scope of both chains. -/
theorem rebindFirst (agree : ChainAgreeOn known scopes scopes') {name : Name}
    (mentioned : known name) (payload : α) :
    ChainAgreeOn known (Scope.rebindFirst name payload scopes)
      (Scope.rebindFirst name payload scopes') := by
  induction agree with
  | nil => exact .nil
  | @cons scope scope' _ _ innermost outer ih =>
      rw [Scope.rebindFirst, Scope.rebindFirst, innermost name mentioned]
      cases scope.lookup name with
      | some old => exact .cons (innermost.rebind name payload) outer
      | none => exact .cons innermost ih

end ChainAgreeOn

end Scope

namespace Env

/-- The environments have as many scopes, and in each of them every known name is bound to the
same payload in both environments, or in none of them. -/
def AgreeOn (known : Name → Prop) (env env' : Env α) : Prop :=
  Scope.ChainAgreeOn known env.scopes env'.scopes

namespace AgreeOn

variable {known : Name → Prop} {env env' : Env α} {name : Name}

theorem refl (known : Name → Prop) (env : Env α) : env.AgreeOn known env :=
  Scope.ChainAgreeOn.refl known env.scopes

theorem innermost (agree : env.AgreeOn known env') :
    env.innermost.AgreeOn known env'.innermost :=
  (List.forall₂_cons.mp agree).1

theorem outer (agree : env.AgreeOn known env') :
    Scope.ChainAgreeOn known env.outer env'.outer :=
  (List.forall₂_cons.mp agree).2

theorem enter (agree : env.AgreeOn known env') : env.enter.AgreeOn known env'.enter :=
  .cons (fun _ _ => rfl) agree

theorem leave (agree : env.AgreeOn known env') : env.leave.AgreeOn known env'.leave := by
  have chain := agree.outer
  rcases env with ⟨innermost, outer⟩
  rcases env' with ⟨innermost', outer'⟩
  cases chain with
  | nil => exact agree
  | cons scope outer => exact .cons scope outer

theorem lookup_eq (agree : env.AgreeOn known env') (mentioned : known name) :
    env'.lookup name = env.lookup name := by
  have found : env'.find? name = env.find? name := agree.findSome?_eq mentioned
  rw [lookup, lookup, found]

/-- A known name is new in both environments or in none of them. -/
theorem declare {ε : Type} {wrap : NameError → ε} (agree : env.AgreeOn known env')
    (mentioned : known name) (payload : α) :
    ComputesAlike (AgreeOn known) ((env.declare name payload).mapError wrap)
      ((env'.declare name payload).mapError wrap) := by
  rw [Env.declare, Env.declare, agree.innermost name mentioned]
  cases env.innermost.lookup name with
  | some old => exact .error _
  | none => exact .ok (.cons (agree.innermost.cons (name, payload)) agree.outer)

/-- A known name is overwritten in both environments, if it is bound in any of them. -/
theorem update {ε : Type} {wrap : NameError → ε} (agree : env.AgreeOn known env')
    (mentioned : known name) (payload : α) :
    ComputesAlike (fun replaced replaced' => AgreeOn known replaced.2 replaced'.2)
      ((env.update name payload).mapError wrap) ((env'.update name payload).mapError wrap) := by
  have found : env'.find? name = env.find? name := agree.findSome?_eq mentioned
  have rebound : (env.rebind name payload).AgreeOn known (env'.rebind name payload) := by
    rw [AgreeOn, scopes_rebind, scopes_rebind]
    exact agree.rebindFirst mentioned payload
  rw [Env.update, Env.update, found]
  cases env.find? name with
  | none => exact .error _
  | some old => exact .ok rebound

end AgreeOn

/-- A frame keeps the names that it neither changes nor brings in. -/
theorem Frame.agreeOn {changed new : List Name} {known : Name → Prop} {env after : Env α}
    (frame : env.Frame changed new after)
    (others : ∀ name, known name → name ∉ changed ∧ name ∉ new) : env.AgreeOn known after := by
  refine .cons (frame.innermost.agreeOn others) (frame.outer.imp fun _ _ scope => ?_)
  exact scope.agreeOn fun name member => ⟨(others name member).1, List.not_mem_nil⟩

/-- More bindings change nothing for the names that they do not bind. -/
theorem agreeOn_extend {known : Name → Prop} (env : Env α) {added : Scope α}
    (others : ∀ name, known name → name ∉ added.names) : env.AgreeOn known (env.extend added) := by
  refine .cons (fun name member => ?_) (Scope.ChainAgreeOn.refl known env.outer)
  have absent := Scope.lookup_eq_none_iff.mpr (others name member)
  rw [Env.extend, List.lookup_append, absent, Option.none_or]

end Env

/-! ## Expressions -/

namespace Expr

theorem mapNames_id (expr : Expr) : expr.mapNames id = expr := by
  induction expr with
  | int | bool | var => rfl
  | unary op operand ih => rw [mapNames, ih]
  | binary op left right ihLeft ihRight => rw [mapNames, ihLeft, ihRight]
  | oneHot length index ihLength ihIndex => rw [mapNames, ihLength, ihIndex]

variable {known : Name → Prop} {expr : Expr}

theorem eval_eq_of_agreeOn {values values' : Env Value} (agree : values.AgreeOn known values')
    (mentioned : ∀ name ∈ expr.names, known name) : expr.eval values' = expr.eval values := by
  have same : (expr.mapNames id).eval values' = expr.eval values :=
    expr.eval_mapNames fun name member => agree.lookup_eq (mentioned name member)
  rwa [mapNames_id] at same

theorem typeIn_eq_of_agreeOn {types types' : Env Ty} (agree : types.AgreeOn known types')
    (mentioned : ∀ name ∈ expr.names, known name) :
    expr.typeIn types' = expr.typeIn types := by
  have same : (expr.mapNames id).typeIn types' = expr.typeIn types :=
    expr.typeIn_mapNames fun name member => agree.lookup_eq (mentioned name member)
  rwa [mapNames_id] at same

theorem requireTy_eq_of_agreeOn {types types' : Env Ty} (agree : types.AgreeOn known types')
    (mentioned : ∀ name ∈ expr.names, known name) (expected : Ty) :
    expr.requireTy types' expected = expr.requireTy types expected := by
  rw [requireTy, requireTy, typeIn_eq_of_agreeOn agree mentioned]

end Expr

/-! ## Two checks -/

theorem Env.inScope_alike {ε : Type} {known : Name → Prop} {env env' : Env α}
    {body body' : Env α → Outcome ε (Env α)}
    (inside : (body env.enter).Alike (body' env'.enter) (Env.AgreeOn known)) :
    (env.inScope body).Alike (env'.inScope body') (Env.AgreeOn known) :=
  inside.mapState (fun _ _ => AgreeOn.leave) fun _ _ => AgreeOn.leave

namespace Stmt

variable {known : Name → Prop}

mutual

/-- Two environments that agree on the names of a statement still do so behind its check. -/
theorem check_alike {types types' : Env Ty} (agree : types.AgreeOn known types') (stmt : Stmt)
    (mentioned : ∀ name ∈ stmt.names, known name) :
    (check types stmt).Alike (check types' stmt) (Env.AgreeOn known) := by
  cases stmt with
  | declare name value =>
      rw [names, List.forall_mem_cons] at mentioned
      rw [check, check, Expr.typeIn_eq_of_agreeOn agree mentioned.2]
      apply Outcome.simulatedBy_withValue agree
      intro ty
      apply Outcome.alike_withValue (agree.declare mentioned.1 ty) agree
      exact fun _ _ after => Outcome.simulatedBy_done.mpr after
  | assign name value =>
      rw [names, List.forall_mem_cons] at mentioned
      rw [check, check, Expr.typeIn_eq_of_agreeOn agree mentioned.2, agree.lookup_eq mentioned.1]
      apply Outcome.simulatedBy_withValue agree
      intro found
      apply Outcome.simulatedBy_withValue agree
      intro declared
      apply Outcome.simulatedBy_withValue agree
      intro _
      apply Outcome.alike_withValue (agree.update mentioned.1 found) agree
      exact fun _ _ after => Outcome.simulatedBy_done.mpr after
  | print value =>
      rw [check, check, Expr.typeIn_eq_of_agreeOn agree mentioned]
      apply Outcome.simulatedBy_withValue agree
      exact fun _ => Outcome.simulatedBy_done.mpr agree
  | ifThen condition body =>
      rw [names, List.forall_mem_append] at mentioned
      rw [check, check, Expr.requireTy_eq_of_agreeOn agree mentioned.1]
      apply Outcome.simulatedBy_withValue agree
      intro _
      exact Env.inScope_alike (checkAll_alike agree.enter body mentioned.2)
  | ifElse condition body alternative =>
      rw [names, List.forall_mem_append, List.forall_mem_append] at mentioned
      rw [check, check, Expr.requireTy_eq_of_agreeOn agree mentioned.1]
      apply Outcome.simulatedBy_withValue agree
      intro _
      apply (Env.inScope_alike (checkAll_alike agree.enter body mentioned.2.1)).andThen
      intro _ _ agree
      exact Env.inScope_alike (checkAll_alike agree.enter alternative mentioned.2.2)
  | forEach name elements body =>
      rw [names, List.forall_mem_cons, List.forall_mem_append] at mentioned
      rw [check, check, Expr.requireTy_eq_of_agreeOn agree mentioned.2.1]
      apply Outcome.simulatedBy_withValue agree
      intro _
      apply Env.inScope_alike
      apply Outcome.alike_withValue (agree.enter.declare mentioned.1 .int) agree.enter
      intro _ _ inside
      exact Env.inScope_alike (checkAll_alike inside.enter body mentioned.2.2)

/-- The same of a sequence. -/
theorem checkAll_alike {types types' : Env Ty} (agree : types.AgreeOn known types')
    (stmts : List Stmt) (mentioned : ∀ name ∈ namesAll stmts, known name) :
    (checkAll types stmts).Alike (checkAll types' stmts) (Env.AgreeOn known) := by
  cases stmts with
  | nil => exact Outcome.simulatedBy_done.mpr agree
  | cons stmt rest =>
      rw [namesAll, List.forall_mem_append] at mentioned
      rw [checkAll, checkAll]
      apply (check_alike agree stmt mentioned.1).andThen
      exact fun _ _ agree => checkAll_alike agree rest mentioned.2

end

end Stmt

/-! ## Two runs -/

namespace Machine

/-- The environments agree on the known names, and behind `before` and `before'` the machines
have printed the same. -/
structure Alike (known : Name → Prop) (before before' : Array Value)
    (machine machine' : Machine) : Prop where
  env : machine.env.AgreeOn known machine'.env
  printed : ∃ values, machine.output = before ++ values ∧ machine'.output = before' ++ values

variable {known : Name → Prop} {before before' : Array Value} {machine machine' : Machine}
  {name : Name}

theorem Alike.enter (alike : machine.Alike known before before' machine') :
    machine.enter.Alike known before before' machine'.enter :=
  ⟨alike.env.enter, alike.printed⟩

theorem declare_alike (alike : machine.Alike known before before' machine')
    (mentioned : known name) (value : Value) :
    (machine.declare name value).Alike (machine'.declare name value)
      (Alike known before before') := by
  rw [declare, declare]
  apply Outcome.alike_withValue (alike.env.declare mentioned value) alike
  exact fun _ _ after => Outcome.simulatedBy_done.mpr ⟨after, alike.printed⟩

theorem assign_alike (alike : machine.Alike known before before' machine')
    (mentioned : known name) (value : Value) :
    (machine.assign name value).Alike (machine'.assign name value)
      (Alike known before before') := by
  rw [assign, assign]
  apply Outcome.alike_withValue (alike.env.update mentioned value) alike
  exact fun _ _ after => Outcome.simulatedBy_done.mpr ⟨after, alike.printed⟩

theorem print_alike (alike : machine.Alike known before before' machine') (value : Value) :
    (machine.print value).Alike (machine'.print value) (Alike known before before') := by
  rcases alike.printed with ⟨values, printed, printed'⟩
  refine Outcome.simulatedBy_done.mpr ⟨alike.env, values.push value, ?_, ?_⟩
  · rw [printed, Array.append_push]
  · rw [printed', Array.append_push]

theorem inScope_alike {body body' : Machine → Outcome EvalError Machine}
    (inside : (body machine.enter).Alike (body' machine'.enter) (Alike known before before')) :
    (machine.inScope body).Alike (machine'.inScope body') (Alike known before before') :=
  inside.mapState (fun _ _ alike => ⟨alike.env.leave, alike.printed⟩)
    fun _ _ alike => ⟨alike.env.leave, alike.printed⟩

/-- Loops over the same elements run alike if their blocks do. -/
theorem loop_alike {body : Block}
    (block : ∀ machine machine' : Machine, machine.Alike known before before' machine' →
      (Stmt.execAll machine body).Alike (Stmt.execAll machine' body)
        (Alike known before before'))
    (alike : machine.Alike known before before' machine') (mentioned : known name)
    (elements : List Int32) :
    ((Work.loop name elements body).run machine).Alike
      ((Work.loop name elements body).run machine') (Alike known before before') := by
  rw [Work.run, Work.run]
  apply (declare_alike alike mentioned (.int 0)).andThen
  intro inside inside' start
  refine Outcome.simulatedBy_forEach (fun element state state' alike => ?_) elements start
  rw [round, round]
  apply (assign_alike alike mentioned (.int element)).andThen
  exact fun _ _ alike => inScope_alike (block _ _ alike.enter)

end Machine

namespace Stmt

variable {known : Name → Prop} {before before' : Array Value}

mutual

/-- Two machines that agree on the names of a statement run it alike. -/
theorem exec_alike {machine machine' : Machine}
    (alike : machine.Alike known before before' machine') (stmt : Stmt)
    (mentioned : ∀ name ∈ stmt.names, known name) :
    (exec machine stmt).Alike (exec machine' stmt) (Machine.Alike known before before') := by
  cases stmt with
  | declare name value =>
      rw [names, List.forall_mem_cons] at mentioned
      rw [exec, exec, Expr.eval_eq_of_agreeOn alike.env mentioned.2]
      apply Outcome.simulatedBy_withValue alike
      exact Machine.declare_alike alike mentioned.1
  | assign name value =>
      rw [names, List.forall_mem_cons] at mentioned
      rw [exec, exec, Expr.eval_eq_of_agreeOn alike.env mentioned.2]
      apply Outcome.simulatedBy_withValue alike
      exact Machine.assign_alike alike mentioned.1
  | print value =>
      rw [exec, exec, Expr.eval_eq_of_agreeOn alike.env mentioned]
      apply Outcome.simulatedBy_withValue alike
      exact Machine.print_alike alike
  | ifThen condition body =>
      rw [names, List.forall_mem_append] at mentioned
      rw [exec, exec, Expr.eval_eq_of_agreeOn alike.env mentioned.1]
      apply Outcome.simulatedBy_withValue alike
      intro truth
      cases truth with
      | false => exact Outcome.simulatedBy_done.mpr alike
      | true => exact Machine.inScope_alike (execAll_alike alike.enter body mentioned.2)
  | ifElse condition body alternative =>
      rw [names, List.forall_mem_append, List.forall_mem_append] at mentioned
      rw [exec, exec, Expr.eval_eq_of_agreeOn alike.env mentioned.1]
      apply Outcome.simulatedBy_withValue alike
      intro truth
      cases truth with
      | false => exact Machine.inScope_alike (execAll_alike alike.enter alternative mentioned.2.2)
      | true => exact Machine.inScope_alike (execAll_alike alike.enter body mentioned.2.1)
  | forEach name elements body =>
      rw [names, List.forall_mem_cons, List.forall_mem_append] at mentioned
      rw [exec_forEach, exec_forEach, Expr.eval_eq_of_agreeOn alike.env mentioned.2.1]
      apply Outcome.simulatedBy_withValue alike
      intro elements
      apply Machine.inScope_alike
      refine Machine.loop_alike (fun _ _ inside => ?_) alike.enter mentioned.1 elements
      exact execAll_alike inside body mentioned.2.2

/-- The same of a sequence. -/
theorem execAll_alike {machine machine' : Machine}
    (alike : machine.Alike known before before' machine') (stmts : List Stmt)
    (mentioned : ∀ name ∈ namesAll stmts, known name) :
    (execAll machine stmts).Alike (execAll machine' stmts)
      (Machine.Alike known before before') := by
  cases stmts with
  | nil => exact Outcome.simulatedBy_done.mpr alike
  | cons stmt rest =>
      rw [namesAll, List.forall_mem_append] at mentioned
      rw [execAll, execAll]
      apply (exec_alike alike stmt mentioned.1).andThen
      exact fun _ _ alike => execAll_alike alike rest mentioned.2

end

/-! ## Names that are changed or declared -/

mutual

theorem assigned_subset_names (stmt : Stmt) : stmt.assigned ⊆ stmt.names := by
  cases stmt with
  | declare | print => exact List.nil_subset _
  | assign name value => exact List.cons_subset_cons name (List.nil_subset _)
  | ifThen condition body =>
      exact List.subset_append_of_subset_right _ (assignedAll_subset_namesAll body)
  | ifElse condition body alternative =>
      refine List.subset_append_of_subset_right _ (List.append_subset.mpr ⟨?_, ?_⟩)
      · exact List.subset_append_of_subset_left _ (assignedAll_subset_namesAll body)
      · exact List.subset_append_of_subset_right _ (assignedAll_subset_namesAll alternative)
  | forEach name elements body =>
      refine List.subset_cons_of_subset name ?_
      exact List.subset_append_of_subset_right _ (assignedAll_subset_namesAll body)

theorem assignedAll_subset_namesAll (stmts : List Stmt) : assignedAll stmts ⊆ namesAll stmts := by
  cases stmts with
  | nil => exact List.nil_subset _
  | cons stmt rest =>
      refine List.append_subset.mpr ⟨?_, ?_⟩
      · exact List.subset_append_of_subset_left _ (assigned_subset_names stmt)
      · exact List.subset_append_of_subset_right _ (assignedAll_subset_namesAll rest)

end

theorem declared_subset_names (stmt : Stmt) : stmt.declared ⊆ stmt.names := by
  cases stmt with
  | declare name value => exact List.cons_subset_cons name (List.nil_subset _)
  | assign | print | ifThen | ifElse | forEach => exact List.nil_subset _

theorem declaredAll_subset_namesAll (stmts : List Stmt) : declaredAll stmts ⊆ namesAll stmts := by
  induction stmts with
  | nil => exact List.nil_subset _
  | cons stmt rest ih =>
      refine List.append_subset.mpr ⟨?_, ?_⟩
      · exact List.subset_append_of_subset_left _ (declared_subset_names stmt)
      · exact List.subset_append_of_subset_right _ ih

/-- A check leaves the names alone that are not mentioned. -/
theorem checkAll_agreeOn (types : Env Ty) (stmts : List Stmt) :
    types.AgreeOn (· ∉ namesAll stmts) (checkAll types stmts).state := by
  rcases exists_adds_checkAll types stmts with ⟨passed, rest, added, rfl, adds, state, _⟩
  rw [state]
  apply Env.agreeOn_extend
  intro name other declared
  rw [adds.names_eq, List.mem_reverse] at declared
  have inside : name ∈ declaredAll (passed ++ rest) := by
    rw [declaredAll, List.flatMap_append]
    exact List.mem_append_left _ declared
  exact other (declaredAll_subset_namesAll _ inside)

end Stmt

/-! ## What is not mentioned does not matter -/

/-- The environments behind two runs agree on the mentioned names again, and in both all other
names are bound as they were before. -/
structure Env.SameEffect (mentioned : List Name) (env env' after after' : Env α) : Prop where
  agree : after.AgreeOn (· ∈ mentioned) after'
  others : env.AgreeOn (· ∉ mentioned) after
  others' : env'.AgreeOn (· ∉ mentioned) after'

/-- From environments that agree on the mentioned names, the check has the same result and the
same effect. -/
def Env.ConfinedTo (mentioned : List Name) (check : Env Ty → Outcome TypeError (Env Ty)) : Prop :=
  ∀ types types' : Env Ty, types.AgreeOn (· ∈ mentioned) types' →
    (check types').error? = (check types).error? ∧
      SameEffect mentioned types types' (check types).state (check types').state

/-- From environments that agree on the mentioned names, the run has the same result and the
same effect, and prints the same values, whatever was printed before. -/
def Machine.ConfinedTo (mentioned : List Name)
    (run : Machine → Outcome EvalError Machine) : Prop :=
  ∀ machine machine' : Machine, machine.env.AgreeOn (· ∈ mentioned) machine'.env →
    (run machine').error? = (run machine).error? ∧
      (∃ values, (run machine).state.output = machine.output ++ values ∧
        (run machine').state.output = machine'.output ++ values) ∧
      Env.SameEffect mentioned machine.env machine'.env (run machine).state.env
        (run machine').state.env

theorem Env.confinedTo_of_alike {mentioned : List Name}
    {check : Env Ty → Outcome TypeError (Env Ty)}
    (alike : ∀ types types' : Env Ty, types.AgreeOn (· ∈ mentioned) types' →
      (check types).Alike (check types') (AgreeOn (· ∈ mentioned)))
    (others : ∀ types : Env Ty, types.AgreeOn (· ∉ mentioned) (check types).state) :
    ConfinedTo mentioned check := by
  intro types types' agree
  rcases Outcome.alike_iff.mp (alike types types' agree) with ⟨error, after⟩
  exact ⟨error, after, others types, others types'⟩

theorem Machine.confinedTo_of_alike {mentioned changed new : List Name}
    {run : Machine → Outcome EvalError Machine}
    (alike : ∀ machine machine' : Machine,
      machine.Alike (· ∈ mentioned) machine.output machine'.output machine' →
      (run machine).Alike (run machine')
        (Alike (· ∈ mentioned) machine.output machine'.output))
    (frame : ∀ machine : Machine, machine.Frame changed new (run machine).state)
    (changes : changed ⊆ mentioned) (declares : new ⊆ mentioned) :
    ConfinedTo mentioned run := by
  intro machine machine' agree
  have start : machine.Alike (· ∈ mentioned) machine.output machine'.output machine' :=
    ⟨agree, #[], by simp, by simp⟩
  rcases Outcome.alike_iff.mp (alike machine machine' start) with ⟨error, after⟩
  have others (machine : Machine) : machine.env.AgreeOn (· ∉ mentioned) (run machine).state.env :=
    (frame machine).env.agreeOn fun name other =>
      ⟨fun inside => other (changes inside), fun inside => other (declares inside)⟩
  exact ⟨error, after.printed, after.env, others machine, others machine'⟩

/-- Only the names that a statement, a block or a program mentions matter to its run and to its
check. Between environments that agree on these names in every scope there is no difference in
the result, in the output or in what becomes of these names, and all other names keep what they
are bound to in each of the scopes. -/
theorem only_mentioned_names_matter :
    (∀ stmt : Stmt, Machine.ConfinedTo stmt.names fun machine => Stmt.exec machine stmt) ∧
    (∀ block : Block, Machine.ConfinedTo (Stmt.namesAll block) fun machine =>
      machine.inScope fun machine => Stmt.execAll machine block) ∧
    (∀ program : Program, Machine.ConfinedTo (Stmt.namesAll program) fun machine =>
      Stmt.execAll machine program) ∧
    (∀ stmt : Stmt, Env.ConfinedTo stmt.names fun types => Stmt.check types stmt) ∧
    (∀ block : Block, Env.ConfinedTo (Stmt.namesAll block) fun types =>
      types.inScope fun types => Stmt.checkAll types block) ∧
    ∀ program : Program, Env.ConfinedTo (Stmt.namesAll program) fun types =>
      Stmt.checkAll types program := by
  refine ⟨?_, ?_, ?_, ?_, ?_, ?_⟩
  · intro stmt
    exact Machine.confinedTo_of_alike
      (fun _ _ alike => Stmt.exec_alike alike stmt fun _ => id)
      (fun machine => Stmt.exec_frame machine stmt)
      stmt.assigned_subset_names stmt.declared_subset_names
  · intro block
    exact Machine.confinedTo_of_alike
      (fun _ _ alike => Machine.inScope_alike (Stmt.execAll_alike alike.enter block fun _ => id))
      (fun machine => Machine.inScope_frame (Stmt.execAll_frame machine.enter block))
      (Stmt.assignedAll_subset_namesAll block) (List.nil_subset _)
  · intro program
    exact Machine.confinedTo_of_alike
      (fun _ _ alike => Stmt.execAll_alike alike program fun _ => id)
      (fun machine => Stmt.execAll_frame machine program)
      (Stmt.assignedAll_subset_namesAll program) (Stmt.declaredAll_subset_namesAll program)
  · intro stmt
    refine Env.confinedTo_of_alike
      (fun _ _ agree => Stmt.check_alike agree stmt fun _ => id) fun types => ?_
    have whole := Stmt.checkAll_agreeOn types [stmt]
    rwa [Stmt.checkAll_singleton, Stmt.namesAll, Stmt.namesAll, List.append_nil] at whole
  · intro block
    refine Env.confinedTo_of_alike
      (fun _ _ agree => Env.inScope_alike (Stmt.checkAll_alike agree.enter block fun _ => id))
      fun types => ?_
    rw [Env.inScope_unchanged (Stmt.checkAll_grows types.enter block)]
    exact .refl _ types
  · intro program
    exact Env.confinedTo_of_alike
      (fun _ _ agree => Stmt.checkAll_alike agree program fun _ => id)
      fun types => Stmt.checkAll_agreeOn types program

/-- A loop that fails in its first round. The machines have another `u`, one of them even in
another scope than the other, and have printed different values. -/
theorem only_mentioned_names_matter_of_failure :
    let loop : Stmt := .forEach "i" (.oneHot (.int 2) (.int 0))
      [.assign "x" (.binary .add (.var "x") (.var "i")), .print (.var "x"),
        .declare "y" (.oneHot (.var "i") (.var "x"))]
    let machine : Machine := ⟨⟨[("u", .int 9)], [[("x", .int 1)]]⟩, #[]⟩
    let machine' : Machine := ⟨⟨[], [[("u", .bool true), ("x", .int 1)]]⟩, #[.int 5]⟩
    machine.env.AgreeOn (· ∈ loop.names) machine'.env ∧
      (Stmt.exec machine loop).error? = some (.indexOutOfBounds 2 1) ∧
      (Stmt.exec machine' loop).error? = (Stmt.exec machine loop).error? ∧
      (Stmt.exec machine' loop).state.output = #[.int 5, .int 2] ∧
      Env.SameEffect loop.names machine.env machine'.env (Stmt.exec machine loop).state.env
        (Stmt.exec machine' loop).state.env := by
  intro loop machine machine'
  have agree : machine.env.AgreeOn (· ∈ loop.names) machine'.env := by
    refine .cons ?_ (.cons ?_ .nil)
    · intro name (mentioned : name ∈ loop.names)
      have other : name ≠ "u" := ne_of_mem_of_not_mem mentioned (by decide)
      exact (Scope.lookup_cons_of_ne other _ _).symm
    · intro name (mentioned : name ∈ loop.names)
      have other : name ≠ "u" := ne_of_mem_of_not_mem mentioned (by decide)
      exact Scope.lookup_cons_of_ne other _ _
  rcases only_mentioned_names_matter.1 loop machine machine' agree with ⟨error, _, effect⟩
  exact ⟨agree, by decide, error, by decide, effect⟩

end VectorLang
