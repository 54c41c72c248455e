import Mathlib.Data.List.Forall2
import VectorLang.Proofs.Env
import VectorLang.Proofs.Passage

/-!
# What a run leaves alone

A statement keeps the scopes that it starts in, whether it ends or fails: it binds new names
only where it declares them itself, and changes the values of names only that it assigns. A
loop sets its variable in a scope of its own, so it changes no variable of that name outside.
What was printed stays printed.
-/

namespace VectorLang

variable {α : Type}

/-! ## Scopes -/

namespace Scope

/-- The names that the scope binds. -/
def names (scope : Scope α) : List Name :=
  scope.map (·.1)

theorem lookup_eq_none_iff {name : Name} {scope : Scope α} :
    scope.lookup name = none ↔ name ∉ scope.names := by
  rw [List.lookup_eq_none_iff, names, List.mem_map]
  constructor
  · rintro absent ⟨binding, member, rfl⟩
    simpa using absent binding member
  · intro absent binding member
    rw [bne_iff_ne]
    rintro rfl
    exact absent ⟨binding, member, rfl⟩

theorem names_rebind (name : Name) (payload : α) (scope : Scope α) :
    (scope.rebind name payload).names = scope.names := by
  induction scope with
  | nil => rfl
  | cons binding rest ih =>
      rw [rebind]
      split
      · rfl
      · exact congrArg (binding.1 :: ·) ih

/-- The scope `after` binds the names of `before` and none besides but those of `new`; only
those of `changed` may have other payloads. -/
structure Frame (changed new : List Name) (before after : Scope α) : Prop where
  kept : ∀ name ∈ before.names, name ∈ after.names
  gained : ∀ name ∈ after.names, name ∈ before.names ∨ name ∈ new
  payload : ∀ name ∈ before.names, name ∉ changed → after.lookup name = before.lookup name

namespace Frame

variable {changed new : List Name} {first second third : Scope α}

theorem refl (scope : Scope α) : scope.Frame changed new scope :=
  ⟨fun _ => id, fun _ => .inl, fun _ _ _ => rfl⟩

theorem trans (early : first.Frame changed new second) (late : second.Frame changed new third) :
    first.Frame changed new third := by
  constructor
  · intro name member
    exact late.kept name (early.kept name member)
  · intro name member
    rcases late.gained name member with before | fresh
    · exact early.gained name before
    · exact .inr fresh
  · intro name member other
    exact (late.payload name (early.kept name member) other).trans (early.payload name member other)

theorem mono {changed' new' : List Name} (frame : first.Frame changed new second)
    (moreChanged : changed ⊆ changed') (moreNew : new ⊆ new') :
    first.Frame changed' new' second :=
  ⟨frame.kept, fun name member => (frame.gained name member).imp_right (@moreNew name),
    fun name member other => frame.payload name member fun inside => other (moreChanged inside)⟩

theorem declare {name : Name} (absent : first.lookup name = none) (payload : α)
    (fresh : name ∈ new) : first.Frame changed new ((name, payload) :: first) := by
  constructor
  · exact fun query member => List.mem_cons_of_mem _ member
  · intro query member
    rcases List.mem_cons.mp member with rfl | before
    · exact .inr fresh
    · exact .inl before
  · intro query member _
    apply lookup_cons_of_ne
    rintro rfl
    exact lookup_eq_none_iff.mp absent member

/-- A payload is changed where its name allows it, or where the name is itself new. -/
theorem rebind (frame : first.Frame changed new second) {name : Name}
    (free : name ∈ changed ∨ name ∉ first.names) (payload : α) :
    first.Frame changed new (second.rebind name payload) := by
  constructor
  · simpa only [names_rebind] using frame.kept
  · simpa only [names_rebind] using frame.gained
  · intro query member other
    have different : query ≠ name := by
      rintro rfl
      rcases free with inside | outside
      · exact other inside
      · exact outside member
    rw [lookup_rebind, ← frame.payload query member other]
    simp [different]

end Frame

/-- The scopes bind the names that they did, and only those of `changed` have other
payloads. -/
def ChainFrame (changed : List Name) (before after : List (Scope α)) : Prop :=
  List.Forall₂ (Frame changed []) before after

namespace ChainFrame

variable {changed : List Name} {first second third : List (Scope α)}

theorem refl (changed : List Name) (scopes : List (Scope α)) : ChainFrame changed scopes scopes :=
  List.forall₂_same.mpr fun scope _ => .refl scope

theorem trans (early : ChainFrame changed first second) (late : ChainFrame changed second third) :
    ChainFrame changed first third := by
  induction early generalizing third with
  | nil => exact late
  | cons scope _ ih =>
      cases late with
      | cons next rest => exact .cons (scope.trans next) (ih rest)

theorem rebindFirst {name : Name} (inside : name ∈ changed) (payload : α)
    (scopes : List (Scope α)) :
    ChainFrame changed scopes (Scope.rebindFirst name payload scopes) := by
  induction scopes with
  | nil => exact .nil
  | cons scope outer ih =>
      rw [Scope.rebindFirst]
      split
      · exact .cons ((Frame.refl scope).rebind (.inl inside) payload) (refl changed outer)
      · exact .cons (.refl scope) ih

end ChainFrame

end Scope

/-! ## Environments -/

theorem Env.names_innermost_rebind (name : Name) (payload : α) (env : Env α) :
    (env.rebind name payload).innermost.names = env.innermost.names := by
  rw [Env.rebind]
  split
  · exact Scope.names_rebind name payload env.innermost
  · rfl

/-- The innermost scope gains at most the names of `new`, the other scopes gain none, and
only the names of `changed` have other payloads. -/
structure Env.Frame (changed new : List Name) (before after : Env α) : Prop where
  innermost : before.innermost.Frame changed new after.innermost
  outer : Scope.ChainFrame changed before.outer after.outer

namespace Env.Frame

variable {changed new : List Name} {first second third : Env α}

theorem refl (env : Env α) : env.Frame changed new env :=
  ⟨.refl _, .refl _ _⟩

theorem trans (early : first.Frame changed new second) (late : second.Frame changed new third) :
    first.Frame changed new third :=
  ⟨early.innermost.trans late.innermost, early.outer.trans late.outer⟩

theorem mono {changed' new' : List Name} (frame : first.Frame changed new second)
    (moreChanged : changed ⊆ changed') (moreNew : new ⊆ new') :
    first.Frame changed' new' second :=
  ⟨frame.innermost.mono moreChanged moreNew,
    frame.outer.imp fun _ _ scope => scope.mono moreChanged (List.Subset.refl _)⟩

/-- Environments whose scopes all keep their names. -/
theorem of_scopes (chain : Scope.ChainFrame changed first.scopes second.scopes) :
    first.Frame changed [] second := by
  cases chain with
  | cons innermost outer => exact ⟨innermost, outer⟩

theorem depth_eq (frame : first.Frame changed new second) : second.depth = first.depth := by
  simp [Env.depth, Env.scopes, frame.outer.length_eq]

theorem declare {name : Name} (absent : first.innermost.lookup name = none) (payload : α)
    (fresh : name ∈ new) :
    first.Frame changed new ⟨(name, payload) :: first.innermost, first.outer⟩ :=
  ⟨.declare absent payload fresh, .refl _ _⟩

theorem rebind {name : Name} (inside : name ∈ changed) (payload : α) (env : Env α) :
    env.Frame changed [] (env.rebind name payload) := by
  apply of_scopes
  rw [scopes_rebind]
  exact .rebindFirst inside payload env.scopes

/-- The payload of a name that is itself new is nothing that has to be kept. -/
theorem rebind_new (frame : first.Frame changed new second) {name : Name}
    (absent : name ∉ first.innermost.names) (bound : name ∈ second.innermost.names)
    (payload : α) : first.Frame changed new (second.rebind name payload) := by
  rw [Env.rebind]
  split
  · exact ⟨frame.innermost.rebind (.inr absent) payload, frame.outer⟩
  · next missing => exact absurd bound (Scope.lookup_eq_none_iff.mp missing)

/-- A scope that was opened is closed again, since it still has an enclosing one. -/
theorem leave?_eq (frame : first.enter.Frame changed new second) :
    second.leave? = some second.leave := by
  have chain := frame.outer
  rcases second with ⟨innermost, outer⟩
  cases chain
  rfl

/-- Behind a scope of its own, a body leaves no name. -/
theorem leave (frame : first.enter.Frame changed new second) :
    first.Frame changed [] second.leave := by
  have chain := frame.outer
  apply of_scopes
  rcases second with ⟨innermost, outer⟩
  cases chain with
  | cons innermost outer => exact .cons innermost outer

end Env.Frame

/-! ## Machines -/

/-- The environment is framed, and what was printed stays. -/
structure Machine.Frame (changed new : List Name) (before after : Machine) : Prop where
  env : before.env.Frame changed new after.env
  output : before.output.toList <+: after.output.toList

namespace Machine

variable {changed new : List Name} {first second third machine : Machine}

namespace Frame

theorem refl (machine : Machine) : machine.Frame changed new machine :=
  ⟨.refl _, List.prefix_rfl⟩

theorem trans (early : first.Frame changed new second) (late : second.Frame changed new third) :
    first.Frame changed new third :=
  ⟨early.env.trans late.env, early.output.trans late.output⟩

theorem mono {changed' new' : List Name} (frame : first.Frame changed new second)
    (moreChanged : changed ⊆ changed') (moreNew : new ⊆ new') :
    first.Frame changed' new' second :=
  ⟨frame.env.mono moreChanged moreNew, frame.output⟩

/-- The text that was printed stays at the front. -/
theorem printed (frame : first.Frame changed new second) :
    ∃ more, second.printed = first.printed ++ more := by
  rcases frame.output with ⟨values, equal⟩
  refine ⟨Value.lines values, ?_⟩
  simp [Machine.printed, ← equal, Value.lines, Text.unlines, String.join_append]

end Frame

theorem declare_frame {name : Name} (fresh : name ∈ new) (value : Value) (machine : Machine) :
    machine.Frame changed new (machine.declare name value).state := by
  apply Outcome.ensures_both_iff.mp
  rw [declare]
  apply Outcome.ensures_withValue (fun _ _ => .refl machine)
  intro after declared
  rcases Env.declare_eq_ok_iff.mp declared with ⟨absent, rfl⟩
  exact ⟨.declare absent value fresh, List.prefix_rfl⟩

theorem assign_frame {name : Name} (inside : name ∈ changed) (value : Value)
    (machine : Machine) : machine.Frame changed [] (machine.assign name value).state := by
  apply Outcome.ensures_both_iff.mp
  rw [assign]
  apply Outcome.ensures_withValue (fun _ _ => .refl machine)
  intro replaced updated
  rcases Env.update_eq_ok_iff.mp updated with ⟨old, _, rfl⟩
  exact ⟨.rebind inside value machine.env, List.prefix_rfl⟩

theorem print_frame (value : Value) (machine : Machine) :
    machine.Frame changed new (machine.print value).state :=
  ⟨.refl _, by simp [print]⟩

theorem inScope_frame {body : Machine → Outcome EvalError Machine}
    (block : machine.enter.Frame changed new (body machine.enter).state) :
    machine.Frame changed [] (machine.inScope body).state :=
  ⟨block.env.leave, block.output⟩

/-- A loop is under way: its variable is new in the scope of the loop, and bound there. -/
structure InLoop (changed : List Name) (name : Name) (before inside : Machine) : Prop where
  new : name ∉ before.env.innermost.names
  bound : name ∈ inside.env.innermost.names
  frame : before.Frame changed [name] inside

/-- A loop starts with the declaration of its variable, unless that fails. -/
theorem declare_inLoop (name : Name) (value : Value) (machine : Machine) :
    (machine.declare name value).Ensures (InLoop changed name machine)
      fun _ => machine.Frame changed [name] := by
  rw [declare]
  apply Outcome.ensures_withValue (fun _ _ => .refl machine)
  intro after declared
  rcases Env.declare_eq_ok_iff.mp declared with ⟨absent, rfl⟩
  exact {
    new := Scope.lookup_eq_none_iff.mp absent
    bound := List.mem_cons_self
    frame := ⟨.declare absent value List.mem_cons_self, List.prefix_rfl⟩ }

/-- The loop variable is found in the scope of the loop, so no other one is changed. -/
theorem InLoop.assign {name : Name} (inLoop : InLoop changed name first machine)
    (value : Value) : InLoop changed name first (machine.assign name value).state := by
  apply Outcome.ensures_both_iff.mp
  rw [Machine.assign]
  apply Outcome.ensures_withValue (fun _ _ => inLoop)
  intro replaced updated
  rcases Env.update_eq_ok_iff.mp updated with ⟨old, _, rfl⟩
  have frame := inLoop.frame.env.rebind_new inLoop.new inLoop.bound value
  exact {
    new := inLoop.new
    bound := (Env.names_innermost_rebind name value _).symm ▸ inLoop.bound
    frame := ⟨frame, inLoop.frame.output⟩ }

theorem InLoop.round {name : Name} {body : Block} {inner : List Name}
    (block : ∀ machine : Machine, machine.Frame changed inner (Stmt.execAll machine body).state)
    (inLoop : InLoop changed name first machine) (element : Int32) :
    InLoop changed name first (machine.round name body element).state := by
  apply Outcome.ensures_both_iff.mp
  rw [Machine.round]
  apply Outcome.Ensures.andThen (Outcome.ensures_both_iff.mpr (inLoop.assign (.int element)))
  intro machine inLoop
  have closed : machine.Frame changed []
      (machine.inScope fun machine => Stmt.execAll machine body).state :=
    inScope_frame (block machine.enter)
  have frame := closed.mono (List.Subset.refl changed) (List.nil_subset [name])
  apply Outcome.ensures_both_iff.mpr
  exact {
    new := inLoop.new
    bound := frame.env.innermost.kept name inLoop.bound
    frame := inLoop.frame.trans frame }

theorem loop_frame {body : Block} {inner : List Name}
    (block : ∀ machine : Machine, machine.Frame changed inner (Stmt.execAll machine body).state)
    (name : Name) (elements : List Int32) (machine : Machine) :
    machine.Frame changed [name] ((Work.loop name elements body).run machine).state := by
  apply Outcome.ensures_both_iff.mp
  rw [Work.run]
  apply Outcome.Ensures.andThen (declare_inLoop name (.int 0) machine)
  intro inside inLoop
  have rounds : (Outcome.forEach (Machine.round name body) elements inside).Ensures
      (InLoop changed name machine) fun _ => InLoop changed name machine :=
    Outcome.ensures_forEach elements
      (fun element _ _ inLoop => Outcome.ensures_both_iff.mpr (inLoop.round block element)) inLoop
  exact rounds.mono (fun _ => InLoop.frame) fun _ _ => InLoop.frame

end Machine

/-! ## Statements -/

namespace Stmt

mutual

/-- The targets of the assignments inside a statement. -/
def assigned : Stmt → List Name
  | .declare _ _ | .print _ => []
  | .assign name _ => [name]
  | .ifThen _ body | .forEach _ _ body => assignedAll body
  | .ifElse _ body alternative => assignedAll body ++ assignedAll alternative

/-- The targets of the assignments inside a sequence. -/
def assignedAll : List Stmt → List Name
  | [] => []
  | stmt :: rest => assigned stmt ++ assignedAll rest

end

/-- The name that a statement declares in the scope that it stands in. -/
def declared : Stmt → List Name
  | .declare name _ => [name]
  | .assign _ _ | .print _ | .ifThen _ _ | .ifElse _ _ _ | .forEach _ _ _ => []

/-- The names that the statements of a sequence declare, those inside blocks apart. -/
def declaredAll (stmts : List Stmt) : List Name :=
  stmts.flatMap declared

mutual

/-- The frame of a statement. -/
theorem exec_frame (machine : Machine) (stmt : Stmt) :
    machine.Frame stmt.assigned stmt.declared (exec machine stmt).state := by
  apply Outcome.ensures_both_iff.mp
  cases stmt with
  | declare name value =>
      rw [exec]
      apply Outcome.ensures_withValue (fun _ _ => .refl machine)
      intro value _
      exact Outcome.ensures_both_iff.mpr (Machine.declare_frame List.mem_cons_self value machine)
  | assign name value =>
      rw [exec]
      apply Outcome.ensures_withValue (fun _ _ => .refl machine)
      intro value _
      exact Outcome.ensures_both_iff.mpr (Machine.assign_frame List.mem_cons_self value machine)
  | print value =>
      rw [exec]
      apply Outcome.ensures_withValue (fun _ _ => .refl machine)
      intro value _
      exact Outcome.ensures_both_iff.mpr (Machine.print_frame value machine)
  | ifThen condition body =>
      rw [exec]
      apply Outcome.ensures_withValue (fun _ _ => .refl machine)
      intro truth _
      apply Outcome.ensures_both_iff.mpr
      cases truth with
      | false => exact .refl machine
      | true => exact Machine.inScope_frame (execAll_frame machine.enter body)
  | ifElse condition body alternative =>
      rw [exec]
      apply Outcome.ensures_withValue (fun _ _ => .refl machine)
      intro truth _
      apply Outcome.ensures_both_iff.mpr
      cases truth with
      | false =>
          exact (Machine.inScope_frame (execAll_frame machine.enter alternative)).mono
            (List.subset_append_right _ _) (List.Subset.refl _)
      | true =>
          exact (Machine.inScope_frame (execAll_frame machine.enter body)).mono
            (List.subset_append_left _ _) (List.Subset.refl _)
  | forEach name elements body =>
      rw [exec_forEach]
      apply Outcome.ensures_withValue (fun _ _ => .refl machine)
      intro elements _
      apply Outcome.ensures_both_iff.mpr
      exact Machine.inScope_frame
        (Machine.loop_frame (fun machine => execAll_frame machine body) name elements machine.enter)

/-- The frame of a sequence. -/
theorem execAll_frame (machine : Machine) (stmts : List Stmt) :
    machine.Frame (assignedAll stmts) (declaredAll stmts) (execAll machine stmts).state := by
  apply Outcome.ensures_both_iff.mp
  cases stmts with
  | nil => exact .refl machine
  | cons stmt rest =>
      rw [execAll]
      have first := (exec_frame machine stmt).mono (List.subset_append_left _ (assignedAll rest))
        (List.subset_append_left _ (declaredAll rest))
      apply Outcome.Ensures.andThen (Outcome.ensures_both_iff.mpr first)
      intro middle first
      have last := (execAll_frame middle rest).mono (List.subset_append_right (assigned stmt) _)
        (List.subset_append_right (declared stmt) _)
      exact Outcome.ensures_both_iff.mpr (first.trans last)

end

/-- Declarations, assignments and prints, which hold no other statements. -/
def isSimple : Stmt → Bool
  | .declare _ _ | .assign _ _ | .print _ => true
  | .ifThen _ _ | .ifElse _ _ _ | .forEach _ _ _ => false

/-- The expression that a statement evaluates, before anything else. -/
def operand : Stmt → Expr
  | .declare _ value | .assign _ value | .print value => value
  | .ifThen condition _ | .ifElse condition _ _ => condition
  | .forEach _ elements _ => elements

/-- A simple statement does nothing if it fails. -/
theorem state_exec_of_failure {machine : Machine} {stmt : Stmt} (simple : stmt.isSimple)
    {error : EvalError} (failure : (exec machine stmt).error? = some error) :
    (exec machine stmt).state = machine := by
  have unchanged : (exec machine stmt).Ensures (fun _ => True) fun _ => (machine = ·) := by
    cases stmt with
    | declare name value | assign name value =>
        rw [exec]
        apply Outcome.ensures_withValue (fun _ _ => rfl)
        intro value _
        exact Outcome.ensures_withValue (fun _ _ => rfl) fun _ _ => trivial
    | print value =>
        rw [exec]
        exact Outcome.ensures_withValue (fun _ _ => rfl) fun _ _ => trivial
    | ifThen | ifElse | forEach => contradiction
  exact (unchanged.of_failure failure).symm

/-- A statement whose expression fails does nothing else. -/
theorem exec_of_eval_error {machine : Machine} {stmt : Stmt} {error : EvalError}
    (failure : stmt.operand.eval machine.env = .error error) :
    exec machine stmt = .failed error machine := by
  cases stmt with
  | declare | assign | print | ifThen | ifElse | forEach =>
      rw [operand] at failure
      rw [exec, failure]
      rfl

end Stmt

/-- A scope that a run opened has an enclosing one where it is closed. -/
theorem Task.Opens.leave?_eq {task inner : Task} (opens : task.Opens inner) :
    inner.run.state.env.leave? = some inner.run.state.env.leave := by
  have sequence (machine : Machine) (block : Block) :=
    (Stmt.execAll_frame machine.enter block).env.leave?_eq
  cases opens with
  | ifThen | ifElse | round => exact sequence _ _
  | @forEach machine name _ elements body =>
      have block (machine : Machine) := Stmt.execAll_frame machine body
      exact (Machine.loop_frame block name elements machine.enter).env.leave?_eq

/-- The frame of statements, blocks and programs, whether they end or fail: the scopes stay
open, the outer ones with the names that they have, and the innermost one gains only names
that are declared in it; values change by assignments only, and printed text stays. Every
scope that is closed on the way has an enclosing one. Where a simple statement or the
expression of any statement fails, nothing has changed. -/
theorem execution_frame (machine : Machine) :
    (∀ stmt : Stmt, machine.Frame stmt.assigned stmt.declared (Stmt.exec machine stmt).state) ∧
    (∀ block : Block, machine.Frame (Stmt.assignedAll block) []
      (machine.inScope fun machine => Stmt.execAll machine block).state) ∧
    (∀ program : Program, machine.Frame (Stmt.assignedAll program) (Stmt.declaredAll program)
      (Stmt.execAll machine program).state) ∧
    (∀ (changed new : List Name) (after : Machine), machine.Frame changed new after →
      after.env.depth = machine.env.depth ∧ ∃ more, after.printed = machine.printed ++ more) ∧
    (∀ task inner : Task, task.Opens inner →
      (∃ rest, task.run = (inner.run.mapState Machine.leave).andThen rest) ∧
        inner.run.state.env.leave? = some inner.run.state.env.leave) ∧
    (∀ (stmt : Stmt) (error : EvalError), stmt.isSimple →
      (Stmt.exec machine stmt).error? = some error → (Stmt.exec machine stmt).state = machine) ∧
    ∀ (stmt : Stmt) (error : EvalError), stmt.operand.eval machine.env = .error error →
      Stmt.exec machine stmt = .failed error machine := by
  refine ⟨?_, ?_, ?_, ?_, ?_, ?_, ?_⟩
  · exact Stmt.exec_frame machine
  · intro block
    exact Machine.inScope_frame (Stmt.execAll_frame machine.enter block)
  · exact Stmt.execAll_frame machine
  · intro changed new after frame
    exact ⟨frame.env.depth_eq, frame.printed⟩
  · intro task inner opens
    exact ⟨opens.run_eq, opens.leave?_eq⟩
  · intro stmt error simple failure
    exact Stmt.state_exec_of_failure simple failure
  · intro stmt error failure
    exact Stmt.exec_of_eval_error failure

/-- A loop that fails in its second round, inside a branch: what it assigned and printed
before stays, and the variable that is called like the loop variable keeps its value. A second
declaration of a name and a look-up of an unknown one change nothing. -/
theorem execution_frame_of_loop :
    ∃ (machine : Machine) (loop : Stmt) (after : Machine),
      (Stmt.exec machine loop).state = after ∧
      (Stmt.exec machine loop).error? = some (.indexOutOfBounds 0 0) ∧
      after.env.find? "y" = some (.int 3) ∧ after.output.size = 1 ∧
      after.env.innermost.lookup "x" = machine.env.innermost.lookup "x" ∧
      after.env.depth = machine.env.depth ∧ (∃ more, after.printed = machine.printed ++ more) ∧
      (∃ inner : Task, Task.Opens ⟨.sequence [loop], machine⟩ inner ∧
        inner.run.state.env.leave? = some inner.run.state.env.leave) ∧
      (Stmt.exec machine (.declare "x" (.int 1))).state = machine ∧
      Stmt.exec machine (.print (.var "z")) = .failed (.binding (.undeclared "z")) machine := by
  let machine : Machine := ⟨⟨[("x", .int 7), ("y", .int 1)], []⟩, #[]⟩
  let body : Block := [.assign "y" (.binary .add (.var "y") (.int 1)),
    .ifThen (.bool true) [.print (.oneHot (.var "x") (.int 0))]]
  let loop : Stmt := .forEach "x" (.oneHot (.int 2) (.int 0)) body
  rcases execution_frame machine with ⟨stmts, _, _, seen, closed, simple, operand⟩
  have opens : Task.Opens ⟨.sequence [loop], machine⟩ ⟨.loop "x" [1, 0] body, machine.enter⟩ :=
    .forEach (by decide)
  refine ⟨machine, loop, _, rfl, by decide, by decide, by decide, ?_, ?_, ?_, ?_, ?_, ?_⟩
  · exact (stmts loop).env.innermost.payload "x" (by decide) (by decide)
  · exact (seen _ _ _ (stmts loop)).1
  · exact (seen _ _ _ (stmts loop)).2
  · exact ⟨_, opens, (closed _ _ opens).2⟩
  · exact simple (.declare "x" (.int 1)) (.binding (.alreadyDeclared "x")) (by decide) (by decide)
  · exact operand (.print (.var "z")) _ (by decide)

end VectorLang
