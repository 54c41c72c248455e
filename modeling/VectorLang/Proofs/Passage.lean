import Mathlib.Logic.Relation
import VectorLang.Proofs.Outcome
import VectorLang.Evaluation

/-!
# What a run passes through

A run is taken apart into tasks: the statements that are left of a sequence, and the rounds
that are left of a loop, each with the machine it starts in. A task goes on with another one
in the same scope, or it opens a scope for another one, behind which the scope is closed.
-/

namespace VectorLang

/-- Close the innermost scope. -/
abbrev Machine.leave (machine : Machine) : Machine :=
  { machine with env := machine.env.leave }

/-- Open a scope without bindings. -/
abbrev Machine.enter (machine : Machine) : Machine :=
  { machine with env := machine.env.enter }

/-- One round of a loop. -/
def Machine.round (name : Name) (body : Block) (element : Int32) (machine : Machine) :
    Outcome EvalError Machine :=
  (machine.assign name (.int element)).andThen fun machine =>
    machine.inScope fun machine => Stmt.execAll machine body

/-- What is left to do in one scope. -/
inductive Work where
  | sequence (stmts : List Stmt)
  /-- A loop whose variable is not declared yet. -/
  | loop (name : Name) (elements : List Int32) (body : Block)
  | rounds (name : Name) (elements : List Int32) (body : Block)
  deriving Repr

/-- Do all that is left. -/
def Work.run : Work → Machine → Outcome EvalError Machine
  | .sequence stmts, machine => Stmt.execAll machine stmts
  | .loop name elements body, machine =>
      (machine.declare name (.int 0)).andThen (Outcome.forEach (Machine.round name body) elements)
  | .rounds name elements body, machine =>
      Outcome.forEach (Machine.round name body) elements machine

/-- What is left to do, with the machine to start in. -/
structure Task where
  work : Work
  machine : Machine
  deriving Repr

namespace Task

/-- How the task ends, if nothing outside of it is done. -/
def run (task : Task) : Outcome EvalError Machine :=
  task.work.run task.machine

/-- A part of the task succeeds, and the second task is the rest of it. -/
inductive Continues : Task → Task → Prop where
  | stmt {machine after : Machine} {stmt : Stmt} {rest : List Stmt} :
      Stmt.exec machine stmt = .done after →
      Continues ⟨.sequence (stmt :: rest), machine⟩ ⟨.sequence rest, after⟩
  | declare {machine after : Machine} {name : Name} {elements : List Int32} {body : Block} :
      machine.declare name (.int 0) = .done after →
      Continues ⟨.loop name elements body, machine⟩ ⟨.rounds name elements body, after⟩
  | round {machine after : Machine} {name : Name} {element : Int32} {elements : List Int32}
      {body : Block} :
      machine.round name body element = .done after →
      Continues ⟨.rounds name (element :: elements) body, machine⟩
        ⟨.rounds name elements body, after⟩

/-- The task opens a scope for the second task, and closes the scope behind it. -/
inductive Opens : Task → Task → Prop where
  | ifThen {machine : Machine} {condition : Expr} {body : Block} {rest : List Stmt} :
      condition.eval machine.env = .ok (.bool true) →
      Opens ⟨.sequence (.ifThen condition body :: rest), machine⟩
        ⟨.sequence body, machine.enter⟩
  | ifElse {machine : Machine} {condition : Expr} {truth : Bool} {body alternative : Block}
      {rest : List Stmt} :
      condition.eval machine.env = .ok (.bool truth) →
      Opens ⟨.sequence (.ifElse condition body alternative :: rest), machine⟩
        ⟨.sequence (if truth then body else alternative), machine.enter⟩
  | forEach {machine : Machine} {name : Name} {value : Expr} {elements : List Int32}
      {body : Block} {rest : List Stmt} :
      value.eval machine.env = .ok (.vector elements) →
      Opens ⟨.sequence (.forEach name value body :: rest), machine⟩
        ⟨.loop name elements body, machine.enter⟩
  | round {machine after : Machine} {name : Name} {element : Int32} {elements : List Int32}
      {body : Block} :
      machine.assign name (.int element) = .done after →
      Opens ⟨.rounds name (element :: elements) body, machine⟩ ⟨.sequence body, after.enter⟩

/-- The run of the first task passes through the second one. -/
def Passes : Task → Task → Prop :=
  Relation.ReflTransGen fun task next => task.Continues next ∨ task.Opens next

/-- What every part of a task preserves holds wherever its run passes through. -/
theorem Passes.preserves {invariant : Machine → Prop} {task later : Task}
    (passes : task.Passes later)
    (step : ∀ task next : Task, task.Continues next ∨ task.Opens next →
      invariant task.machine → invariant next.machine)
    (start : invariant task.machine) : invariant later.machine := by
  induction passes with
  | refl => exact start
  | tail _ leads ih => exact step _ _ leads ih

end Task

/-- A loop is work in a scope of its own. -/
theorem Stmt.exec_forEach (machine : Machine) (name : Name) (elements : Expr) (body : Block) :
    exec machine (.forEach name elements body) =
      .withValue machine (elements.eval machine.env >>= Value.asVector) fun elements =>
        machine.inScope (Work.loop name elements body).run := by
  rw [exec]
  rfl

namespace Stmt

/-- One statement is a sequence. -/
theorem execAll_singleton (machine : Machine) (stmt : Stmt) :
    execAll machine [stmt] = exec machine stmt :=
  Outcome.andThen_done _

/-- Two sequences run one after the other. -/
theorem execAll_append (machine : Machine) (stmts more : List Stmt) :
    execAll machine (stmts ++ more) =
      (execAll machine stmts).andThen fun machine => execAll machine more := by
  induction stmts generalizing machine with
  | nil => rfl
  | cons stmt rest ih =>
      rw [List.cons_append, execAll, execAll, Outcome.andThen_assoc]
      simp only [ih]

end Stmt

/-- Behind a part that succeeds, a task ends as the rest of it does. -/
theorem Task.Continues.run_eq {task next : Task} (continues : task.Continues next) :
    task.run = next.run := by
  cases continues with
  | stmt success =>
      rw [run, Work.run, Stmt.execAll, success]
      rfl
  | declare success =>
      rw [run, Work.run, success]
      rfl
  | round success =>
      rw [run, Work.run, Outcome.forEach, success]
      rfl

/-- Behind a task that has a scope of its own, the scope is closed before anything else. -/
theorem Task.Opens.run_eq {task inner : Task} (opens : task.Opens inner) :
    ∃ rest, task.run = (inner.run.mapState Machine.leave).andThen rest := by
  cases opens with
  | @ifThen _ _ _ rest truth =>
      refine ⟨fun machine => Stmt.execAll machine rest, ?_⟩
      rw [run, Work.run, Stmt.execAll, Stmt.exec, truth]
      rfl
  | @ifElse _ _ truth _ _ rest evaluated =>
      refine ⟨fun machine => Stmt.execAll machine rest, ?_⟩
      rw [run, Work.run, Stmt.execAll, Stmt.exec, evaluated]
      cases truth <;> rfl
  | @forEach _ _ _ _ _ rest evaluated =>
      refine ⟨fun machine => Stmt.execAll machine rest, ?_⟩
      rw [run, Work.run, Stmt.execAll, Stmt.exec_forEach, evaluated]
      rfl
  | @round _ _ name _ elements body assigned =>
      refine ⟨Outcome.forEach (Machine.round name body) elements, ?_⟩
      rw [run, Work.run, Outcome.forEach, Machine.round, assigned]
      rfl

/-! ## Relations that hold across every step -/

/-- Across every step of a run the relation holds between the machines before and behind it;
a scope that is opened and closed again is one step. -/
structure Machine.Steady (relation : Machine → Machine → Prop) : Prop where
  refl (machine : Machine) : relation machine machine
  trans {first second third : Machine} :
    relation first second → relation second third → relation first third
  declare (machine : Machine) (name : Name) (value : Value) :
    relation machine (machine.declare name value).state
  assign (machine : Machine) (name : Name) (value : Value) :
    relation machine (machine.assign name value).state
  print (machine : Machine) (value : Value) : relation machine (machine.print value).state
  leave {machine inner : Machine} : relation machine.enter inner → relation machine inner.leave

namespace Machine.Steady

variable {relation : Machine → Machine → Prop}

/-- Two steps are one. -/
theorem andThen (steady : Steady relation) {machine : Machine}
    {outcome : Outcome EvalError Machine} {next : Machine → Outcome EvalError Machine}
    (first : relation machine outcome.state)
    (second : ∀ middle, relation middle (next middle).state) :
    relation machine (outcome.andThen next).state := by
  apply Outcome.ensures_both_iff.mp
  apply Outcome.Ensures.andThen (Outcome.ensures_both_iff.mpr first)
  intro middle kept
  exact Outcome.ensures_both_iff.mpr (steady.trans kept (second middle))

/-- A loop is any number of its rounds, in the scope of its variable. -/
theorem loop (steady : Steady relation) {body : Block}
    (block : ∀ machine : Machine, relation machine (Stmt.execAll machine body).state)
    (name : Name) (elements : List Int32) (machine : Machine) :
    relation machine ((Work.loop name elements body).run machine).state := by
  rw [Work.run]
  refine steady.andThen (steady.declare machine name (.int 0)) fun inside => ?_
  have rounds : (Outcome.forEach (Machine.round name body) elements inside).Ensures
      (relation inside) fun _ => relation inside := by
    refine Outcome.ensures_forEach elements (fun element _ before kept => ?_) (steady.refl inside)
    apply Outcome.ensures_both_iff.mpr
    have round : relation before (before.round name body element).state :=
      steady.andThen (steady.assign before name (.int element)) fun after =>
        steady.leave (block after.enter)
    exact steady.trans kept round
  exact Outcome.ensures_both_iff.mp rounds

end Machine.Steady

namespace Stmt

variable {relation : Machine → Machine → Prop}

mutual

/-- What holds across every step holds across a statement, whether it ends or fails. -/
theorem exec_steady (steady : Machine.Steady relation) (machine : Machine) (stmt : Stmt) :
    relation machine (exec machine stmt).state := by
  apply Outcome.ensures_both_iff.mp
  cases stmt with
  | declare name value =>
      rw [exec]
      apply Outcome.ensures_withValue (fun _ _ => steady.refl machine)
      intro value _
      exact Outcome.ensures_both_iff.mpr (steady.declare machine name value)
  | assign name value =>
      rw [exec]
      apply Outcome.ensures_withValue (fun _ _ => steady.refl machine)
      intro value _
      exact Outcome.ensures_both_iff.mpr (steady.assign machine name value)
  | print value =>
      rw [exec]
      apply Outcome.ensures_withValue (fun _ _ => steady.refl machine)
      intro value _
      exact Outcome.ensures_both_iff.mpr (steady.print machine value)
  | ifThen condition body =>
      rw [exec]
      apply Outcome.ensures_withValue (fun _ _ => steady.refl machine)
      intro truth _
      apply Outcome.ensures_both_iff.mpr
      cases truth with
      | false => exact steady.refl machine
      | true => exact steady.leave (execAll_steady steady machine.enter body)
  | ifElse condition body alternative =>
      rw [exec]
      apply Outcome.ensures_withValue (fun _ _ => steady.refl machine)
      intro truth _
      apply Outcome.ensures_both_iff.mpr
      cases truth with
      | false => exact steady.leave (execAll_steady steady machine.enter alternative)
      | true => exact steady.leave (execAll_steady steady machine.enter body)
  | forEach name elements body =>
      rw [exec_forEach]
      apply Outcome.ensures_withValue (fun _ _ => steady.refl machine)
      intro elements _
      apply Outcome.ensures_both_iff.mpr
      have block (machine : Machine) := execAll_steady steady machine body
      exact steady.leave (steady.loop block name elements machine.enter)

/-- The same of a sequence. -/
theorem execAll_steady (steady : Machine.Steady relation) (machine : Machine)
    (stmts : List Stmt) : relation machine (execAll machine stmts).state := by
  cases stmts with
  | nil => exact steady.refl machine
  | cons stmt rest =>
      rw [execAll]
      exact steady.andThen (exec_steady steady machine stmt) fun middle =>
        execAll_steady steady middle rest

end

end Stmt

end VectorLang
