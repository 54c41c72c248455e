import VectorLang.Proofs.Soundness
import VectorLang.Session

/-!
# Soundness of sessions

A session takes programs one after the other and runs those that pass the check. A
check or a run may fail midway and then leaves behind what was declared before. From
there on a name may have a type and no value, but every value still has the type of
its name. So a later run may miss a value, and does nothing worse.
-/

namespace VectorLang

namespace Env

variable {types : Env Ty} {values : Env Value}

/-- At top level an error only makes the values incomplete. -/
theorem Covers.agrees_of_lone (covers : types.Covers values) (lone : types.outer = []) :
    Agrees False types values := by
  rcases types with ⟨types, outerTypes⟩
  rcases values with ⟨values, outerValues⟩
  cases lone
  cases covers with
  | base scope => exact .base scope
  | nested scope outer => cases outer

end Env

namespace Session

variable {complete : Prop} {session : Session}

/-- Check a program and, if it passes, run it. -/
def submit (session : Session) (program : Program) : Outcome Fault Session :=
  let checked := session.check program
  match checked.error? with
  | some error => .failed (.typing error) checked.state
  | none =>
      let ran := checked.state.run program
      ⟨ran.error?.map .runtime, ran.state⟩

/-- Submit programs one after the other, whatever becomes of each. The list holds the
fault of each of them, if there was one. -/
def faults (session : Session) : List Program → List (Option Fault)
  | [] => []
  | program :: rest =>
      (session.submit program).error? :: (session.submit program).state.faults rest

theorem submit_of_rejected {program : Program} {error : TypeError}
    (rejected : (Stmt.checkAll session.types program).error? = some error) :
    session.submit program =
      .failed (.typing error)
        ⟨(Stmt.checkAll session.types program).state, session.machine⟩ := by
  simp [submit, check, rejected]

theorem submit_of_accepted {program : Program}
    (accepted : (Stmt.checkAll session.types program).error? = none) :
    session.submit program =
      ⟨(Stmt.execAll session.machine program).error?.map .runtime,
        (Stmt.checkAll session.types program).state,
        (Stmt.execAll session.machine program).state⟩ := by
  simp [submit, check, run, accepted]

/-- Between two programs only the scopes at top level are open, and they agree. -/
structure Coherent (complete : Prop) (session : Session) : Prop where
  lone : session.types.outer = []
  agrees : Env.Agrees complete session.types session.machine.env

theorem start_coherent : start.Coherent True :=
  ⟨rfl, .empty True⟩

/-- Of the faults in a session, those of a run are tolerated. -/
def Foreseen (complete : Prop) (fault : Fault) : Prop :=
  ∀ error, fault = .runtime error → error.Tolerated complete

/-- The step of a session: a success keeps complete bindings complete, and a fault
leaves bindings that are coherent, if incomplete. -/
theorem submit_coherent (coherent : session.Coherent complete) (program : Program) :
    (session.submit program).Ensures (Coherent complete) fun fault after =>
      Foreseen complete fault ∧ after.Coherent False := by
  rcases coherent with ⟨lone, agrees⟩
  have grows := Stmt.checkAll_grows session.types program
  have loneAfter := grows.outer.trans lone
  cases checked : (Stmt.checkAll session.types program).error? with
  | some error =>
      rw [submit_of_rejected checked, Outcome.ensures_failed]
      exact ⟨by simp [Foreseen], loneAfter, (agrees.covers.grow grows).agrees_of_lone loneAfter⟩
  | none =>
      have sound := Stmt.execAll_sound agrees program checked
      rw [submit_of_accepted checked]
      cases ran : (Stmt.execAll session.machine program).error? with
      | none => exact ⟨loneAfter, sound.of_success ran⟩
      | some error =>
          rcases sound.of_failure ran with ⟨tolerated, covers⟩
          refine ⟨?_, loneAfter, covers.agrees_of_lone loneAfter⟩
          intro _ same
          cases same
          exact tolerated

/-- Some program before the one at `index` met a fault. -/
def FaultBefore (session : Session) (programs : List Program) (index : Nat) : Prop :=
  ∃ earlier fault, earlier < index ∧ (session.faults programs)[earlier]? = some (some fault)

/-- The run of a session: bindings stay complete up to the first fault. -/
theorem faults_tolerated (coherent : session.Coherent complete) {programs : List Program}
    {index : Nat} {error : EvalError}
    (failed : (session.faults programs)[index]? = some (some (.runtime error))) :
    error.Tolerated (complete ∧ ¬session.FaultBefore programs index) := by
  induction programs generalizing session complete index with
  | nil => simp [faults] at failed
  | cons program rest ih =>
      have step := submit_coherent coherent program
      cases index with
      | zero =>
          have failed : (session.submit program).error? = some (.runtime error) := by
            simpa [faults] using failed
          have tolerated := (step.of_failure failed).1 error rfl
          exact tolerated.mono fun whole => whole.1
      | succ index =>
          have failed : ((session.submit program).state.faults rest)[index]? =
              some (some (.runtime error)) := by
            simpa [faults] using failed
          cases head : (session.submit program).error? with
          | none =>
              apply (ih (step.of_success head) failed).mono
              intro ⟨full, spotless⟩
              refine ⟨full, fun ⟨earlier, fault, before, found⟩ => spotless ?_⟩
              exact ⟨earlier + 1, fault, Nat.succ_lt_succ before, found⟩
          | some fault =>
              apply (ih (step.of_failure head).2 failed).mono
              intro ⟨_, spotless⟩
              refine (spotless ⟨0, fault, Nat.zero_lt_succ index, ?_⟩).elim
              simp [faults, head]

/-- In a session that starts without declarations no run meets a value of a wrong kind
or a name declared twice, and none misses a name unless something failed before. -/
theorem session_soundness (programs : List Program) (index : Nat) (error : EvalError)
    (failed : (start.faults programs)[index]? = some (some (.runtime error))) :
    (∀ expected found, error ≠ .mismatch expected found) ∧
    (∀ name, error ≠ .binding (.alreadyDeclared name)) ∧
    ∀ name, error = .binding (.undeclared name) →
      ∃ earlier fault, earlier < index ∧
        (start.faults programs)[earlier]? = some (some fault) := by
  have tolerated := faults_tolerated start_coherent failed
  refine ⟨?_, ?_, ?_⟩
  · intro expected found equal
    subst equal
    exact EvalError.not_tolerated_mismatch expected found tolerated
  · intro name equal
    subst equal
    exact EvalError.not_tolerated_alreadyDeclared name tolerated
  · intro name equal
    subst equal
    have incomplete := (EvalError.tolerated_undeclared_iff name).mp tolerated
    exact Classical.byContradiction fun spotless => incomplete ⟨trivial, spotless⟩

/-- The first program fails its check behind a declaration, so the second one passes
and misses the value. -/
theorem session_soundness_after_fault :
    (start.faults [[.declare "a" (.int 1), .print (.var "b")], [.print (.var "a")]])[1]? =
        some (some (.runtime (.binding (.undeclared "a")))) ∧
      ∃ earlier fault, earlier < 1 ∧
        (start.faults [[.declare "a" (.int 1), .print (.var "b")],
          [.print (.var "a")]])[earlier]? = some (some fault) := by
  have failed : (start.faults [[.declare "a" (.int 1), .print (.var "b")],
      [.print (.var "a")]])[1]? = some (some (.runtime (.binding (.undeclared "a")))) := by
    decide
  exact ⟨failed, (session_soundness _ 1 _ failed).2.2 "a" rfl⟩

end Session

end VectorLang
