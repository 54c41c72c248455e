import VectorLang.Env
import VectorLang.Proofs.Outcome

/-!
# Laws of scopes

What each operation on scopes does to later look-ups. A statement about programs
rests on these laws only and does not look inside a scope.
-/

namespace VectorLang

variable {α β : Type}

namespace Scope

theorem lookup_cons_of_ne {name query : Name} (different : query ≠ name) (payload : α)
    (scope : Scope α) : List.lookup query ((name, payload) :: scope) = scope.lookup query := by
  simp [List.lookup_cons, beq_false_of_ne different]

/-- Overwriting a payload binds no new name. -/
theorem lookup_rebind (name query : Name) (payload : α) (scope : Scope α) :
    (scope.rebind name payload).lookup query =
      (scope.lookup query).map fun old => if query = name then payload else old := by
  induction scope with
  | nil => rfl
  | cons binding rest ih =>
      rcases binding with ⟨bound, old⟩
      rw [rebind]
      by_cases here : bound = name
      · subst here
        by_cases found : query = bound
        · simp [found]
        · simp [List.lookup_cons, beq_false_of_ne found, found]
      · rw [if_neg here, List.lookup_cons, List.lookup_cons, ih]
        by_cases found : query = bound
        · simp [found, here]
        · simp [beq_false_of_ne found]

/-- Overwriting a payload by itself changes nothing. -/
theorem rebind_eq_self {name : Name} {payload : α} {scope : Scope α}
    (bound : scope.lookup name = some payload) : scope.rebind name payload = scope := by
  induction scope with
  | nil => rfl
  | cons binding rest ih =>
      rcases binding with ⟨key, old⟩
      rw [rebind]
      by_cases here : key = name
      · subst here
        have same : old = payload := by simpa using bound
        rw [if_pos rfl, same]
      · rw [lookup_cons_of_ne (Ne.symm here)] at bound
        rw [if_neg here, ih bound]

/-- Change every payload. -/
def mapPayloads (change : α → β) (scope : Scope α) : Scope β :=
  List.map (fun binding => (binding.1, change binding.2)) scope

theorem lookup_mapPayloads (change : α → β) (scope : Scope α) (name : Name) :
    (scope.mapPayloads change).lookup name = (scope.lookup name).map change := by
  induction scope with
  | nil => rfl
  | cons binding rest ih =>
      rw [mapPayloads, List.map_cons, List.lookup_cons, List.lookup_cons]
      cases name == binding.1
      · exact ih
      · rfl

/-- The bindings behind an overwriting are the old ones and the new one. -/
theorem mem_rebind {name : Name} {payload : α} {scope : Scope α} {binding : Name × α}
    (member : binding ∈ scope.rebind name payload) :
    binding ∈ scope ∨ binding = (name, payload) := by
  induction scope with
  | nil => exact .inl member
  | cons first rest ih =>
      rcases first with ⟨bound, old⟩
      rw [rebind] at member
      split at member
      case isTrue here =>
        subst here
        rcases List.mem_cons.mp member with new | behind
        · exact .inr new
        · exact .inl (List.mem_cons_of_mem _ behind)
      case isFalse =>
        rcases List.mem_cons.mp member with front | behind
        · exact .inl (front ▸ List.mem_cons_self)
        · exact (ih behind).imp_left (List.mem_cons_of_mem _)

theorem mem_of_lookup {name : Name} {payload : α} {scope : Scope α}
    (bound : scope.lookup name = some payload) : (name, payload) ∈ scope := by
  rcases List.lookup_eq_some_iff.mp bound with ⟨before, after, rfl, _⟩
  simp

/-- The same of the first scope that binds the name. -/
theorem rebindFirst_eq_self {name : Name} {payload : α} {scopes : List (Scope α)}
    (found : scopes.findSome? (·.lookup name) = some payload) :
    rebindFirst name payload scopes = scopes := by
  induction scopes with
  | nil => rfl
  | cons scope outer ih =>
      rw [rebindFirst]
      cases bound : scope.lookup name with
      | none =>
          rw [List.findSome?_cons, bound] at found
          exact congrArg (scope :: ·) (ih found)
      | some old =>
          rw [List.findSome?_cons, bound] at found
          cases found
          exact congrArg (· :: outer) (rebind_eq_self bound)

/-- Overwriting brings in one payload only. -/
theorem forall_rebindFirst {property : α → Prop} {name : Name} {payload : α}
    {scopes : List (Scope α)}
    (all : ∀ scope ∈ scopes, ∀ binding ∈ scope, property binding.2) (holds : property payload) :
    ∀ scope ∈ rebindFirst name payload scopes, ∀ binding ∈ scope, property binding.2 := by
  induction scopes with
  | nil => simp [rebindFirst]
  | cons scope outer ih =>
      rw [List.forall_mem_cons] at all
      rw [rebindFirst]
      split
      · refine List.forall_mem_cons.mpr ⟨?_, all.2⟩
        intro binding member
        rcases mem_rebind member with before | new
        · exact all.1 binding before
        · exact new ▸ holds
      · exact List.forall_mem_cons.mpr ⟨all.1, ih all.2⟩

end Scope

namespace Env

/-! ## The chain of scopes -/

/-- Both parts of an environment are overwritten as one chain. -/
theorem scopes_rebind (env : Env α) (name : Name) (payload : α) :
    (env.rebind name payload).scopes = Scope.rebindFirst name payload env.scopes := by
  simp only [rebind, scopes, Scope.rebindFirst]
  cases env.innermost.lookup name <;> rfl

/-- Closing a scope that has an enclosing one drops it from the chain. -/
theorem scopes_leave {env : Env α} (nested : env.outer ≠ []) :
    env.leave.scopes = env.outer := by
  rcases env with ⟨innermost, outer⟩
  cases outer with
  | nil => contradiction
  | cons scope outer => rfl

/-- A lone scope stays open. -/
theorem leave_of_lone {env : Env α} (lone : env.outer = []) : env.leave = env := by
  rcases env with ⟨innermost, outer⟩
  cases lone
  rfl

/-- Environments with the same chain of scopes are the same. -/
theorem ext_scopes {env other : Env α} (equal : env.scopes = other.scopes) : env = other := by
  rcases env with ⟨innermost, outer⟩
  rcases other with ⟨otherInnermost, otherOuter⟩
  simpa only [scopes, List.cons.injEq, mk.injEq] using equal

/-- The scope that encloses all others. -/
def base (env : Env α) : Scope α :=
  env.scopes.getLast (List.cons_ne_nil _ _)

theorem base_of_lone {env : Env α} (lone : env.outer = []) : env.base = env.innermost := by
  simp [base, scopes, lone]

theorem depth_eq_one_iff {env : Env α} : env.depth = 1 ↔ env.outer = [] := by
  simp [depth, scopes]

/-! ## Operations that may fail -/

/-- A look-up succeeds when some scope binds the name. -/
theorem lookup_eq_ok_iff {ε : Type} {wrap : NameError → ε} {env : Env α} {name : Name}
    {payload : α} :
    (env.lookup name).mapError wrap = .ok payload ↔ env.find? name = some payload := by
  cases found : env.find? name <;> simp [lookup, found]

/-- A look-up fails for one reason only. -/
theorem lookup_eq_error_iff {ε : Type} {wrap : NameError → ε} {env : Env α} {name : Name}
    {error : ε} :
    (env.lookup name).mapError wrap = .error error ↔
      env.find? name = none ∧ error = wrap (.undeclared name) := by
  cases found : env.find? name <;> simp [lookup, found, eq_comm]

/-- A declaration succeeds when the name is new in the innermost scope. -/
theorem declare_eq_ok_iff {ε : Type} {wrap : NameError → ε} {env after : Env α} {name : Name}
    {payload : α} :
    (env.declare name payload).mapError wrap = .ok after ↔
      env.innermost.lookup name = none ∧
        after = ⟨(name, payload) :: env.innermost, env.outer⟩ := by
  cases bound : List.lookup name env.innermost <;>
    simp [declare, bound, eq_comm]

/-- A declaration fails for one reason only. -/
theorem declare_eq_error_iff {ε : Type} {wrap : NameError → ε} {env : Env α} {name : Name}
    {payload : α} {error : ε} :
    (env.declare name payload).mapError wrap = .error error ↔
      env.innermost.lookup name ≠ none ∧ error = wrap (.alreadyDeclared name) := by
  cases bound : List.lookup name env.innermost <;>
    simp [declare, bound, eq_comm]

/-- An update succeeds when some scope binds the name. -/
theorem update_eq_ok_iff {ε : Type} {wrap : NameError → ε} {env : Env α} {name : Name}
    {payload : α} {replaced : α × Env α} :
    (env.update name payload).mapError wrap = .ok replaced ↔
      ∃ old, env.find? name = some old ∧ replaced = (old, env.rebind name payload) := by
  cases found : env.find? name <;> simp [update, found, eq_comm]

/-- An update fails for one reason only. -/
theorem update_eq_error_iff {ε : Type} {wrap : NameError → ε} {env : Env α} {name : Name}
    {payload : α} {error : ε} :
    (env.update name payload).mapError wrap = .error error ↔
      env.find? name = none ∧ error = wrap (.undeclared name) := by
  cases found : env.find? name <;> simp [update, found, eq_comm]

/-- An update with the payload that is there changes nothing. -/
theorem update_of_find? {ε : Type} {wrap : NameError → ε} {env : Env α} {name : Name}
    {payload : α} (found : env.find? name = some payload) :
    (env.update name payload).mapError wrap = .ok (payload, env) := by
  have unchanged : env.rebind name payload = env := by
    apply ext_scopes
    rw [scopes_rebind]
    exact Scope.rebindFirst_eq_self found
  rw [update_eq_ok_iff]
  exact ⟨payload, found, by rw [unchanged]⟩

/-! ## Changed payloads -/

/-- Change every payload, hidden ones included. -/
def mapPayloads (change : α → β) (env : Env α) : Env β :=
  ⟨env.innermost.mapPayloads change, env.outer.map (Scope.mapPayloads change)⟩

theorem find?_mapPayloads (change : α → β) (env : Env α) (name : Name) :
    (env.mapPayloads change).find? name = (env.find? name).map change := by
  have scopes : (env.mapPayloads change).scopes = env.scopes.map (Scope.mapPayloads change) := rfl
  rw [find?, find?, scopes, List.findSome?_map, List.map_findSome?]
  congr 1
  funext scope
  exact Scope.lookup_mapPayloads change scope name

theorem lookup_mapPayloads (change : α → β) (env : Env α) (name : Name) :
    (env.mapPayloads change).lookup name = translate id change (env.lookup name) := by
  rw [lookup, lookup, find?_mapPayloads]
  cases env.find? name <;> rfl

/-! ## Properties of all payloads -/

/-- Every payload satisfies `property`, hidden ones included. -/
def All (property : α → Prop) (env : Env α) : Prop :=
  ∀ scope ∈ env.scopes, ∀ binding ∈ scope, property binding.2

namespace All

variable {property : α → Prop} {env : Env α}

theorem empty : All property (empty : Env α) := by
  simp [All, scopes, Env.empty]

theorem enter (all : env.All property) : env.enter.All property := by
  simpa [All] using all

theorem leave (all : env.All property) : env.leave.All property := by
  by_cases lone : env.outer = []
  · rw [leave_of_lone lone]
    exact all
  · rw [All, scopes_leave lone]
    exact fun scope member => all scope (List.mem_cons_of_mem _ member)

theorem declare (all : env.All property) {name : Name} {payload : α} (holds : property payload) :
    All property ⟨(name, payload) :: env.innermost, env.outer⟩ := by
  simp only [All, scopes, List.forall_mem_cons] at all ⊢
  exact ⟨⟨holds, all.1⟩, all.2⟩

theorem find? (all : env.All property) {name : Name} {payload : α}
    (found : env.find? name = some payload) : property payload := by
  rcases List.exists_of_findSome?_eq_some found with ⟨scope, member, bound⟩
  exact all scope member _ (Scope.mem_of_lookup bound)

theorem rebind (all : env.All property) {name : Name} {payload : α} (holds : property payload) :
    (env.rebind name payload).All property := by
  rw [All, scopes_rebind]
  exact Scope.forall_rebindFirst all holds

end All

/-! ## Growth by declarations -/

/-- The environment `after` differs from `before` by declarations in the innermost
scope only. -/
structure Grows (before after : Env α) : Prop where
  outer : after.outer = before.outer
  kept : ∀ name payload, before.innermost.lookup name = some payload →
    after.innermost.lookup name = some payload

namespace Grows

theorem refl (env : Env α) : env.Grows env :=
  ⟨rfl, fun _ _ bound => bound⟩

theorem trans {first second third : Env α} (early : first.Grows second)
    (late : second.Grows third) : first.Grows third :=
  ⟨late.outer.trans early.outer, fun name payload bound =>
    late.kept name payload (early.kept name payload bound)⟩

/-- A new name hides no name of its scope. -/
theorem declare {env : Env α} {name : Name} (new : env.innermost.lookup name = none)
    (payload : α) : env.Grows ⟨(name, payload) :: env.innermost, env.outer⟩ := by
  refine ⟨rfl, ?_⟩
  intro query old bound
  have different : query ≠ name := by
    intro same
    subst same
    simp [new] at bound
  rw [Scope.lookup_cons_of_ne different]
  exact bound

/-- Whatever was declared in a scope is gone once the scope is closed. -/
theorem leave {env inner : Env α} (grows : env.enter.Grows inner) : inner.leave = env := by
  have nested : inner.outer ≠ [] := by
    rw [grows.outer]
    exact List.cons_ne_nil _ _
  apply ext_scopes
  rw [scopes_leave nested, grows.outer]
  rfl

end Grows

end Env

end VectorLang
