import VectorLang.Name

/-!
# Lexical scopes

An environment is a chain of scopes that binds names to payloads: types while a
program is checked, values while it runs. Declarations only touch the innermost
scope. Updates and look-ups search outward and act on the first scope that binds
the name.
-/

namespace VectorLang

/-- The bindings of one scope, the latest declaration first. -/
abbrev Scope (α : Type) := List (Name × α)

variable {α : Type}

namespace Scope

/-- Overwrite the payload of `name`; other bindings stay as they are. -/
def rebind (name : Name) (payload : α) : Scope α → Scope α
  | [] => []
  | (bound, old) :: rest =>
      if bound = name then (bound, payload) :: rest
      else (bound, old) :: rebind name payload rest

/-- Overwrite the payload of `name` in the first scope of a chain that binds it. -/
def rebindFirst (name : Name) (payload : α) : List (Scope α) → List (Scope α)
  | [] => []
  | scope :: outer =>
      match scope.lookup name with
      | some _ => scope.rebind name payload :: outer
      | none => scope :: rebindFirst name payload outer

end Scope

/-- A chain of scopes. The innermost one is held apart, so that there is always
a scope to declare into. -/
structure Env (α : Type) where
  /-- The scope that declarations go to. -/
  innermost : Scope α
  /-- The enclosing scopes, from the inside out. -/
  outer : List (Scope α)
  deriving DecidableEq, Repr

namespace Env

/-- A single scope without bindings. -/
def empty : Env α := ⟨[], []⟩

/-- All scopes, from the inside out. -/
def scopes (env : Env α) : List (Scope α) :=
  env.innermost :: env.outer

/-- The number of scopes, at least one. -/
def depth (env : Env α) : Nat :=
  env.scopes.length

/-- Open a scope without bindings inside the present one. -/
def enter (env : Env α) : Env α :=
  ⟨[], env.scopes⟩

/-- Close the innermost scope, unless it is the only one. -/
def leave? (env : Env α) : Option (Env α) :=
  match env.outer with
  | [] => none
  | scope :: outer => some ⟨scope, outer⟩

/-- Close the innermost scope; a lone scope stays open. -/
def leave (env : Env α) : Env α :=
  env.leave?.getD env

/-- The payload of the innermost binding of `name`. -/
def find? (env : Env α) (name : Name) : Option α :=
  env.scopes.findSome? (·.lookup name)

/-- The payload of the innermost binding of `name`, which has to exist. -/
def lookup (env : Env α) (name : Name) : Except NameError α :=
  match env.find? name with
  | some payload => .ok payload
  | none => .error (.undeclared name)

/-- Bind `name` in the innermost scope, where it has to be new. -/
def declare (env : Env α) (name : Name) (payload : α) : Except NameError (Env α) :=
  match env.innermost.lookup name with
  | some _ => .error (.alreadyDeclared name)
  | none => .ok { env with innermost := (name, payload) :: env.innermost }

/-- Overwrite the innermost binding of `name`, if there is one. -/
def rebind (env : Env α) (name : Name) (payload : α) : Env α :=
  match env.innermost.lookup name with
  | some _ => { env with innermost := env.innermost.rebind name payload }
  | none => { env with outer := Scope.rebindFirst name payload env.outer }

/-- Overwrite the innermost binding of `name`, which has to exist; the replaced
payload comes back with the new environment. -/
def update (env : Env α) (name : Name) (payload : α) : Except NameError (α × Env α) :=
  match env.find? name with
  | some old => .ok (old, env.rebind name payload)
  | none => .error (.undeclared name)

@[simp] theorem scopes_enter (env : Env α) : env.enter.scopes = [] :: env.scopes := rfl

@[simp] theorem depth_enter (env : Env α) : env.enter.depth = env.depth + 1 := rfl

/-- A scope just opened closes again without a trace. -/
@[simp] theorem leave_enter (env : Env α) : env.enter.leave = env := rfl

/-- A scope just opened hides nothing. -/
@[simp] theorem find?_enter (env : Env α) (name : Name) :
    env.enter.find? name = env.find? name := rfl

@[simp] theorem find?_empty (name : Name) : (empty : Env α).find? name = none := rfl

end Env

end VectorLang
