import VectorLang.Evaluation
import VectorLang.Proofs.Env
import VectorLang.Ty

/-!
# Types and values that agree

Every value has one type. The scopes of a checked program hold types and those of a
running one hold values; they agree when each name has a value of its type. A base
scope may lack values: after an error in an earlier program of a session, a name has
a type there although nothing has given it a value. Nested scopes never lack one.
-/

namespace VectorLang

/-- The type of a value. -/
def Value.ty : Value → Ty
  | .int _ => .int
  | .bool _ => .bool
  | .pair first second => .pair first.ty second.ty
  | .vector _ => .vector

namespace Value

variable {value : Value}

theorem ty_eq_int_iff : value.ty = .int ↔ ∃ number, value = .int number := by
  cases value <;> simp [ty]

theorem ty_eq_bool_iff : value.ty = .bool ↔ ∃ truth, value = .bool truth := by
  cases value <;> simp [ty]

theorem ty_eq_vector_iff : value.ty = .vector ↔ ∃ elements, value = .vector elements := by
  cases value <;> simp [ty]

end Value

/-- A name has a value exactly if it has a type, and then of this type. Unless the
bindings are `complete`, the value may also be missing. -/
def Agree (complete : Prop) (ty? : Option Ty) (value? : Option Value) : Prop :=
  value?.map Value.ty = ty? ∨ ¬complete ∧ value? = none

namespace Agree

variable {complete : Prop} {ty : Ty} {ty? : Option Ty} {value : Value} {value? : Option Value}

theorem refl (complete : Prop) (value : Value) : Agree complete (some value.ty) (some value) :=
  .inl rfl

/-- What agrees in a stricter sense agrees. -/
theorem mono {strict : Prop} (agree : Agree strict ty? value?) (weaken : complete → strict) :
    Agree complete ty? value? :=
  agree.imp_right fun ⟨lacking, missing⟩ => ⟨fun held => lacking (weaken held), missing⟩

/-- A value is of the type that its name has. -/
theorem ty_eq (agree : Agree complete ty? (some value)) : ty? = some value.ty := by
  rcases agree with equal | ⟨_, missing⟩
  · exact equal.symm
  · contradiction

/-- A name without a type has no value. -/
theorem eq_none (agree : Agree complete none value?) : value? = none := by
  rcases agree with equal | ⟨_, missing⟩
  · exact Option.map_eq_none_iff.mp equal
  · exact missing

/-- A name with a type has a value of it, or is one of those that lack a value. -/
theorem exists_or_missing (agree : Agree complete (some ty) value?) :
    (∃ value, value? = some value ∧ value.ty = ty) ∨ ¬complete ∧ value? = none := by
  rcases agree with equal | missing
  · exact .inl (Option.map_eq_some_iff.mp equal)
  · exact .inr missing

/-- Complete bindings have the same names. -/
theorem map_eq (agree : Agree True ty? value?) : value?.map Value.ty = ty? :=
  agree.resolve_right fun ⟨lacking, _⟩ => lacking trivial

end Agree

namespace Scope

/-- The bindings of a scope agree name by name. -/
def Agrees (complete : Prop) (types : Scope Ty) (values : Scope Value) : Prop :=
  ∀ name, Agree complete (types.lookup name) (values.lookup name)

namespace Agrees

variable {complete : Prop} {types : Scope Ty} {values : Scope Value}

theorem nil (complete : Prop) : Agrees complete [] [] :=
  fun _ => .inl rfl

theorem mono {strict : Prop} (agrees : Agrees strict types values)
    (weaken : complete → strict) : Agrees complete types values :=
  fun name => (agrees name).mono weaken

theorem declare (agrees : Agrees complete types values) (name : Name) (value : Value) :
    Agrees complete ((name, value.ty) :: types) ((name, value) :: values) := by
  intro query
  by_cases same : query = name
  · subst same
    simpa using Agree.refl complete value
  · rw [lookup_cons_of_ne same, lookup_cons_of_ne same]
    exact agrees query

/-- Types that come in new demand no values where values may be missing. -/
theorem grow {after : Scope Ty} (agrees : Agrees False types values)
    (kept : ∀ name ty, types.lookup name = some ty → after.lookup name = some ty) :
    Agrees False after values := by
  intro name
  have agree := agrees name
  cases bound : values.lookup name with
  | none => exact .inr ⟨not_false, rfl⟩
  | some value =>
      rw [bound] at agree
      rw [kept name value.ty agree.ty_eq]
      exact .refl False value

/-- A value may be replaced by one of the same type. -/
theorem rebind (agrees : Agrees complete types values) {name : Name} {value : Value}
    (kept : ∀ old, values.lookup name = some old → old.ty = value.ty) :
    Agrees complete types (values.rebind name value) := by
  intro query
  rw [lookup_rebind]
  cases bound : values.lookup query with
  | none => simpa [bound] using agrees query
  | some old =>
      have typed := agrees query
      rw [bound] at typed
      rw [typed.ty_eq]
      by_cases same : query = name
      · subst same
        rw [kept old bound]
        simpa using Agree.refl complete value
      · simpa [same] using Agree.refl complete old

end Agrees

/-- The scopes of two chains agree pairwise: the last one as `base` says, all others
as `nested` says. -/
inductive ChainAgrees (nested base : Prop) : List (Scope Ty) → List (Scope Value) → Prop where
  | base {types : Scope Ty} {values : Scope Value} :
      types.Agrees base values → ChainAgrees nested base [types] [values]
  | nested {types : Scope Ty} {values : Scope Value} {outerTypes : List (Scope Ty)}
      {outerValues : List (Scope Value)} :
      types.Agrees nested values → ChainAgrees nested base outerTypes outerValues →
      ChainAgrees nested base (types :: outerTypes) (values :: outerValues)

namespace ChainAgrees

variable {nested base : Prop} {types : List (Scope Ty)} {values : List (Scope Value)}

theorem mono {strictNested strictBase : Prop}
    (agrees : ChainAgrees strictNested strictBase types values)
    (weakenNested : nested → strictNested) (weakenBase : base → strictBase) :
    ChainAgrees nested base types values := by
  induction agrees with
  | base scope => exact .base (scope.mono weakenBase)
  | nested scope _ ih => exact .nested (scope.mono weakenNested) ih

/-- Look-ups through complete nested scopes end in the same scope. -/
theorem findSome? (agrees : ChainAgrees True base types values) (name : Name) :
    Agree base (types.findSome? (·.lookup name)) (values.findSome? (·.lookup name)) := by
  induction agrees with
  | base scope => simpa [Option.or_none] using scope name
  | @nested types values outerTypes outerValues scope _ ih =>
      have equal := (scope name).map_eq
      cases bound : values.lookup name with
      | none => simpa [List.findSome?_cons, bound, ← equal] using ih
      | some value =>
          simpa [List.findSome?_cons, bound, ← equal] using Agree.refl base value

/-- The innermost value of a name may be replaced by one of the same type. -/
theorem rebindFirst (agrees : ChainAgrees True base types values) {name : Name} {value : Value}
    (kept : ∀ old, values.findSome? (·.lookup name) = some old → old.ty = value.ty) :
    ChainAgrees True base types (Scope.rebindFirst name value values) := by
  induction agrees with
  | @base types values scope =>
      cases bound : values.lookup name with
      | none => simpa [Scope.rebindFirst, bound] using ChainAgrees.base scope
      | some old =>
          simp only [Scope.rebindFirst, bound]
          exact .base (scope.rebind (by simpa using kept))
  | @nested types values outerTypes outerValues scope outer ih =>
      cases bound : values.lookup name with
      | none =>
          simp only [Scope.rebindFirst, bound]
          exact .nested scope (ih (by simpa [List.findSome?_cons, bound] using kept))
      | some old =>
          simp only [Scope.rebindFirst, bound]
          refine .nested (scope.rebind fun old' found => kept old' ?_) outer
          simp [found]

end ChainAgrees

end Scope

namespace Env

variable {complete : Prop} {types : Env Ty} {values : Env Value}

/-- Checked and running scopes agree; the base scope may lack values unless it is
`complete`. -/
def Agrees (complete : Prop) (types : Env Ty) (values : Env Value) : Prop :=
  Scope.ChainAgrees True complete types.scopes values.scopes

/-- All values are of the types that their names have. After an error any scope may
lack values. -/
def Covers (types : Env Ty) (values : Env Value) : Prop :=
  Scope.ChainAgrees False False types.scopes values.scopes

namespace Agrees

theorem empty (complete : Prop) : Agrees complete .empty .empty :=
  .base (.nil complete)

theorem covers (agrees : Agrees complete types values) : types.Covers values :=
  agrees.mono False.elim False.elim

theorem find? (agrees : Agrees complete types values) (name : Name) :
    Agree complete (types.find? name) (values.find? name) :=
  agrees.findSome? name

theorem enter (agrees : Agrees complete types values) :
    Agrees complete types.enter values.enter :=
  .nested (.nil True) agrees

end Agrees

/-- Closing a scope on both sides keeps what the chains agree on. -/
theorem chainAgrees_leave {nested base : Prop}
    (agrees : Scope.ChainAgrees nested base types.scopes values.scopes) :
    Scope.ChainAgrees nested base types.leave.scopes values.leave.scopes := by
  rcases types with ⟨types, outerTypes⟩
  rcases values with ⟨values, outerValues⟩
  cases agrees with
  | base scope => exact .base scope
  | nested _ outer =>
      cases outer with
      | base lone => exact .base lone
      | nested scope rest => exact .nested scope rest

theorem Agrees.leave (agrees : Agrees complete types values) :
    Agrees complete types.leave values.leave :=
  chainAgrees_leave agrees

theorem Covers.leave (covers : types.Covers values) : types.leave.Covers values.leave :=
  chainAgrees_leave covers

/-- New types leave the values that are there covered. -/
theorem Covers.grow {after : Env Ty} (covers : types.Covers values) (grows : types.Grows after) :
    after.Covers values := by
  rcases types with ⟨types, outerTypes⟩
  rcases values with ⟨values, outerValues⟩
  rcases after with ⟨after, outerAfter⟩
  rcases grows with ⟨rfl, kept⟩
  cases covers with
  | base scope => exact .base (scope.grow kept)
  | nested scope outer => exact .nested (scope.grow kept) outer

/-- A name that is new among the types of the innermost scope is new among its
values, and may be declared on both sides. -/
theorem Agrees.declare (agrees : Agrees complete types values) {name : Name}
    (new : types.innermost.lookup name = none) (value : Value) :
    values.innermost.lookup name = none ∧
      Agrees complete ⟨(name, value.ty) :: types.innermost, types.outer⟩
        ⟨(name, value) :: values.innermost, values.outer⟩ := by
  rcases types with ⟨types, outerTypes⟩
  rcases values with ⟨values, outerValues⟩
  cases agrees with
  | base scope =>
      have agree := scope name
      rw [new] at agree
      exact ⟨agree.eq_none, .base (scope.declare name value)⟩
  | nested scope outer =>
      have agree := scope name
      rw [new] at agree
      exact ⟨agree.eq_none, .nested (scope.declare name value) outer⟩

/-- The innermost scope is complete if the base scope is. -/
theorem Agrees.innermost (agrees : Agrees True types values) :
    Scope.Agrees True types.innermost values.innermost := by
  rcases types with ⟨types, outerTypes⟩
  rcases values with ⟨values, outerValues⟩
  cases agrees with
  | base scope => exact scope
  | nested scope outer => exact scope

/-- Where there is one scope of types, there is one scope of values. -/
theorem Agrees.of_lone (agrees : Agrees complete types values) (lone : types.outer = []) :
    values.outer = [] ∧ Scope.Agrees complete types.innermost values.innermost := by
  rcases types with ⟨types, outerTypes⟩
  rcases values with ⟨values, outerValues⟩
  cases lone
  cases agrees with
  | base scope => exact ⟨rfl, scope⟩
  | nested scope outer => cases outer

theorem Agrees.rebind (agrees : Agrees complete types values) {name : Name} {value : Value}
    (typed : types.find? name = some value.ty) :
    Agrees complete types (values.rebind name value) := by
  rw [Agrees, scopes_rebind]
  apply Scope.ChainAgrees.rebindFirst agrees
  intro old found
  have agree := agrees.find? name
  rw [typed, Env.find?, found] at agree
  exact (Option.some.inj agree.ty_eq).symm

end Env

end VectorLang
