import Mathlib.Data.List.Infix
import VectorLang.Evaluation
import VectorLang.Proofs.Typing

/-!
# What the names of a program stand for

The declarations of a program are numbered in the order of its text. Which of them a name stands
for can be told from the text alone: an environment holds the number of each declaration that
has been made so far, the innermost one of which counts. A block sees what was declared before
it, and nothing behind a block sees what was declared inside.
-/

namespace VectorLang

/-! ## Names in expressions -/

namespace Expr

/-- The names in an expression. -/
def names : Expr → List Name
  | .int _ | .bool _ => []
  | .var name => [name]
  | .unary _ operand => operand.names
  | .binary _ left right => left.names ++ right.names
  | .oneHot length index => length.names ++ index.names

/-- Have other names in the places of the names. -/
def mapNames (change : Name → Name) : Expr → Expr
  | .int value => .int value
  | .bool value => .bool value
  | .var name => .var (change name)
  | .unary op operand => .unary op (operand.mapNames change)
  | .binary op left right => .binary op (left.mapNames change) (right.mapNames change)
  | .oneHot length index => .oneHot (length.mapNames change) (index.mapNames change)

variable {change : Name → Name}

theorem names_mapNames (change : Name → Name) (expr : Expr) :
    (expr.mapNames change).names = expr.names.map change := by
  induction expr with
  | int | bool | var => rfl
  | unary op operand ih => exact ih
  | binary op left right ihLeft ihRight =>
      rw [mapNames, names, names, ihLeft, ihRight, List.map_append]
  | oneHot length index ihLength ihIndex =>
      rw [mapNames, names, names, ihLength, ihIndex, List.map_append]

/-- The type of an expression, and its error, depend on what its names are found to be. -/
theorem typeIn_mapNames {types types' : Env Ty} (expr : Expr)
    (agree : ∀ name ∈ expr.names, types'.lookup (change name) = types.lookup name) :
    (expr.mapNames change).typeIn types' = expr.typeIn types := by
  induction expr with
  | int | bool => rfl
  | var name =>
      rw [names, List.forall_mem_singleton] at agree
      rw [mapNames, typeIn, typeIn, agree]
  | unary op operand ih =>
      rw [mapNames, typeIn, typeIn, ih agree]
  | binary op left right ihLeft ihRight =>
      rw [names, List.forall_mem_append] at agree
      rw [mapNames, typeIn, typeIn, ihLeft agree.1, ihRight agree.2]
  | oneHot length index ihLength ihIndex =>
      rw [names, List.forall_mem_append] at agree
      rw [mapNames, typeIn, typeIn, ihLength agree.1, ihIndex agree.2]

/-- The same of its value. -/
theorem eval_mapNames {values values' : Env Value} (expr : Expr)
    (agree : ∀ name ∈ expr.names, values'.lookup (change name) = values.lookup name) :
    (expr.mapNames change).eval values' = expr.eval values := by
  induction expr with
  | int | bool => rfl
  | var name =>
      rw [names, List.forall_mem_singleton] at agree
      rw [mapNames, eval, eval, agree]
  | unary op operand ih =>
      rw [mapNames, eval, eval, ih agree]
  | binary op left right ihLeft ihRight =>
      rw [names, List.forall_mem_append] at agree
      rw [mapNames, eval, eval, ihLeft agree.1, ihRight agree.2]
  | oneHot length index ihLength ihIndex =>
      rw [names, List.forall_mem_append] at agree
      rw [mapNames, eval, eval, ihLength agree.1, ihIndex agree.2]

end Expr

/-! ## Names in statements -/

namespace Stmt

mutual

/-- The names in a statement. -/
def names : Stmt → List Name
  | .declare name value | .assign name value => name :: value.names
  | .print value => value.names
  | .ifThen condition body => condition.names ++ namesAll body
  | .ifElse condition body alternative =>
      condition.names ++ (namesAll body ++ namesAll alternative)
  | .forEach name elements body => name :: (elements.names ++ namesAll body)

/-- The names in a sequence. -/
def namesAll : List Stmt → List Name
  | [] => []
  | stmt :: rest => names stmt ++ namesAll rest

end

mutual

/-- The names that a statement declares, those inside its blocks too, in the order of the
text. -/
def binders : Stmt → List Name
  | .declare name _ => [name]
  | .assign _ _ | .print _ => []
  | .ifThen _ body => bindersAll body
  | .ifElse _ body alternative => bindersAll body ++ bindersAll alternative
  | .forEach name _ body => name :: bindersAll body

/-- The names that a sequence declares. -/
def bindersAll : List Stmt → List Name
  | [] => []
  | stmt :: rest => binders stmt ++ bindersAll rest

end

end Stmt

/-! ## Uses and their declarations -/

/-- The uses of names in an expression, each with the number of its declaration, if it has
one. -/
def Expr.uses (sites : Env Nat) (expr : Expr) : List (Name × Option Nat) :=
  expr.names.map fun name => (name, sites.find? name)

namespace Stmt

/-- The declarations that are in scope behind a statement whose first one has the number
`first`. -/
def sitesAfter (sites : Env Nat) (first : Nat) : Stmt → Env Nat
  | .declare name _ => ⟨(name, first) :: sites.innermost, sites.outer⟩
  | .assign _ _ | .print _ | .ifThen _ _ | .ifElse _ _ _ | .forEach _ _ _ => sites

theorem outer_sitesAfter (sites : Env Nat) (first : Nat) (stmt : Stmt) :
    (stmt.sitesAfter sites first).outer = sites.outer := by
  cases stmt <;> rfl

mutual

/-- The uses and assignments in a statement whose first declaration has the number `first`. The
value of a declaration does not see the declaration. -/
def uses (sites : Env Nat) (first : Nat) : Stmt → List (Name × Option Nat)
  | .declare _ value | .print value => value.uses sites
  | .assign name value => (name, sites.find? name) :: value.uses sites
  | .ifThen condition body => condition.uses sites ++ usesAll sites.enter first body
  | .ifElse condition body alternative =>
      condition.uses sites ++ (usesAll sites.enter first body ++
        usesAll sites.enter (first + (bindersAll body).length) alternative)
  | .forEach name elements body =>
      elements.uses sites ++ usesAll (sites.loop name first).enter (first + 1) body

/-- The uses and assignments in a sequence. -/
def usesAll (sites : Env Nat) (first : Nat) : List Stmt → List (Name × Option Nat)
  | [] => []
  | stmt :: rest =>
      uses sites first stmt ++
        usesAll (sitesAfter sites first stmt) (first + (binders stmt).length) rest

end

end Stmt

/-! ## Uses have the names of their declarations -/

/-- The numbers that are found belong to declarations of the same name. -/
def Env.Resolves (declared : List Name) (sites : Env Nat) : Prop :=
  ∀ name site, sites.find? name = some site → declared[site]? = some name

/-- A use that has a declaration has its name. -/
def Named (declared : List Name) (use : Name × Option Nat) : Prop :=
  ∀ site, use.2 = some site → declared[site]? = some use.1

variable {declared : List Name} {sites : Env Nat}

theorem Env.Resolves.empty (declared : List Name) : Env.Resolves declared .empty := by
  simp [Resolves]

theorem Env.Resolves.enter (resolves : sites.Resolves declared) : sites.enter.Resolves declared :=
  resolves

theorem Env.Resolves.declare (resolves : sites.Resolves declared) {name : Name} {site : Nat}
    (declares : declared[site]? = some name) :
    Resolves declared ⟨(name, site) :: sites.innermost, sites.outer⟩ := by
  intro query number found
  by_cases here : query = name
  · subst here
    have same : site = number := by simpa [find?, scopes] using found
    exact same ▸ declares
  · apply resolves query number
    simpa only [find?, scopes, List.findSome?_cons, Scope.lookup_cons_of_ne here] using found

theorem Env.Resolves.loop (resolves : sites.Resolves declared) {name : Name} {site : Nat}
    (declares : declared[site]? = some name) : (sites.loop name site).Resolves declared :=
  resolves.enter.declare declares

theorem Expr.uses_named (resolves : sites.Resolves declared) (expr : Expr) :
    ∀ use ∈ expr.uses sites, Named declared use := by
  rw [uses, List.forall_mem_map]
  exact fun name _ => resolves name

/-- A list that stands somewhere falls into parts that stand there. -/
theorem isPrefix_drop_of_append {left right whole : List Name} {first : Nat}
    (stands : left ++ right <+: whole.drop first) :
    left <+: whole.drop first ∧ right <+: whole.drop (first + left.length) := by
  refine ⟨(List.prefix_append left right).trans stands, ?_⟩
  have shorter := stands.drop left.length
  rwa [List.drop_left, List.drop_drop] at shorter

theorem getElem?_of_cons_isPrefix_drop {name : Name} {rest whole : List Name} {first : Nat}
    (stands : name :: rest <+: whole.drop first) : whole[first]? = some name := by
  rcases stands with ⟨more, equal⟩
  rw [← List.head?_drop, ← equal]
  rfl

namespace Stmt

mutual

/-- The declarations of a statement stand in the list from `first` on, and its uses find them
there. -/
theorem uses_named {sites : Env Nat} (resolves : sites.Resolves declared) (first : Nat)
    (stmt : Stmt) (stands : stmt.binders <+: declared.drop first) :
    ∀ use ∈ stmt.uses sites first, Named declared use := by
  cases stmt with
  | declare name value | print value => exact value.uses_named resolves
  | assign name value =>
      rw [uses, List.forall_mem_cons]
      exact ⟨resolves name, value.uses_named resolves⟩
  | ifThen condition body =>
      rw [uses, List.forall_mem_append]
      exact ⟨condition.uses_named resolves, usesAll_named resolves.enter first body stands⟩
  | ifElse condition body alternative =>
      rw [binders] at stands
      rcases isPrefix_drop_of_append stands with ⟨early, late⟩
      rw [uses, List.forall_mem_append, List.forall_mem_append]
      exact ⟨condition.uses_named resolves, usesAll_named resolves.enter first body early,
        usesAll_named resolves.enter _ alternative late⟩
  | forEach name elements body =>
      rw [binders] at stands
      have declares := getElem?_of_cons_isPrefix_drop stands
      have inside : bindersAll body <+: declared.drop (first + 1) :=
        (@isPrefix_drop_of_append [name] _ _ _ stands).2
      rw [uses, List.forall_mem_append]
      exact ⟨elements.uses_named resolves,
        usesAll_named (resolves.loop declares).enter (first + 1) body inside⟩

/-- The same of a sequence. -/
theorem usesAll_named {sites : Env Nat} (resolves : sites.Resolves declared) (first : Nat)
    (stmts : List Stmt) (stands : bindersAll stmts <+: declared.drop first) :
    ∀ use ∈ usesAll sites first stmts, Named declared use := by
  cases stmts with
  | nil => simp [usesAll]
  | cons stmt rest =>
      rw [bindersAll] at stands
      rcases isPrefix_drop_of_append stands with ⟨early, late⟩
      have behind : (stmt.sitesAfter sites first).Resolves declared := by
        cases stmt with
        | declare name value => exact resolves.declare (getElem?_of_cons_isPrefix_drop early)
        | assign | print | ifThen | ifElse | forEach => exact resolves
      rw [usesAll, List.forall_mem_append]
      exact ⟨uses_named resolves first stmt early, usesAll_named behind _ rest late⟩

end

end Stmt

end VectorLang
