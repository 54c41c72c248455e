import VectorLang.Proofs.Frame
import VectorLang.Proofs.Resolution

/-!
# Renaming of one declaration

A declaration gets a name that is not in use, and all that stands for it is renamed with it. An
environment under the new names is searched like the one under the old names: it has the same
payloads in the same scopes, and different names stay different. This holds of an environment
of declarations too, so that no name comes to stand for another declaration.
-/

namespace VectorLang

variable {α : Type}

/-! ## The renamed program -/

/-- The declaration with the number `site`, which has the name `old`, is to have the name
`new`. -/
structure Renaming where
  site : Nat
  old : Name
  new : Name
  deriving Repr

namespace Renaming

/-- What a name becomes that stands for the declaration `site?`, or for none. -/
def target (plan : Renaming) (site? : Option Nat) (name : Name) : Name :=
  if name = plan.old ∧ site? = some plan.site then plan.new else name

/-- Different names stay different, unless one of them is the new name. -/
theorem target_inj {plan : Renaming} {site? site?' : Option Nat} {name name' : Name}
    (known : name ≠ plan.new) (known' : name' ≠ plan.new)
    (same : plan.target site? name = plan.target site?' name') : name = name' := by
  rw [target, target] at same
  split at same <;> split at same
  case isTrue.isTrue here there => exact here.1.trans there.1.symm
  case isTrue.isFalse => exact absurd same.symm known'
  case isFalse.isTrue => exact absurd same known
  case isFalse.isFalse => exact same

theorem target_none (plan : Renaming) (name : Name) : plan.target none name = name := by
  simp [target]

end Renaming

/-- Rename the uses that stand for the declaration. -/
def Expr.rename (plan : Renaming) (sites : Env Nat) (expr : Expr) : Expr :=
  expr.mapNames fun name => plan.target (sites.find? name) name

namespace Stmt

mutual

/-- Rename the declaration, and the uses and assignments that stand for it, in a statement whose
first declaration has the number `first`. -/
def rename (plan : Renaming) (sites : Env Nat) (first : Nat) : Stmt → Stmt
  | .declare name value =>
      .declare (plan.target (some first) name) (value.rename plan sites)
  | .assign name value =>
      .assign (plan.target (sites.find? name) name) (value.rename plan sites)
  | .print value => .print (value.rename plan sites)
  | .ifThen condition body =>
      .ifThen (condition.rename plan sites) (renameAll plan sites.enter first body)
  | .ifElse condition body alternative =>
      .ifElse (condition.rename plan sites) (renameAll plan sites.enter first body)
        (renameAll plan sites.enter (first + (bindersAll body).length) alternative)
  | .forEach name elements body =>
      .forEach (plan.target (some first) name) (elements.rename plan sites)
        (renameAll plan (sites.loop name first).enter (first + 1) body)

/-- The same of a sequence; each statement is in the scope of the declarations before it. -/
def renameAll (plan : Renaming) (sites : Env Nat) (first : Nat) : List Stmt → List Stmt
  | [] => []
  | stmt :: rest =>
      rename plan sites first stmt ::
        renameAll plan (sitesAfter sites first stmt) (first + (binders stmt).length) rest

end

end Stmt

/-- Rename a declaration of a program and what stands for it. -/
def Program.rename (plan : Renaming) (program : Program) : Program :=
  Stmt.renameAll plan .empty 0 program

/-! ## Environments under both names -/

namespace Scope

/-- The three scopes bind the same names in the same order, the first one to the numbers of
their declarations, and the last one under the names that these have afterwards. -/
inductive Renamed (plan : Renaming) : Scope Nat → Scope α → Scope α → Prop where
  | nil : Renamed plan [] [] []
  | cons {name : Name} {site : Nat} {payload : α} {sites : Scope Nat} {scope scope' : Scope α} :
      name ≠ plan.new → Renamed plan sites scope scope' →
      Renamed plan ((name, site) :: sites) ((name, payload) :: scope)
        ((plan.target (some site) name, payload) :: scope')

/-- The same of all scopes of a chain. -/
inductive ChainRenamed (plan : Renaming) :
    List (Scope Nat) → List (Scope α) → List (Scope α) → Prop where
  | nil : ChainRenamed plan [] [] []
  | cons {sites : Scope Nat} {scope scope' : Scope α} {outerSites : List (Scope Nat)}
      {outer outer' : List (Scope α)} :
      Renamed plan sites scope scope' → ChainRenamed plan outerSites outer outer' →
      ChainRenamed plan (sites :: outerSites) (scope :: outer) (scope' :: outer')

variable {plan : Renaming} {name : Name} {site? : Option Nat}

namespace Renamed

variable {sites : Scope Nat} {scope scope' : Scope α}

theorem names_eq (renamed : Renamed plan sites scope scope') : sites.names = scope.names := by
  induction renamed with
  | nil => rfl
  | cons _ _ ih => exact congrArg (_ :: ·) ih

/-- A name is bound where its declaration is found. -/
theorem lookup_eq_none_iff (renamed : Renamed plan sites scope scope') :
    sites.lookup name = none ↔ scope.lookup name = none := by
  rw [Scope.lookup_eq_none_iff, Scope.lookup_eq_none_iff, renamed.names_eq]

/-- A name is found under its new name. If the scope does not bind it, it does not matter which
declaration it is taken to stand for. -/
theorem lookup_eq (renamed : Renamed plan sites scope scope') (known : name ≠ plan.new)
    (resolves : ∀ site, sites.lookup name = some site → site? = some site) :
    scope'.lookup (plan.target site? name) = scope.lookup name := by
  induction renamed with
  | nil => rfl
  | @cons bound site payload sites scope scope' knownBound _ ih =>
      by_cases here : name = bound
      · subst here
        rw [resolves site List.lookup_cons_self, List.lookup_cons_self, List.lookup_cons_self]
      · -- another name is none of the ones in front, whatever it stands for
        have apart : plan.target site? name ≠ plan.target (some site) bound :=
          fun same => here (Renaming.target_inj known knownBound same)
        rw [lookup_cons_of_ne here] at resolves
        rw [lookup_cons_of_ne apart, lookup_cons_of_ne here, ih resolves]

/-- A name is overwritten under its new name. -/
theorem rebind (renamed : Renamed plan sites scope scope') (known : name ≠ plan.new)
    (resolves : ∀ site, sites.lookup name = some site → site? = some site) (payload : α) :
    Renamed plan sites (scope.rebind name payload)
      (scope'.rebind (plan.target site? name) payload) := by
  induction renamed with
  | nil => exact .nil
  | @cons bound site old sites scope scope' knownBound rest ih =>
      rw [Scope.rebind, Scope.rebind]
      by_cases here : name = bound
      · subst here
        rw [resolves site List.lookup_cons_self, if_pos rfl, if_pos rfl]
        exact .cons known rest
      · have apart : plan.target (some site) bound ≠ plan.target site? name :=
          fun same => here (Renaming.target_inj knownBound known same).symm
        rw [lookup_cons_of_ne here] at resolves
        rw [if_neg (Ne.symm here), if_neg apart]
        exact .cons knownBound (ih resolves)

end Renamed

namespace ChainRenamed

variable {sites : List (Scope Nat)} {scopes scopes' : List (Scope α)}

theorem findSome?_eq_none_iff (renamed : ChainRenamed plan sites scopes scopes') :
    sites.findSome? (·.lookup name) = none ↔ scopes.findSome? (·.lookup name) = none := by
  induction renamed with
  | nil => simp
  | cons scope _ ih =>
      simp only [List.findSome?_eq_none_iff, List.forall_mem_cons, scope.lookup_eq_none_iff] at ih ⊢
      exact and_congr_right fun _ => ih

theorem findSome?_eq (renamed : ChainRenamed plan sites scopes scopes')
    (known : name ≠ plan.new)
    (resolves : ∀ site, sites.findSome? (·.lookup name) = some site → site? = some site) :
    scopes'.findSome? (·.lookup (plan.target site? name)) =
      scopes.findSome? (·.lookup name) := by
  induction renamed with
  | nil => rfl
  | @cons innermost scope _ _ _ _ renamed _ ih =>
      rw [List.findSome?_cons] at resolves
      rw [List.findSome?_cons, List.findSome?_cons]
      cases found : innermost.lookup name with
      | some site =>
          rw [found] at resolves
          rw [renamed.lookup_eq known (by simpa [found] using resolves)]
          cases bound : scope.lookup name with
          | none => simp [renamed.lookup_eq_none_iff.mpr bound] at found
          | some payload => rfl
      | none =>
          rw [found] at resolves
          rw [renamed.lookup_eq known (by simp [found]), renamed.lookup_eq_none_iff.mp found]
          exact ih resolves

theorem rebindFirst (renamed : ChainRenamed plan sites scopes scopes')
    (known : name ≠ plan.new)
    (resolves : ∀ site, sites.findSome? (·.lookup name) = some site → site? = some site)
    (payload : α) :
    ChainRenamed plan sites (Scope.rebindFirst name payload scopes)
      (Scope.rebindFirst (plan.target site? name) payload scopes') := by
  induction renamed with
  | nil => exact .nil
  | @cons innermost scope _ _ _ _ renamed outer ih =>
      rw [List.findSome?_cons] at resolves
      rw [Scope.rebindFirst, Scope.rebindFirst]
      cases found : innermost.lookup name with
      | some site =>
          rw [found] at resolves
          have here : ∀ site, innermost.lookup name = some site → site? = some site := by
            simpa [found] using resolves
          rw [renamed.lookup_eq known here]
          cases bound : scope.lookup name with
          | none => simp [renamed.lookup_eq_none_iff.mpr bound] at found
          | some old => exact .cons (renamed.rebind known here payload) outer
      | none =>
          rw [found] at resolves
          rw [renamed.lookup_eq known (by simp [found]), renamed.lookup_eq_none_iff.mp found]
          exact .cons renamed (ih resolves)

end ChainRenamed

end Scope

/-- The environments bind the same names in all scopes, the last one under the names that these
have afterwards. -/
structure Env.Renamed (plan : Renaming) (sites : Env Nat) (env env' : Env α) : Prop where
  innermost : Scope.Renamed plan sites.innermost env.innermost env'.innermost
  outer : Scope.ChainRenamed plan sites.outer env.outer env'.outer

namespace Env.Renamed

variable {plan : Renaming} {sites : Env Nat} {env env' : Env α} {name : Name}

theorem empty (plan : Renaming) : Renamed plan .empty (.empty : Env α) .empty :=
  ⟨.nil, .nil⟩

theorem scopes (renamed : Renamed plan sites env env') :
    Scope.ChainRenamed plan sites.scopes env.scopes env'.scopes :=
  .cons renamed.innermost renamed.outer

theorem of_scopes
    (renamed : Scope.ChainRenamed plan sites.scopes env.scopes env'.scopes) :
    Renamed plan sites env env' := by
  cases renamed with
  | cons innermost outer => exact ⟨innermost, outer⟩

theorem enter (renamed : Renamed plan sites env env') :
    Renamed plan sites.enter env.enter env'.enter :=
  ⟨.nil, renamed.scopes⟩

/-- Behind a scope of its own, the declarations of a body are forgotten. -/
theorem leave {scope : Scope Nat} (renamed : Renamed plan ⟨scope, sites.scopes⟩ env env') :
    Renamed plan sites env.leave env'.leave := by
  have chain := renamed.outer
  apply of_scopes
  rcases env with ⟨innermost, outer⟩
  rcases env' with ⟨innermost', outer'⟩
  cases chain with
  | cons innermost outer => exact .cons innermost outer

theorem declare (renamed : Renamed plan sites env env') (known : name ≠ plan.new)
    (site : Nat) (payload : α) :
    Renamed plan ⟨(name, site) :: sites.innermost, sites.outer⟩
      ⟨(name, payload) :: env.innermost, env.outer⟩
      ⟨(plan.target (some site) name, payload) :: env'.innermost, env'.outer⟩ :=
  ⟨.cons known renamed.innermost, renamed.outer⟩

theorem loop (renamed : Renamed plan sites env env') (known : name ≠ plan.new)
    (site : Nat) (payload : α) :
    Renamed plan (sites.loop name site) (env.loop name payload)
      (env'.loop (plan.target (some site) name) payload) :=
  ⟨.cons known .nil, renamed.scopes⟩

/-- A name that is new in a scope is so for each of its declarations. -/
theorem lookup_innermost_eq_none (renamed : Renamed plan sites env env')
    (known : name ≠ plan.new) (new : env.innermost.lookup name = none) (site? : Option Nat) :
    env'.innermost.lookup (plan.target site? name) = none := by
  have undeclared := renamed.innermost.lookup_eq_none_iff.mpr new
  rw [renamed.innermost.lookup_eq known (by simp [undeclared]), new]

/-- Whatever a name stands for is found under its new name. -/
theorem find?_eq (renamed : Renamed plan sites env env') (known : name ≠ plan.new) :
    env'.find? (plan.target (sites.find? name) name) = env.find? name :=
  renamed.scopes.findSome?_eq known fun _ => id

/-- A name that stands for nothing stays as it is. -/
theorem target_eq_self (renamed : Renamed plan sites env env') (absent : env.find? name = none) :
    plan.target (sites.find? name) name = name := by
  have unresolved : sites.find? name = none := renamed.scopes.findSome?_eq_none_iff.mpr absent
  rw [unresolved, plan.target_none]

/-- A look-up has the same result or the same error. -/
theorem lookup_eq (renamed : Renamed plan sites env env') (known : name ≠ plan.new) :
    env'.lookup (plan.target (sites.find? name) name) = env.lookup name := by
  rw [lookup, lookup, renamed.find?_eq known]
  cases found : env.find? name with
  | some payload => rfl
  | none => rw [renamed.target_eq_self found]

theorem rebind (renamed : Renamed plan sites env env') (known : name ≠ plan.new)
    (payload : α) :
    Renamed plan sites (env.rebind name payload)
      (env'.rebind (plan.target (sites.find? name) name) payload) := by
  apply of_scopes
  rw [scopes_rebind, scopes_rebind]
  exact renamed.scopes.rebindFirst known (fun _ => id) payload

end Env.Renamed

/-! ## The renamed text -/

namespace Renaming

/-- The names of declarations, numbered from `first` on, as they are afterwards. -/
def declared (plan : Renaming) (first : Nat) (names : List Name) : List Name :=
  (names.zipIdx first).map fun (name, number) => plan.target (some number) name

/-- A use as it is afterwards; it keeps its declaration. -/
def used (plan : Renaming) (use : Name × Option Nat) : Name × Option Nat :=
  (plan.target use.2 use.1, use.2)

variable {plan : Renaming}

theorem declared_append (first : Nat) (names more : List Name) :
    plan.declared first (names ++ more) =
      plan.declared first names ++ plan.declared (first + names.length) more := by
  rw [declared, List.zipIdx_append, List.map_append]
  rfl

@[simp] theorem length_declared (first : Nat) (names : List Name) :
    (plan.declared first names).length = names.length := by
  simp [declared]

/-- Of all declarations one has another name. -/
theorem declared_eq_set {names : List Name} (declares : names[plan.site]? = some plan.old) :
    plan.declared 0 names = names.set plan.site plan.new := by
  apply List.ext_getElem?
  intro number
  rw [declared, List.getElem?_map, List.getElem?_zipIdx, List.getElem?_set]
  by_cases here : plan.site = number
  · subst here
    have inside : plan.site < names.length := (List.getElem?_eq_some_iff.mp declares).1
    rw [declares, if_pos rfl, if_pos inside]
    simp [target]
  · cases bound : names[number]? <;> simp [here, target, Ne.symm here]

/-- Of the uses that have the names of their declarations, those of one declaration have another
name. -/
theorem used_of_named {names : List Name} (declares : names[plan.site]? = some plan.old)
    {use : Name × Option Nat} (named : Named names use) :
    plan.used use = (if use.2 = some plan.site then plan.new else use.1, use.2) := by
  rw [used, target]
  by_cases here : use.2 = some plan.site
  · have same : use.1 = plan.old := Option.some.inj ((named _ here).symm.trans declares)
    simp [here, same]
  · simp [here]

end Renaming

theorem Expr.uses_rename {plan : Renaming} {sites sites' : Env Nat}
    (renamed : Env.Renamed plan sites sites sites') (expr : Expr)
    (fresh : plan.new ∉ expr.names) :
    (expr.rename plan sites).uses sites' = (expr.uses sites).map plan.used := by
  rw [uses, uses, rename, names_mapNames, List.map_map, List.map_map]
  apply List.map_congr_left
  intro name member
  have known : name ≠ plan.new := ne_of_mem_of_not_mem member fresh
  exact congrArg (Prod.mk _) (renamed.find?_eq known)

namespace Stmt

variable {plan : Renaming}

mutual

/-- The declarations of a renamed statement. -/
theorem binders_rename (sites : Env Nat) (first : Nat) (stmt : Stmt) :
    (stmt.rename plan sites first).binders = plan.declared first stmt.binders := by
  cases stmt with
  | declare | assign | print => rfl
  | ifThen condition body =>
      rw [rename, binders, binders, bindersAll_rename]
  | ifElse condition body alternative =>
      rw [rename, binders, binders, Renaming.declared_append, bindersAll_rename,
        bindersAll_rename]
  | forEach name elements body =>
      rw [rename, binders, binders, bindersAll_rename]
      rfl

/-- The same of a sequence. -/
theorem bindersAll_rename (sites : Env Nat) (first : Nat) (stmts : List Stmt) :
    bindersAll (renameAll plan sites first stmts) = plan.declared first (bindersAll stmts) := by
  cases stmts with
  | nil => rfl
  | cons stmt rest =>
      rw [renameAll, bindersAll, bindersAll, Renaming.declared_append, binders_rename,
        bindersAll_rename]

end

/-- The declarations behind a renamed statement are those behind the statement. -/
theorem sitesAfter_rename {sites sites' : Env Nat} (renamed : Env.Renamed plan sites sites sites')
    (first : Nat) (stmt : Stmt) (fresh : plan.new ∉ stmt.names) :
    Env.Renamed plan (stmt.sitesAfter sites first) (stmt.sitesAfter sites first)
      ((stmt.rename plan sites first).sitesAfter sites' first) := by
  cases stmt with
  | declare name value =>
      rw [names, List.mem_cons, not_or] at fresh
      exact renamed.declare (Ne.symm fresh.1) first first
  | assign | print | ifThen | ifElse | forEach => exact renamed

mutual

/-- The uses in a renamed statement stand for the declarations that they stood for. -/
theorem uses_rename {sites sites' : Env Nat} (renamed : Env.Renamed plan sites sites sites')
    (first : Nat) (stmt : Stmt) (fresh : plan.new ∉ stmt.names) :
    (stmt.rename plan sites first).uses sites' first = (stmt.uses sites first).map plan.used := by
  cases stmt with
  | declare name value =>
      rw [names, List.mem_cons, not_or] at fresh
      exact value.uses_rename renamed fresh.2
  | assign name value =>
      rw [names, List.mem_cons, not_or] at fresh
      rw [rename, uses, uses, List.map_cons, value.uses_rename renamed fresh.2,
        renamed.find?_eq (Ne.symm fresh.1)]
      rfl
  | print value => exact value.uses_rename renamed fresh
  | ifThen condition body =>
      rw [names, List.mem_append, not_or] at fresh
      rw [rename, uses, uses, List.map_append, condition.uses_rename renamed fresh.1,
        usesAll_rename renamed.enter first body fresh.2]
  | ifElse condition body alternative =>
      rw [names, List.mem_append, List.mem_append, not_or, not_or] at fresh
      rw [rename, uses, uses, List.map_append, List.map_append,
        condition.uses_rename renamed fresh.1, usesAll_rename renamed.enter first body fresh.2.1,
        bindersAll_rename, Renaming.length_declared,
        usesAll_rename renamed.enter _ alternative fresh.2.2]
  | forEach name elements body =>
      rw [names, List.mem_cons, List.mem_append, not_or, not_or] at fresh
      have inside := (renamed.loop (Ne.symm fresh.1) first first).enter
      rw [rename, uses, uses, List.map_append, elements.uses_rename renamed fresh.2.1,
        usesAll_rename inside (first + 1) body fresh.2.2]

/-- The same of a sequence. -/
theorem usesAll_rename {sites sites' : Env Nat} (renamed : Env.Renamed plan sites sites sites')
    (first : Nat) (stmts : List Stmt) (fresh : plan.new ∉ namesAll stmts) :
    usesAll sites' first (renameAll plan sites first stmts) =
      (usesAll sites first stmts).map plan.used := by
  cases stmts with
  | nil => rfl
  | cons stmt rest =>
      rw [namesAll, List.mem_append, not_or] at fresh
      have behind := sitesAfter_rename renamed first stmt fresh.1
      rw [renameAll, usesAll, usesAll, List.map_append, uses_rename renamed first stmt fresh.1,
        binders_rename, Renaming.length_declared, usesAll_rename behind _ rest fresh.2]

end

end Stmt

end VectorLang
