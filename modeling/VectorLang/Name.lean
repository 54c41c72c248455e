/-!
# Names

Variables are named by plain text, compared and ordered character by character.
Source text only yields letters and digits, but a program tree may carry any
text as a name.
-/

namespace VectorLang

/-- The name of a variable. -/
abbrev Name := String

/-- Why an operation on named bindings is refused. -/
inductive NameError where
  | undeclared (name : Name)
  | alreadyDeclared (name : Name)
  deriving DecidableEq, Repr

/-- The wording of a refused operation on bindings. -/
def NameError.message : NameError → String
  | .undeclared name => s!"undeclared variable `{name}`"
  | .alreadyDeclared name => s!"variable `{name}` already declared"

end VectorLang
