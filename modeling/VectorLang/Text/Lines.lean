/-!
# Lines of text

Texts written one after the other, each with a line end behind it.
-/

namespace VectorLang.Text

/-- One text that holds all lines. -/
def unlines (lines : List String) : String :=
  String.join (lines.map (· ++ "\n"))

end VectorLang.Text
