/-!
# Ranges of code points

Classes of characters are tables of ranges of code points in ascending order.
-/

namespace VectorLang.Text

/-- Ranges of code points, each with both ends, in ascending order. -/
abbrev CodeRanges := List (Nat × Nat)

namespace CodeRanges

/-- Whether one of the ranges holds `code`. The ranges behind the first one that
starts above `code` are not looked at. -/
def contains (code : Nat) : CodeRanges → Bool
  | [] => false
  | (first, last) :: rest =>
      if code < first then false
      else if code ≤ last then true
      else contains code rest

end CodeRanges

end VectorLang.Text
