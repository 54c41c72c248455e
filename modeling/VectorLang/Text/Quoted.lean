import VectorLang.Text.Combining
import VectorLang.Text.Unprintable

/-!
# Quoted text

A text between double quotes on one line. Quotes, backslashes and line ends are
escaped with a backslash. Characters without a shape of their own are written by
their code point, and so are those that would join the character before them.
-/

namespace VectorLang.Text

/-- How a character is written between double quotes. -/
def escape (char : Char) : List Char :=
  if char = '\x22' then ['\\', '\x22']
  else if char = '\\' then ['\\', '\\']
  else if char = '\t' then ['\\', 't']
  else if char = '\n' then ['\\', 'n']
  else if char = '\r' then ['\\', 'r']
  else if char = '\x00' then ['\\', '0']
  else if isCombining char || isUnprintable char then
    ['\\', 'u', '\x7b'] ++ Nat.toDigits 16 char.toNat ++ ['\x7d']
  else [char]

/-- A text between double quotes. -/
def quote (text : String) : String :=
  "\"" ++ String.ofList (text.toList.flatMap escape) ++ "\""

end VectorLang.Text
