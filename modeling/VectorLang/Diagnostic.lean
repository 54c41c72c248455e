import VectorLang.Diagnostic.Code

/-!
# Diagnostics

A diagnostic describes one error for its reader: a code, a message, the line if
it is known, notes, and suggestions for mending the program.
-/

namespace VectorLang

/-- The description of an error. -/
structure Diagnostic where
  code : ErrorCode
  message : String
  line? : Option Nat
  notes : List String
  suggestions : List String
  deriving DecidableEq, Repr

namespace Diagnostic

/-- A description with a code only. -/
def ofCode (code : ErrorCode) : Diagnostic := ⟨code, "", none, [], []⟩

/-- Replace the message. -/
def withMessage (diagnostic : Diagnostic) (message : String) : Diagnostic :=
  { diagnostic with message }

/-- Replace the line. -/
def withLine (diagnostic : Diagnostic) (line : Nat) : Diagnostic :=
  { diagnostic with line? := some line }

/-- Add a note behind the others. -/
def withNote (diagnostic : Diagnostic) (note : String) : Diagnostic :=
  { diagnostic with notes := diagnostic.notes ++ [note] }

/-- Add a suggestion behind the others. -/
def withSuggestion (diagnostic : Diagnostic) (suggestion : String) : Diagnostic :=
  { diagnostic with suggestions := diagnostic.suggestions ++ [suggestion] }

/-- The lines of a report. -/
def report (diagnostic : Diagnostic) : List String :=
  s!"error [{diagnostic.code.text}]: {diagnostic.message}" ::
    ((diagnostic.line?.toList.map fun line => s!"  --> line {line}") ++
      (diagnostic.notes.map fun note => s!"  = note: {note}") ++
      diagnostic.suggestions.map fun suggestion => s!"  = help: {suggestion}")

/-- A report as one text, without a line end behind it. -/
def text (diagnostic : Diagnostic) : String :=
  "\n".intercalate diagnostic.report

end Diagnostic

end VectorLang
