import VectorLang.Command.Plan

/-!
# The command line program

Carries out plans on real files.
-/

namespace VectorLang

/-- What a failed file operation means. -/
def FileFault.ofError : IO.Error → FileFault
  | .noFileOrDirectory .. => .notFound
  | .noSuchThing .. => .notFound
  | .permissionDenied .. => .permissionDenied
  | .inappropriateType _ 21 _ => .isDirectory
  | .inappropriateType .. => .notDirectory
  | error => .other (toString error)

/-- The outcome of a file operation. -/
def attempt {α : Type} (action : IO α) : IO (Except FileFault α) := do
  match ← action.toBaseIO with
  | .ok result => return .ok result
  | .error error => return .error (.ofError error)

/-- Carry out a plan. -/
def Plan.perform : Plan → IO Report
  | .done report => return report
  | .read .stdin next => do
      let stdin ← IO.getStdin
      (next (← attempt (stdin.readBinToEnd))).perform
  | .read (.file path) next => do
      (next (← attempt (IO.FS.readBinFile path))).perform
  | .write path content next => do
      match ← attempt (IO.FS.writeFile path content) with
      | .ok _ => (next none).perform
      | .error fault => (next (some fault)).perform

end VectorLang

/-- Run the command that the arguments ask for. -/
def main (args : List String) : IO UInt32 := do
  let report ← (VectorLang.Plan.ofArgs args).perform
  IO.print report.out
  IO.eprint report.err
  return report.exitCode.toUInt32
