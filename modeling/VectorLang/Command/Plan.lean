import VectorLang.Command.Arguments
import VectorLang.Diagnostic.Explanation
import VectorLang.Source
import VectorLang.Syntax.Outline

/-!
# What commands do

A command becomes a plan: the files that it reads and writes, and the report that
it ends with, depending on what the files hold. A plan touches nothing by itself;
it can be carried out on real files or on a directory held in memory.
-/

namespace VectorLang

/-- Why a file can not be read or written. -/
inductive FileFault where
  | notFound
  | notDirectory
  | isDirectory
  | permissionDenied
  | other (text : String)
  deriving DecidableEq, Repr

/-- How the operating system words a fault. -/
def FileFault.text : FileFault → String
  | .notFound => "No such file or directory (os error 2)"
  | .notDirectory => "Not a directory (os error 20)"
  | .isDirectory => "Is a directory (os error 21)"
  | .permissionDenied => "Permission denied (os error 13)"
  | .other text => text

/-- Where source text is read from. -/
inductive Origin where
  | stdin
  | file (path : String)
  deriving DecidableEq, Repr

namespace Origin

/-- A dash stands for standard input. -/
def ofPath (path : String) : Origin := if path = "-" then .stdin else .file path

/-- How messages name an origin. -/
def display : Origin → String
  | .stdin => "<stdin>"
  | .file path => path

/-- The message for an origin that can not be read. -/
def readFailure (origin : Origin) : FileFault → String
  | .notFound => s!"cannot find file '{origin.display}'"
  | .permissionDenied => s!"permission denied reading '{origin.display}'"
  | fault => s!"error reading '{origin.display}': {fault.text}"

end Origin

/-- What a command prints, and whether it succeeded. -/
structure Report where
  out : String
  err : String
  success : Bool
  deriving DecidableEq, Repr

namespace Report

/-- Success with the output `out`. -/
def ok (out : String) : Report := ⟨out, "", true⟩

/-- Failure with a message, behind the output `out`. -/
def failed (out message : String) : Report := ⟨out, message ++ "\n", false⟩

/-- The exit code of the program. -/
def exitCode (report : Report) : Nat := if report.success then 0 else 1

end Report

/-- The work of a command up to its report. -/
inductive Plan where
  | done (report : Report)
  | read (origin : Origin) (next : Except FileFault ByteArray → Plan)
  | write (path : String) (content : String) (next : Option FileFault → Plan)

namespace Plan

/-- Read an origin and go on with its text; end if there is no text. -/
def readText (origin : Origin) (next : String → Plan) : Plan :=
  .read origin fun
    | .error fault => .done (.failed "" (origin.readFailure fault))
    | .ok bytes =>
        match String.fromUTF8? bytes with
        | some text => next text
        | none => .done (.failed "" s!"'{origin.display}' contains invalid UTF-8 data")

end Plan

namespace Command

/-- The help text. -/
def usageText : String :=
  "MyLang interpreter

Usage: mylang <command> [options]

Commands:
  run [file|-]         Type check and run a program (stdin if no file)
  check <file>         Type check a program without running it
  parse <file>         Parse a program and print its AST
  lex <file>           Tokenize a program and print its tokens
  explain <code>       Explain an error code (e.g., E2001)
  help                 Show this help message
  version              Show version information

Run options:
  -o <path>              Write program output to <path>
  --no-typecheck, -ntc   Skip type checking; type errors surface at runtime

Examples:
  mylang run prog.txt
  mylang run prog.txt -o out.txt
  mylang run -ntc < prog.txt
  mylang explain E6004

Set RUST_LOG (e.g. RUST_LOG=mylang_eval=trace) to enable tracing output.
"

/-- The report on a line of tokens: the line number in four columns, the token,
and its bytes. -/
def tokenLine (located : Located) : String :=
  let line := toString located.line
  let padding := String.ofList (List.replicate (4 - line.length) ' ')
  s!"  {padding}{line}  {located.token.display} @ {located.start}..{located.stop}\n"

/-- The report of a file command on the source text `source`. -/
def reportOn (command : FileCommand) (path source : String) : Report :=
  match command with
  | .check =>
      match Source.check source with
      | .ok () => .ok s!"{path}: no errors found\n"
      | .error fault => .failed "" fault.diagnostic.text
  | .parse =>
      match Program.ofSource source with
      | .ok program =>
          let heading := s!"Parse result for '{path}' ({program.length} statements):\n"
          .ok (heading ++ program.outline.text ++ "\n")
      | .error fault => .failed "" fault.diagnostic.text
  | .lex =>
      match tokenize source with
      | .ok tokens =>
          let heading := s!"Tokens for '{path}' ({tokens.length} tokens):\n"
          .ok (heading ++ String.join (tokens.map tokenLine))
      | .error error => .failed "" error.diagnostic.text

/-- The report on a run that prints to standard output. -/
def runReport (outcome : Outcome Fault (Array Value)) : Report :=
  let printed := Value.lines outcome.state.toList
  match outcome.error? with
  | none => .ok printed
  | some fault => .failed printed fault.diagnostic.text

/-- The report on a run whose output went to the file `path`. An error of the
program comes first; a failed write is then a note of it. -/
def writtenReport (path : String) (error? : Option Fault) (fault? : Option FileFault) : Report :=
  match error?, fault? with
  | none, none => .ok ""
  | none, some fault => .failed "" s!"error writing '{path}': {fault.text}"
  | some error, none => .failed "" error.diagnostic.text
  | some error, some fault =>
      let note := s!"output was not written to '{path}': {fault.text}"
      .failed "" (error.diagnostic.withNote note).text

/-- Run a program. With an output file, everything printed is written to it, also
what was printed before an error. -/
def planRun (options : RunOptions) : Plan :=
  let origin := (options.input?.map Origin.ofPath).getD .stdin
  .readText origin fun source =>
    let outcome := Source.run source options.typecheck
    match options.output? with
    | none => .done (runReport outcome)
    | some path =>
        .write path (Value.lines outcome.state.toList) fun fault? =>
          .done (writtenReport path outcome.error? fault?)

/-- The work of a command. -/
def plan : Command → Plan
  | .usage => .done (.ok usageText)
  | .version => .done (.ok "MyLang 0.1.0\n")
  | .explain code => .done (.ok (code.explanation ++ "\n"))
  | .file command path =>
      .readText (.ofPath path) fun source => .done (reportOn command path source)
  | .run options => planRun options

end Command

/-- The work that a command line asks for. -/
def Plan.ofArgs (args : List String) : Plan :=
  match Command.ofArgs args with
  | .ok command => command.plan
  | .error error => .done (.failed "" (error.report ++ "\n\nRun `mylang help` for usage."))

end VectorLang
