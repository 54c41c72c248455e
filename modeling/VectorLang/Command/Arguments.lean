import VectorLang.Diagnostic.Code

/-!
# Command line arguments

The words behind the program's name select a command. The words behind `run` are
read from the left as items: an output path is the word behind `-o`, whatever it
is; two spellings turn type checking off; an input is a single dash or a word that
does not start with one.
-/

namespace VectorLang

/-- A command that reads one source file. -/
inductive FileCommand where
  | check
  | parse
  | lex
  deriving DecidableEq, Repr

/-- Why a command line is refused. -/
inductive UsageError where
  | unknownCommand (word : String)
  | missingFile (command : FileCommand)
  | missingCode
  | missingOutputPath
  | unexpectedArgument (word : String)
  | unknownOption (word : String)
  | unknownCode (text : String)
  deriving DecidableEq, Repr

/-- How a file command is called. -/
def FileCommand.name : FileCommand → String
  | .check => "check"
  | .parse => "parse"
  | .lex => "lex"

namespace UsageError

/-- The wording of a usage error. -/
def message : UsageError → String
  | .unknownCommand word => s!"unknown command '{word}'"
  | .missingFile command => s!"missing argument\nUsage: mylang {command.name} <file>"
  | .missingCode => "missing argument\nUsage: mylang explain <CODE>"
  | .missingOutputPath => "missing file path after -o"
  | .unexpectedArgument word => s!"unexpected argument '{word}'"
  | .unknownOption word => s!"unknown option '{word}'"
  | .unknownCode text =>
      let known := ", ".intercalate (ErrorCode.all.map ErrorCode.text)
      s!"unknown error code '{text}'\nknown codes: {known}"

/-- A usage error as it is reported. -/
def report (error : UsageError) : String := s!"error: {error.message}"

end UsageError

/-- What to run and how. -/
structure RunOptions where
  /-- The source file; without one, or with a dash, standard input is read. -/
  input? : Option String
  /-- The file that takes the output, instead of standard output. -/
  output? : Option String
  typecheck : Bool
  deriving DecidableEq, Repr

namespace RunOptions

/-- One item of the words behind `run`. -/
inductive Item where
  | output (path : String)
  | skipTypecheck
  | input (path : String)
  | missingOutputPath
  | unknown (word : String)
  deriving DecidableEq, Repr

/-- The item that a word is by itself. -/
def Item.ofWord (word : String) : Item :=
  if word = "--no-typecheck" ∨ word = "-ntc" then .skipTypecheck
  else if word = "-" then .input word
  else
    match word.toList with
    | '-' :: _ => .unknown word
    | _ => .input word

/-- Cut words into items from the left. -/
def items : List String → List Item
  | [] => []
  | [word] => if word = "-o" then [.missingOutputPath] else [.ofWord word]
  | word :: next :: rest =>
      if word = "-o" then .output next :: items rest
      else .ofWord word :: items (next :: rest)

/-- Without any words, standard input is checked and run. -/
def default : RunOptions := ⟨none, none, true⟩

/-- Take one more item into account. Of several output paths the last one counts;
a second input is refused. -/
def add (options : RunOptions) : Item → Except UsageError RunOptions
  | .output path => .ok { options with output? := some path }
  | .skipTypecheck => .ok { options with typecheck := false }
  | .input path =>
      match options.input? with
      | none => .ok { options with input? := some path }
      | some _ => .error (.unexpectedArgument path)
  | .missingOutputPath => .error .missingOutputPath
  | .unknown word => .error (.unknownOption word)

/-- The options that the words behind `run` stand for. -/
def ofArgs (args : List String) : Except UsageError RunOptions :=
  (items args).foldlM add default

end RunOptions

/-- What the program is asked to do. -/
inductive Command where
  | usage
  | version
  | explain (code : ErrorCode)
  | file (command : FileCommand) (path : String)
  | run (options : RunOptions)
  deriving DecidableEq, Repr

namespace Command

/-- A command that reads the file named by the first of its arguments. -/
def ofFileArgs (command : FileCommand) : List String → Except UsageError Command
  | [] => .error (.missingFile command)
  | path :: _ => .ok (.file command path)

/-- The command to explain the code that is the first argument. -/
def ofCodeArgs : List String → Except UsageError Command
  | [] => .error .missingCode
  | text :: _ =>
      match ErrorCode.ofText? text with
      | some code => .ok (.explain code)
      | none => .error (.unknownCode text)

/-- The command that a command line stands for. -/
def ofArgs : List String → Except UsageError Command
  | [] => .ok .usage
  | word :: args =>
      match word with
      | "run" => (RunOptions.ofArgs args).map .run
      | "check" => ofFileArgs .check args
      | "parse" => ofFileArgs .parse args
      | "lex" => ofFileArgs .lex args
      | "explain" | "--explain" => ofCodeArgs args
      | "help" | "--help" | "-h" => .ok .usage
      | "version" | "--version" | "-V" => .ok .version
      | word => .error (.unknownCommand word)

end Command

end VectorLang
