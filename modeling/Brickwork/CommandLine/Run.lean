import Brickwork.CommandLine.Arguments
import Brickwork.CommandLine.FileTree
import Brickwork.Document.Load
import Brickwork.Text.Utf8

/-!
# Runs of the command line

What a run does is decided once, as a script of requests: to read, to print, to write, to end. On a
tree of files the script gives an exit code, what was printed, and the files afterwards; the program
itself sends the same requests to the operating system. The sketch is finished before the output is
touched.
-/

namespace Brickwork.CommandLine

/-- Why a run fails. -/
inductive RunError where
  | tooVerbose
  | unopened (path cause : String)
  | unloaded (error : LoadError)
  | ungenerated (diagnostics : Diagnostics)
  | unprinted (cause : String)
  | unwritten (path cause : String)
deriving DecidableEq

namespace RunError

/-- The error in words. -/
def message : RunError → String
  | tooVerbose => "At most four levels of verbosity (-vvvv)"
  | unopened path _ => "Failed to open model: " ++ path
  | unloaded error => error.message
  | ungenerated diagnostics => diagnostics.message
  | unprinted _ => "Failed to emit to stdout"
  | unwritten path _ => "Failed to emit to file: " ++ path

/-- What lies behind the error, in words. -/
def cause? : RunError → Option String
  | tooVerbose => none
  | unopened _ cause => some cause
  | unloaded error => some error.cause
  | ungenerated _ => none
  | unprinted cause => some cause
  | unwritten _ cause => some cause

/-- A text with every line but the first moved in. -/
def indented (text : String) : String :=
  String.ofList (text.toList.flatMap fun c =>
    if c = '\n' then ['\n', ' ', ' ', ' ', ' '] else [c])

/-- What is printed for the error. -/
def report (error : RunError) : String :=
  let cause := match error.cause? with
    | some cause => "\n\nCaused by:\n    " ++ indented cause
    | none => ""
  "Error: " ++ error.message ++ cause ++ "\n"

end RunError

/-- The name of the program, with its version. -/
def versionText : String :=
  "ArduinoML firmware generator 1.0.0\n"

/-- The help text. -/
def helpText : String :=
  versionText ++ "\n"
    ++ "USAGE:\n"
    ++ "    arduinoml [OPTIONS] -o <FILE> <MODEL>\n"
    ++ "\n"
    ++ "ARGS:\n"
    ++ "    <MODEL>    Model document in JSON ('-' for stdin)\n"
    ++ "\n"
    ++ "OPTIONS:\n"
    ++ "    -b, --board <BOARD>        Target board [default: uno] [possible values: uno, nano, mega]\n"
    ++ "    -d, --debounce <MILLIS>    Debounce interval for digital sensors [default: 200]\n"
    ++ "    -h, --help                 Print help information\n"
    ++ "    -o <FILE>                  Output sketch ('-' for stdout)\n"
    ++ "    -v                         Increase log verbosity (up to -vvvv)\n"
    ++ "    -V, --version              Print version information\n"

/-- What is printed for arguments that cannot be used. The argument parser's own words, which tell
what is wrong with them, are left out. -/
def misuseText : String :=
  "error: the arguments cannot be used, try --help\n"

/-- The most that can be asked of the log. -/
def maxVerbosity : Nat := 4

/-- The log lines that are shown at a verbosity. Between its level and its message a line also tells
the file and the line of the source that it comes from, and the time; these are left out. -/
def shownLog (verbosity : Nat) (lines : List LogLine) : String :=
  String.join ((lines.filter fun line => line.level.rank ≤ verbosity).map fun line =>
    "[" ++ line.level.name ++ "] " ++ line.message ++ "\n")

namespace Arguments

/-- Whether the model comes from standard input. -/
def readsStandard (arguments : Arguments) : Bool :=
  arguments.model = "-"

/-- Whether the sketch goes to standard output. -/
def writesStandard (arguments : Arguments) : Bool :=
  arguments.output = "-"

/-- What the model is called in messages. -/
def source (arguments : Arguments) : String :=
  if arguments.readsStandard then "<stdin>" else arguments.model

/-- The options of generation. -/
def options (arguments : Arguments) : Options :=
  ⟨arguments.board, arguments.debounce⟩

/-- The sketch for a model that is read from an input, with the app's name. -/
def sketch (arguments : Arguments) (input : Document.Input) : Except RunError (App × String) := do
  let app ← (App.load arguments.source input).mapError .unloaded
  let sketch ← (generate app arguments.options).mapError .ungenerated
  return (app, sketch)

/-- What is logged while the sketch is made. -/
def sketchLog (arguments : Arguments) (input : Document.Input) : List LogLine :=
  match App.load arguments.source input with
  | .ok app => app.loadLog arguments.source :: generateLog app arguments.options
  | .error _ => []

/-- What is logged once the sketch is in its file. -/
def writtenLog (arguments : Arguments) (app : App) : LogLine :=
  ⟨.info, "Wrote sketch for `" ++ app.name ++ "` to " ++ arguments.output⟩

end Arguments

/-! ## Scripts -/

/-- What a run does: it ends, or it asks for something and goes on with the answer. A request that
fails is answered with the cause, in words. -/
inductive Script where
  | exit (code : UInt32)
  /-- Prints to standard output. -/
  | print (text : String) (next : Except String Unit → Script)
  /-- Prints to standard error. -/
  | tell (text : String) (next : Script)
  | readStandard (next : Document.Input → Script)
  /-- Opens a file and reads it; what is opened may still fail to be read. -/
  | readFile (path : String) (next : Except String Document.Input → Script)
  | writeFile (path : String) (text : String) (next : Except String Unit → Script)

/-- Tells of an error and ends. -/
def Script.failed (error : RunError) : Script :=
  .tell error.report (.exit 1)

namespace Arguments

/-- Puts a sketch where it belongs. -/
def deliver (arguments : Arguments) (app : App) (sketch : String) : Script :=
  if arguments.writesStandard then
    .print sketch fun
      | .ok () => .exit 0
      | .error cause => .failed (.unprinted cause)
  else
    .writeFile arguments.output sketch fun
      | .ok () => .tell (shownLog arguments.verbosity [arguments.writtenLog app]) (.exit 0)
      | .error cause => .failed (.unwritten arguments.output cause)

/-- Makes the sketch of a model that is read from an input. -/
def convert (arguments : Arguments) (input : Document.Input) : Script :=
  .tell (shownLog arguments.verbosity (arguments.sketchLog input))
    (match arguments.sketch input with
    | .ok (app, sketch) => arguments.deliver app sketch
    | .error error => .failed error)

/-- What a command line that asks for a sketch does. -/
def script (arguments : Arguments) : Script :=
  if maxVerbosity < arguments.verbosity then .failed .tooVerbose
  else if arguments.readsStandard then .readStandard arguments.convert
  else
    .readFile arguments.model fun
      | .ok input => arguments.convert input
      | .error cause => .failed (.unopened arguments.model cause)

end Arguments

/-- What a command line does. -/
def script (words : List String) : Script :=
  match Request.ofArguments words with
  | .misuse => .tell misuseText (.exit 2)
  | .help => .print helpText fun _ => .exit 0
  | .version => .print versionText fun _ => .exit 0
  | .run arguments => arguments.script

/-! ## Runs on a tree of files -/

/-- What a file is read as. A directory can be opened, but not read. -/
def FileTree.read (tree : FileTree) (path : String) : Except String Document.Input :=
  match tree.find path with
  | .ok (.file bytes) => .ok ⟨bytes, .complete⟩
  | .ok .directory => .ok ⟨[], .failing FileError.isDirectory.message⟩
  | .error error => .error error.message

/-- How far a run has come: the exit code, what was printed, and the files. -/
structure Outcome where
  code : UInt32 := 0
  stdout : String := ""
  stderr : String := ""
  tree : FileTree
deriving DecidableEq

/-- Goes on with a script on the files of an outcome. What is printed is taken up at once. -/
def Script.perform (standard : List UInt8) : Script → Outcome → Outcome
  | exit code, outcome => { outcome with code }
  | print text next, outcome =>
    (next (.ok ())).perform standard { outcome with stdout := outcome.stdout ++ text }
  | tell text next, outcome =>
    next.perform standard { outcome with stderr := outcome.stderr ++ text }
  | readStandard next, outcome => (next ⟨standard, .complete⟩).perform standard outcome
  | readFile path next, outcome => (next (outcome.tree.read path)).perform standard outcome
  | writeFile path text next, outcome =>
    match outcome.tree.write path (Text.encode text) with
    | .ok tree => (next (.ok ())).perform standard { outcome with tree }
    | .error error => (next (.error error.message)).perform standard outcome

/-- Runs a command line. -/
def run (words : List String) (tree : FileTree) (standard : List UInt8) : Outcome :=
  (script words).perform standard { tree }

end Brickwork.CommandLine
