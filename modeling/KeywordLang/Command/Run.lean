import KeywordLang.Command.Host
import KeywordLang.Command.Options
import KeywordLang.Dialect.Load

/-!
A run of the compiler: it reads the dialect and the source, compiles, and hands over
the code. What it acts on is left open, so that a run can be carried out in memory as
well.
-/

namespace KeywordLang.Command

open Storage (StorageError)

inductive Failure where
  | dialectUnreadable (path : String) (cause : StorageError)
  | dialectRejected (path : String) (cause : LoadError)
  | sourceUnreadable (path : String) (cause : StorageError)
  | sourceRejected (cause : Diagnostic)
  | codeUnwritable (path : String) (cause : StorageError)
  | codeUnprintable (cause : StorageError)
deriving DecidableEq, Repr

/-- The text of a failure, which names what could not be read or written. -/
def Failure.message : Failure → String
  | .dialectUnreadable path cause => "Reading config " ++ path ++ ": " ++ cause.message
  | .dialectRejected path cause => "Parsing config " ++ path ++ ": " ++ cause.message
  | .sourceUnreadable path cause => "Reading " ++ path ++ ": " ++ cause.message
  | .sourceRejected cause => cause.message
  | .codeUnwritable path cause => "Writing " ++ path ++ ": " ++ cause.message
  | .codeUnprintable cause => "Writing to stdout: " ++ cause.message

/-- The stages that a run reports when it is asked to. -/
inductive Progress where
  | dialectReady (builtins maxNameLength : Nat)
  | sourceLoaded (size : Nat)
  | compiled (mode : Mode) (size : Nat)
  | complete
deriving DecidableEq, Repr

open Text (Decimal.write) in
def Progress.message : Progress → String
  | .dialectReady builtins maxNameLength =>
      "Config ready: " ++ Decimal.write builtins ++ " builtins, symbols up to " ++
        Decimal.write maxNameLength ++ " chars"
  | .sourceLoaded size => "Source loaded, size: " ++ Decimal.write size ++ " bytes"
  | .compiled mode size =>
      "Translated " ++ mode.title ++ " input, " ++ Decimal.write size ++
        " bytes of output"
  | .complete => "Complete!"

section

variable {m : Type → Type} [Monad m]

/-- The stages of a run, each of which may fail. -/
abbrev Stage (m : Type → Type) := ExceptT Failure m

/-- Carries out an access whose failure ends the run. -/
def Stage.access {α : Type} (blame : StorageError → Failure)
    (action : m (Except StorageError α)) : Stage m α :=
  (ExceptT.mk action).adapt blame

/-- Reports a stage, if that is asked for. -/
def Stage.report (host : Host m) (options : Options) (progress : Progress) : Stage m Unit := do
  if options.verbose then host.printError (progress.message ++ "\n")

def loadDialect (host : Host m) : Option String → Stage m Dialect
  | none => return .standard
  | some path => do
      let text ← Stage.access (.dialectUnreadable path) (host.readText (.parse path))
      match Dialect.load text with
      | .ok d => return d
      | .error cause => throw (.dialectRejected path cause)

/-- Hands over the code, to a file or to the standard output. -/
def deliver (host : Host m) (code : String) : Option String → Stage m Unit
  | none => Stage.access .codeUnprintable (host.print code)
  | some path => do
      Stage.access (.codeUnwritable path) (host.makeParent (.parse path))
      Stage.access (.codeUnwritable path) (host.writeText (.parse path) code)

/-- Compiles the source of a run. -/
def compileFiles (host : Host m) (options : Options) : Stage m Unit := do
  let d ← loadDialect host options.dialect
  Stage.report host options (.dialectReady d.builtins.length d.maxNameLength)
  let source ←
    Stage.access (.sourceUnreadable options.input)
      (host.readText (.parse options.input))
  Stage.report host options (.sourceLoaded source.utf8ByteSize)
  match compile d options.mode source with
  | .error cause => throw (.sourceRejected cause)
  | .ok code =>
      Stage.report host options (.compiled options.mode code.utf8ByteSize)
      deliver host code options.output
      Stage.report host options .complete

/-- Runs the compiler with options. The result is the exit status. -/
def runOptions (host : Host m) (options : Options) : m UInt32 := do
  match ← (compileFiles host options).run with
  | .ok () => return 0
  | .error failure =>
      host.printError (failure.message ++ "\n")
      return 1

def versionText : String := "gostc 0.1.0\n"

def helpText : String :=
  "Usage: gostc [OPTIONS] <INPUT>\n\n" ++
  "  -o, --output <FILE>   Output file (stdout when omitted)\n" ++
  "  -c, --config <FILE>   JSON file overriding keywords, builtins and limits\n" ++
  "  -m, --mode <MODE>     What the input contains: module or expression\n" ++
  "  -v, --verbose         Report progress on stderr\n" ++
  "  -h, --help            Print help\n" ++
  "  -V, --version         Print version\n"

/-- Runs the program with the arguments of its command line. The result is the exit
status. That a text about the program cannot be printed does not count as a failure. -/
def run (host : Host m) (arguments : List String) : m UInt32 := do
  match Options.parse arguments with
  | .ok options => runOptions host options
  | .error .version =>
      let _ ← host.print versionText
      return 0
  | .error .help =>
      let _ ← host.print helpText
      return 0
  | .error (.usage e) =>
      host.printError ("error: " ++ e.message ++ "\n\n" ++ helpText)
      return 2

end

end KeywordLang.Command
