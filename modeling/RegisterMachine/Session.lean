import RegisterMachine.Machine
import RegisterMachine.Options
import RegisterMachine.Source

/-!
# Sessions

A session reads one source, assembles it and runs it on a fresh machine.  Its report holds
what goes to the two streams and the exit code: zero for a run that ended, one for a fault,
two for arguments that make no sense.  What a program prints stays printed when it fails.
-/

set_option autoImplicit false

namespace RegisterMachine

structure Report where
  exitCode : Nat
  stdout : String
  stderr : String
  deriving DecidableEq

namespace Session

def version : String := "smlvm 0.1.0\n"

def help : String :=
  "Translates and runs an SML program\n\n" ++
  "Usage: smlvm [OPTIONS] <FILE>\n\n" ++
  "Arguments:\n" ++
  "  <FILE>  SML source file, one instruction per line\n\n" ++
  "Options:\n" ++
  "  -q, --quiet       Only print what the program itself outputs\n" ++
  "  -v, --verbose...  More log output (-v info, -vv debug, -vvv trace)\n" ++
  "  -h, --help        Print help\n" ++
  "  -V, --version     Print version\n"

def header (program : Program) : String :=
  "Here is the program; it has " ++ Text.decimal program.size ++ " instructions.\n" ++
  program.text ++ "\n" ++
  "Beginning program execution.\n"

def footer (bank : Bank) : String :=
  "Ending program execution.\n" ++
  "Values of registers at program termination: " ++ bank.text ++ ".\n"

/-- A log record on a line of its own.  Levels are padded to one width. -/
def recordLine (event : Event) : String :=
  String.ofList (event.level.name.toList.rightpad 5 ' ') ++ " [" ++ event.reporter ++ "] "
    ++ event.message ++ "\n"

def records (verbosity : Nat) (log : List Event) : String :=
  String.join ((Event.shown verbosity log).map recordLine)

def failure (message : String) : String :=
  "Error: " ++ message ++ "\n"

def failureBecause (message cause : String) : String :=
  failure (message ++ "\n\nCaused by:\n    " ++ cause)

/-- The report on running a source, if there is one. -/
def run (options : Options) (source : Except Fault String) : Report :=
  match source with
  | .error fault => ⟨1, "", failure fault.message⟩
  | .ok text =>
      let (assembly, machine) := (Machine.ofBank Bank.zero).loadText text
      match assembly.result with
      | .error located =>
          ⟨1, "", records options.verbosity assembly.log ++
            failureBecause ("cannot translate " ++ options.file) located.message⟩
      | .ok () =>
          let outcome := machine.run Output.unlimited
          let log := assembly.log ++ [.loaded machine.code] ++ outcome.log
          let opening := if options.quiet then "" else header machine.code.program
          match outcome.result with
          | .ok () =>
              let closing := if options.quiet then "" else footer outcome.state.bank
              ⟨0, opening ++ outcome.sink.text ++ closing, records options.verbosity log⟩
          | .error fault =>
              ⟨1, opening ++ outcome.sink.text, records options.verbosity log ++
                failureBecause "please revise your SML program before attempting to rerun"
                  fault.message⟩

def report (request : Request) (read : String → Except Fault String) : Report :=
  match request with
  | .run options => run options (read options.file)
  | .help => ⟨0, help, ""⟩
  | .version => ⟨0, version, ""⟩
  | .refuse error => ⟨2, "", failure error.message⟩

/-- The report on a list of arguments, with this disk to read from. -/
def reportOn (disk : Disk) (arguments : List String) : Report :=
  report (Request.ofArguments arguments) (Source.read disk)

end Session

end RegisterMachine
