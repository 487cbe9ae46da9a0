import RegisterMachine.Code

/-!
# Events

What assembly and execution report while they work, kept as data.  An event has a level of
detail, the part of the machine that reports it, and a message; a log is a list of events in
the order in which they happened.
-/

set_option autoImplicit false

namespace RegisterMachine

inductive Level
  | info | debug | trace
  deriving DecidableEq

def Level.name : Level → String
  | .info => "INFO"
  | .debug => "DEBUG"
  | .trace => "TRACE"

/-- The least verbosity at which a level is shown. -/
def Level.verbosity : Level → Nat
  | .info => 1
  | .debug => 2
  | .trace => 3

inductive Event
  | assembled (address : Nat) (instruction : Instruction)
  | loaded (code : Code)
  | skipped (address : Nat) (instruction : Instruction)
  | executing (instruction : Instruction)
  | notTaken (instruction : Instruction) (source : Register)
  deriving DecidableEq

namespace Event

def level : Event → Level
  | .assembled _ _ => .debug
  | .loaded _ => .info
  | .skipped _ _ => .trace
  | .executing _ => .trace
  | .notTaken _ _ => .debug

def reporter : Event → String
  | .assembled _ _ => "smlvm::sml::asm"
  | .loaded _ => "smlvm"
  | .skipped _ _ => "smlvm::sml::machine"
  | .executing _ => "smlvm::sml::exec"
  | .notTaken _ _ => "smlvm::sml::exec"

def message : Event → String
  | .assembled address instruction => Text.decimalIn 4 address ++ ": " ++ instruction.text
  | .loaded code =>
      "translated " ++ Text.decimal code.program.size ++ " instructions, labels "
        ++ code.labels.text
  | .skipped address instruction =>
      "skip " ++ Text.decimal address ++ ": " ++ instruction.text
  | .executing instruction => "exec " ++ instruction.text
  | .notTaken instruction source =>
      "did not execute `" ++ instruction.text ++ "` as " ++ source.name ++ " = 0"

def text (event : Event) : String :=
  event.level.name ++ " " ++ event.reporter ++ " " ++ event.message

def shown (verbosity : Nat) (log : List Event) : List Event :=
  log.filter fun event => event.level.verbosity ≤ verbosity

end Event

end RegisterMachine
