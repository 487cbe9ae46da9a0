import RegisterMachine.Labels
import RegisterMachine.Program

/-!
# Code

A program together with the table of its labels.  Nothing forces the two to agree: a table
may bind names that no instruction carries, and addresses past the end of the program.  Code
that is built by `push` does agree.
-/

set_option autoImplicit false

namespace RegisterMachine

structure Code where
  program : Program
  labels : Labels
  deriving DecidableEq

namespace Code

def empty : Code := ⟨Program.empty, Labels.empty⟩

def clear (code : Code) : Code := ⟨code.program.clear, code.labels.clear⟩

def callee? (code : Code) (name : String) : Option Instruction :=
  match code.labels.address? name with
  | some address => code.program.get? address
  | none => none

/-- Puts an instruction behind the others and binds its label to its address. -/
def push (code : Code) (instruction : Instruction) : Except Fault Code :=
  match instruction.label with
  | none => .ok ⟨code.program.push instruction, code.labels⟩
  | some label =>
      match code.labels.insert label code.program.size with
      | .ok labels => .ok ⟨code.program.push instruction, labels⟩
      | .error fault => .error fault

/-- The two are the same up to the labels that instructions carry. -/
def same (left right : Code) : Bool :=
  left.labels.same right.labels && left.program.same right.program

/-! ## First facts -/

@[simp] theorem clear_eq_empty (code : Code) : code.clear = empty := rfl

theorem push_program (code extended : Code) (instruction : Instruction)
    (success : code.push instruction = .ok extended) :
    extended.program = code.program.push instruction := by
  unfold push at success
  split at success
  · cases success
    rfl
  · split at success
    · cases success
      rfl
    · contradiction

end Code

end RegisterMachine
