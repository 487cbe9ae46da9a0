import RegisterMachine.Operation

/-!
# Instructions

An instruction is an operation with or without a label.  The label says how an instruction is
reached and not what it does, so two instructions count as the same when their operations are.
-/

set_option autoImplicit false

namespace RegisterMachine

structure Instruction where
  label : Option String
  operation : Operation
  deriving DecidableEq

namespace Instruction

def isLabelled (instruction : Instruction) : Bool :=
  instruction.label.isSome

def text (instruction : Instruction) : String :=
  match instruction.label with
  | some label => label ++ ": " ++ instruction.operation.text
  | none => instruction.operation.text

/-- The two do the same, whatever their labels. -/
def same (left right : Instruction) : Bool :=
  left.operation == right.operation

@[simp] theorem text_unlabelled (operation : Operation) :
    text ⟨none, operation⟩ = operation.text := rfl

@[simp] theorem text_labelled (label : String) (operation : Operation) :
    text ⟨some label, operation⟩ = label ++ ": " ++ operation.text := rfl

theorem same_iff (left right : Instruction) :
    left.same right = true ↔ left.operation = right.operation := by
  simp [same]

end Instruction

end RegisterMachine
