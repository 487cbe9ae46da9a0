import RegisterMachine.Instruction

/-!
# Programs

A program is a sequence of instructions; the place of an instruction in it is its address.
The text of a program is its listing, one instruction a line.
-/

set_option autoImplicit false

namespace RegisterMachine

structure Program where
  instructions : Array Instruction
  deriving DecidableEq

structure AddressOutOfRange where
  address : Nat
  size : Nat
  deriving DecidableEq

def AddressOutOfRange.message (range : AddressOutOfRange) : String :=
  "index out of bounds: the len is " ++ Text.decimal range.size ++ " but the index is "
    ++ Text.decimal range.address

namespace Program

def empty : Program := ⟨#[]⟩

def ofList (instructions : List Instruction) : Program := ⟨instructions.toArray⟩

def toList (program : Program) : List Instruction := program.instructions.toList

def size (program : Program) : Nat := program.instructions.size

def isEmpty (program : Program) : Bool := program.size == 0

def push (program : Program) (instruction : Instruction) : Program :=
  ⟨program.instructions.push instruction⟩

def get? (program : Program) (address : Nat) : Option Instruction :=
  program.instructions[address]?

def fetch (program : Program) (address : Nat) : Except AddressOutOfRange Instruction :=
  match program.get? address with
  | some instruction => .ok instruction
  | none => .error ⟨address, program.size⟩

def clear (_ : Program) : Program := empty

/-- The listing.  The last line has no end. -/
def text (program : Program) : String :=
  "\n".intercalate (program.toList.map Instruction.text)

/-- The two do the same at every address, whatever their labels. -/
def same (left right : Program) : Bool :=
  left.toList.map Instruction.operation == right.toList.map Instruction.operation

/-! ## First facts -/

@[simp] theorem toList_empty : empty.toList = [] := rfl

@[simp] theorem toList_ofList (instructions : List Instruction) :
    (ofList instructions).toList = instructions := rfl

@[simp] theorem toList_push (program : Program) (instruction : Instruction) :
    (program.push instruction).toList = program.toList ++ [instruction] := by
  simp [push, toList]

theorem size_eq_length (program : Program) : program.size = program.toList.length := by
  simp [size, toList]

theorem get?_eq_getElem? (program : Program) (address : Nat) :
    program.get? address = program.toList[address]? := by
  simp [get?, toList]

@[simp] theorem size_push (program : Program) (instruction : Instruction) :
    (program.push instruction).size = program.size + 1 := by
  simp [size, push]

theorem get?_eq_none_iff (program : Program) (address : Nat) :
    program.get? address = none ↔ program.size ≤ address := by
  simp [get?, size]

theorem lt_size_of_get? (program : Program) (address : Nat) (instruction : Instruction)
    (fetched : program.get? address = some instruction) : address < program.size := by
  apply Nat.lt_of_not_le
  intro past
  rw [(get?_eq_none_iff program address).mpr past] at fetched
  contradiction

theorem ext (left right : Program) (agree : left.toList = right.toList) : left = right := by
  cases left
  cases right
  exact congrArg Program.mk (Array.ext' agree)

end Program

end RegisterMachine
