import RegisterMachine.Literal
import RegisterMachine.Register

/-!
# Register banks

A bank gives every register a 32-bit value.  Reading after writing is all that a user of a
bank has to know, together with the fact that a bank is determined by what is read from it.
-/

set_option autoImplicit false

namespace RegisterMachine

structure Bank where
  values : Vector Int32 8
  deriving DecidableEq

namespace Bank

def zero : Bank :=
  ⟨Vector.replicate 8 0⟩

def get (bank : Bank) (register : Register) : Int32 :=
  bank.values[register.position]

def set (bank : Bank) (register : Register) (value : Int32) : Bank :=
  ⟨bank.values.set register.position value⟩

/-- The bank that holds these values and zero elsewhere; of two values for one register the
later one counts. -/
def ofList (values : List (Register × Int32)) : Bank :=
  values.foldl (fun bank entry => bank.set entry.1 entry.2) zero

def toList (bank : Bank) : List Int32 :=
  Register.all.map bank.get

def text (bank : Bank) : String :=
  "[" ++ ", ".intercalate
    (Register.byName.map fun register => register.name ++ " = " ++ Literal.text (bank.get register))
    ++ "]"

/-! ## Reading after writing -/

@[simp] theorem get_zero (register : Register) : zero.get register = 0 := by
  simp [zero, get]

@[simp] theorem get_set_self (bank : Bank) (register : Register) (value : Int32) :
    (bank.set register value).get register = value := by
  simp [get, set]

theorem get_set_of_ne (bank : Bank) (written read : Register) (value : Int32)
    (different : written ≠ read) : (bank.set written value).get read = bank.get read := by
  have positions : (written.position : Nat) ≠ read.position := fun same =>
    different (Register.position_injective written read (Fin.ext same))
  simp [get, set, positions]

theorem get_set (bank : Bank) (written read : Register) (value : Int32) :
    (bank.set written value).get read = if written = read then value else bank.get read := by
  by_cases same : written = read
  · subst same
    simp
  · rw [if_neg same, get_set_of_ne bank written read value same]

theorem ext (left right : Bank) (agree : ∀ register, left.get register = right.get register) :
    left = right := by
  have values : left.values = right.values := by
    apply Vector.ext
    intro index inside
    match index, inside with
    | 0, _ => exact agree .eax
    | 1, _ => exact agree .ebx
    | 2, _ => exact agree .ecx
    | 3, _ => exact agree .edx
    | 4, _ => exact agree .esp
    | 5, _ => exact agree .ebp
    | 6, _ => exact agree .esi
    | 7, _ => exact agree .edi
  cases left
  cases right
  exact congrArg Bank.mk values

@[simp] theorem toList_length (bank : Bank) : bank.toList.length = 8 := rfl

end Bank

end RegisterMachine
