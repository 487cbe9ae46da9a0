import RegisterMachine.Literal
import RegisterMachine.Register

/-!
# Operations

What an instruction does.  Arithmetic combines two registers into the first of them and is
exact modulo two to the power 32; a division fails when either of its two operands is zero.
The text of an operation is its opcode followed by its operands.
-/

set_option autoImplicit false

namespace RegisterMachine

inductive Arithmetic
  | add | sub | mul | div
  deriving DecidableEq

namespace Arithmetic

/-- The combined value, if there is one.  Division truncates toward zero. -/
def apply : Arithmetic → Int32 → Int32 → Option Int32
  | .add, left, right => some (left + right)
  | .sub, left, right => some (left - right)
  | .mul, left, right => some (left * right)
  | .div, left, right => if left = 0 ∨ right = 0 then none else some (left / right)

theorem apply_eq_none_iff (kind : Arithmetic) (left right : Int32) :
    kind.apply left right = none ↔ kind = .div ∧ (left = 0 ∨ right = 0) := by
  cases kind <;> simp [apply, Classical.or_iff_not_imp_left]

end Arithmetic

inductive Opcode
  | arithmetic (kind : Arithmetic)
  | mov
  | out
  | jnz
  deriving DecidableEq

namespace Opcode

def all : List Opcode :=
  [.arithmetic .add, .arithmetic .sub, .arithmetic .mul, .arithmetic .div, .mov, .out, .jnz]

def name : Opcode → String
  | .arithmetic .add => "add"
  | .arithmetic .sub => "sub"
  | .arithmetic .mul => "mul"
  | .arithmetic .div => "div"
  | .mov => "mov"
  | .out => "out"
  | .jnz => "jnz"

def ofName? (word : String) : Option Opcode :=
  all.find? fun opcode => opcode.name == word

theorem mem_all (opcode : Opcode) : opcode ∈ all := by
  rcases opcode with kind | _ | _ | _
  · cases kind <;> decide
  all_goals decide

@[simp] theorem ofName?_name (opcode : Opcode) : ofName? opcode.name = some opcode := by
  rcases opcode with kind | _ | _ | _
  · cases kind <;> decide
  all_goals decide

theorem ofName?_eq_some_iff (word : String) (opcode : Opcode) :
    ofName? word = some opcode ↔ word = opcode.name := by
  constructor
  · intro found
    have matched := List.find?_some found
    exact (beq_iff_eq.mp matched).symm
  · rintro rfl
    exact ofName?_name opcode

end Opcode

/-- An opcode with its operands.  A jump calls the instruction that its target names, if its
source is not zero. -/
inductive Operation
  | arithmetic (kind : Arithmetic) (result source : Register)
  | mov (result : Register) (value : Int32)
  | out (source : Register)
  | jnz (source : Register) (target : String)
  deriving DecidableEq

namespace Operation

def opcode : Operation → Opcode
  | .arithmetic kind _ _ => .arithmetic kind
  | .mov _ _ => .mov
  | .out _ => .out
  | .jnz _ _ => .jnz

def operands : Operation → List String
  | .arithmetic _ result source => [result.name, source.name]
  | .mov result value => [result.name, Literal.text value]
  | .out source => [source.name]
  | .jnz source target => [source.name, target]

def text (operation : Operation) : String :=
  " ".intercalate (operation.opcode.name :: operation.operands)

end Operation

end RegisterMachine
