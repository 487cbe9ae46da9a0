import RegisterMachine.Fault

/-!
# Registers

The eight registers, their names, and their two orders: the order of position, which
comparison follows, and the order of name, in which a bank is shown.
-/

set_option autoImplicit false

namespace RegisterMachine

inductive Register
  | eax | ebx | ecx | edx | esp | ebp | esi | edi
  deriving DecidableEq

namespace Register

def all : List Register :=
  [.eax, .ebx, .ecx, .edx, .esp, .ebp, .esi, .edi]

def position : Register → Fin 8
  | .eax => 0
  | .ebx => 1
  | .ecx => 2
  | .edx => 3
  | .esp => 4
  | .ebp => 5
  | .esi => 6
  | .edi => 7

def name : Register → String
  | .eax => "EAX"
  | .ebx => "EBX"
  | .ecx => "ECX"
  | .edx => "EDX"
  | .esp => "ESP"
  | .ebp => "EBP"
  | .esi => "ESI"
  | .edi => "EDI"

/-- All registers by name. -/
def byName : List Register :=
  [.eax, .ebp, .ebx, .ecx, .edi, .edx, .esi, .esp]

def ofName? (word : String) : Option Register :=
  all.find? fun register => register.name == word

def named (word : String) : Except Fault Register :=
  match ofName? word with
  | some register => .ok register
  | none => .error (.invalidRegister word)

instance : Ord Register where
  compare left right := compare left.position right.position

/-! ## First facts -/

theorem mem_all (register : Register) : register ∈ all := by
  cases register <;> decide

theorem mem_byName (register : Register) : register ∈ byName := by
  cases register <;> decide

theorem all_position (register : Register) : all[register.position.val]? = some register := by
  cases register <;> rfl

theorem position_injective (left right : Register) (same : left.position = right.position) :
    left = right :=
  Option.some.inj ((all_position left).symm.trans (same ▸ all_position right))

@[simp] theorem ofName?_name (register : Register) : ofName? register.name = some register := by
  cases register <;> decide

theorem name_injective (left right : Register) (same : left.name = right.name) :
    left = right :=
  Option.some.inj ((ofName?_name left).symm.trans (same ▸ ofName?_name right))

theorem ofName?_eq_some_iff (word : String) (register : Register) :
    ofName? word = some register ↔ word = register.name := by
  constructor
  · intro found
    have matched := List.find?_some found
    exact (beq_iff_eq.mp matched).symm
  · rintro rfl
    exact ofName?_name register

theorem byName_ordered : (byName.map name).Pairwise fun before after => before < after := by
  decide

end Register

end RegisterMachine
