import RegisterMachine.Bank
import RegisterMachine.Outcome
import RegisterMachine.Sink

/-!
# Execution of one instruction

An operation that is no jump changes one register or prints one line.  A jump whose source is
not zero calls the instruction that its target names, in place and with the same bank; the
called instruction may be a jump again.  Calls nest to a fixed depth, which is what makes
execution end on every code.

The three questions a jump asks come in this order: whether its source is zero, whether its
target names an instruction, and whether one more call is allowed.
-/

set_option autoImplicit false

namespace RegisterMachine

def Bank.line (bank : Bank) (register : Register) : String :=
  register.name ++ " - " ++ Literal.text (bank.get register) ++ "\n"

def maxCalls : Nat := 1024

namespace Code

variable {σ : Type} [Sink σ]

/-- Executes an instruction that may still nest this many calls. -/
def call (code : Code) (bank : Bank) (sink : σ) :
    (callsLeft : Nat) → Instruction → Outcome Unit Bank σ
  | callsLeft, instruction =>
      match instruction.operation with
      | .arithmetic kind result source =>
          match kind.apply (bank.get result) (bank.get source) with
          | some value => ⟨.ok (), bank.set result value, sink, [.executing instruction]⟩
          | none =>
              ⟨.error (.divisionByZero instruction.text), bank, sink, [.executing instruction]⟩
      | .mov result value => ⟨.ok (), bank.set result value, sink, [.executing instruction]⟩
      | .out source =>
          match Sink.write sink (bank.line source) with
          | (.ok (), sink) => ⟨.ok (), bank, sink, [.executing instruction]⟩
          | (.error reason, sink) =>
              ⟨.error (.outputFailed reason), bank, sink, [.executing instruction]⟩
      | .jnz source target =>
          if bank.get source = 0 then
            ⟨.ok (), bank, sink, [.executing instruction, .notTaken instruction source]⟩
          else
            match code.callee? target with
            | none =>
                ⟨.error (.undefinedLabel target), bank, sink, [.executing instruction]⟩
            | some callee =>
                match callsLeft with
                | 0 =>
                    ⟨.error (.jumpTooDeep maxCalls instruction.text), bank, sink,
                      [.executing instruction]⟩
                | callsLeft + 1 =>
                    (code.call bank sink callsLeft callee).after [.executing instruction]

/-- Executes an instruction, whether or not it carries a label. -/
def execute (code : Code) (instruction : Instruction) (bank : Bank) (sink : σ) :
    Outcome Unit Bank σ :=
  code.call bank sink maxCalls instruction

/-! ## What a jump does -/

theorem call_jnz_of_zero (code : Code) (bank : Bank) (sink : σ) (callsLeft : Nat)
    (label : Option String) (source : Register) (target : String)
    (zero : bank.get source = 0) :
    code.call bank sink callsLeft ⟨label, .jnz source target⟩ =
      ⟨.ok (), bank, sink,
        [.executing ⟨label, .jnz source target⟩,
          .notTaken ⟨label, .jnz source target⟩ source]⟩ := by
  rw [call]
  simp [zero]

theorem call_jnz_of_unresolved (code : Code) (bank : Bank) (sink : σ) (callsLeft : Nat)
    (label : Option String) (source : Register) (target : String)
    (nonzero : bank.get source ≠ 0) (unresolved : code.callee? target = none) :
    code.call bank sink callsLeft ⟨label, .jnz source target⟩ =
      ⟨.error (.undefinedLabel target), bank, sink,
        [.executing ⟨label, .jnz source target⟩]⟩ := by
  rw [call]
  simp [nonzero, unresolved]

theorem call_jnz_of_no_calls_left (code : Code) (bank : Bank) (sink : σ)
    (label : Option String) (source : Register) (target : String) (callee : Instruction)
    (nonzero : bank.get source ≠ 0) (resolved : code.callee? target = some callee) :
    code.call bank sink 0 ⟨label, .jnz source target⟩ =
      ⟨.error (.jumpTooDeep maxCalls (Instruction.text ⟨label, .jnz source target⟩)), bank, sink,
        [.executing ⟨label, .jnz source target⟩]⟩ := by
  rw [call]
  simp [nonzero, resolved]

theorem call_jnz_of_resolved (code : Code) (bank : Bank) (sink : σ) (callsLeft : Nat)
    (label : Option String) (source : Register) (target : String) (callee : Instruction)
    (nonzero : bank.get source ≠ 0) (resolved : code.callee? target = some callee) :
    code.call bank sink (callsLeft + 1) ⟨label, .jnz source target⟩ =
      (code.call bank sink callsLeft callee).after
        [.executing ⟨label, .jnz source target⟩] := by
  rw [call]
  simp [nonzero, resolved]

end Code

end RegisterMachine
