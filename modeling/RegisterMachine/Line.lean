import RegisterMachine.Instruction
import RegisterMachine.WordReader

/-!
# The instruction on a line

A line is blank or holds one instruction: an optional label with a colon behind it, an opcode
and its operands.  What is wrong is reported at the first word that does not fit.
-/

set_option autoImplicit false

namespace RegisterMachine

namespace Line

/-- The label that a word announces: a word that ends in a colon is the label before it. -/
def label? (word : String) : Option String :=
  if word.toList.getLast? = some ':' then some (String.ofList word.toList.dropLast) else none

def heading (first : String) (reader : WordReader) :
    Except Fault (Option String × String × WordReader) :=
  match label? first with
  | none => .ok (none, first, reader)
  | some label =>
      if label = "" then .error (.malformed .emptyLabel)
      else
        match reader.next with
        | (none, _) => .error (.malformed (.labelAlone label))
        | (some opcode, reader) => .ok (some label, opcode, reader)

end Line

def Instruction.ofLine (line : String) : Except Fault (Option Instruction) := do
  let reader ← WordReader.ofLine line
  match reader.next with
  | (none, _) => return none
  | (some first, reader) =>
      let (label, word, reader) ← Line.heading first reader
      match Opcode.ofName? word with
      | none => throw (.unknownOpcode word)
      | some opcode =>
          let (operation, reader) ← reader.operation opcode
          reader.finish
          return some ⟨label, operation⟩

end RegisterMachine
