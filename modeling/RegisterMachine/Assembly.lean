import RegisterMachine.Event
import RegisterMachine.Line
import RegisterMachine.Text.Lines

/-!
# Assembly

The lines of a text become code one by one: a blank line adds nothing, any other adds its
instruction and reports it.  Assembly stops at the first line that holds no instruction or
whose label is already bound, and that line leaves no trace in the code or in the log.
-/

set_option autoImplicit false

namespace RegisterMachine

/-- How the assembly of a text went, with the code that it reached: all of it, or what stands
before the fault. -/
structure Assembly where
  result : Except SourceFault Unit
  code : Code
  log : List Event

namespace Code

def addLine (code : Code) (line : String) : Except Fault (Code × List Event) := do
  match ← Instruction.ofLine line with
  | none => return (code, [])
  | some instruction =>
      let extended ← code.push instruction
      return (extended, [.assembled code.program.size instruction])

def addLines (code : Code) (index : Nat) : List String → Assembly
  | [] => ⟨.ok (), code, []⟩
  | line :: rest =>
      match code.addLine line with
      | .error fault => ⟨.error ⟨index, fault⟩, code, []⟩
      | .ok (extended, log) =>
          let assembly := extended.addLines (index + 1) rest
          { assembly with log := log ++ assembly.log }

/-- Replaces the code by that of a text.  What was there before is forgotten, also when the text
has a fault. -/
def refill (code : Code) (text : String) : Assembly :=
  code.clear.addLines 0 (Text.lines text)

def ofText (text : String) : Except SourceFault Code :=
  let assembly := empty.refill text
  match assembly.result with
  | .ok () => .ok assembly.code
  | .error fault => .error fault

theorem refill_eq (code : Code) (text : String) : code.refill text = empty.refill text := rfl

theorem ofText_eq_error_iff (text : String) (located : SourceFault) :
    ofText text = .error located ↔ (empty.refill text).result = .error located := by
  simp only [ofText]
  cases (empty.refill text).result with
  | ok done => simp
  | error found => simp

theorem ofText_eq_ok_iff (text : String) (code : Code) :
    ofText text = .ok code ↔
      (empty.refill text).result = .ok () ∧ (empty.refill text).code = code := by
  simp only [ofText]
  cases (empty.refill text).result with
  | ok done => simp
  | error found => simp

end Code

end RegisterMachine
