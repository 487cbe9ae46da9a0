import RegisterMachine.Operation
import RegisterMachine.Text.Blank

/-!
# Reading a line word by word

A reader holds what is left of a line.  It is opened on a trimmed line with few enough blanks
inside, gives its words from left to right, and reads operands: a register, a literal or a
label.  A missing register or literal is read as the empty word, which is neither.
-/

set_option autoImplicit false

namespace RegisterMachine

structure WordReader where
  rest : List Char
  deriving DecidableEq

namespace WordReader

/-- A trimmed line holds at most this many blanks: enough for a label, an opcode and two
operands. -/
def maxBlanks : Nat := 3

def ofLine (line : String) : Except Fault WordReader :=
  let trimmed := Text.trim line.toList
  if maxBlanks < Text.blankCount trimmed then
    .error (.malformed (.tooManyBlanks maxBlanks (String.ofList trimmed)))
  else .ok ⟨trimmed⟩

/-- The next word, if there is one, and the reader behind it. -/
def next (reader : WordReader) : Option String × WordReader :=
  match Text.trimStart reader.rest with
  | [] => (none, ⟨[]⟩)
  | c :: rest =>
      (some (String.ofList (c :: rest.takeWhile fun c => !Text.isBlank c)),
        ⟨rest.dropWhile fun c => !Text.isBlank c⟩)

def finish (reader : WordReader) : Except Fault Unit :=
  match reader.next with
  | (none, _) => .ok ()
  | (some word, _) => .error (.malformed (.unexpectedOperand word))

/-! ## Operands -/

def register (reader : WordReader) : Except Fault (Register × WordReader) :=
  let (word, reader) := reader.next
  match Register.named (word.getD "") with
  | .ok register => .ok (register, reader)
  | .error fault => .error fault

def literal (reader : WordReader) : Except Fault (Int32 × WordReader) :=
  let (word, reader) := reader.next
  match Literal.parse? (word.getD "") with
  | some value => .ok (value, reader)
  | none => .error (.invalidLiteral (word.getD ""))

def target (reader : WordReader) : Except Fault (String × WordReader) :=
  match reader.next with
  | (some word, reader) => .ok (word, reader)
  | (none, _) => .error (.malformed .missingTarget)

def operation (opcode : Opcode) (reader : WordReader) :
    Except Fault (Operation × WordReader) :=
  match opcode with
  | .arithmetic kind => do
      let (result, reader) ← reader.register
      let (source, reader) ← reader.register
      return (.arithmetic kind result source, reader)
  | .mov => do
      let (result, reader) ← reader.register
      let (value, reader) ← reader.literal
      return (.mov result value, reader)
  | .out => do
      let (source, reader) ← reader.register
      return (.out source, reader)
  | .jnz => do
      let (source, reader) ← reader.register
      let (target, reader) ← reader.target
      return (.jnz source target, reader)

/-! ## First facts -/

theorem next_rest_length_lt (reader : WordReader) (word : String)
    (found : reader.next.1 = some word) :
    reader.next.2.rest.length < reader.rest.length := by
  have shorter : (Text.trimStart reader.rest).length ≤ reader.rest.length :=
    (List.dropWhile_sublist _).length_le
  cases start : Text.trimStart reader.rest with
  | nil => simp [next, start] at found
  | cons c rest =>
      have behind : (rest.dropWhile fun c => !Text.isBlank c).length ≤ rest.length :=
        (List.dropWhile_sublist _).length_le
      rw [start, List.length_cons] at shorter
      simp only [next, start]
      omega

end WordReader

end RegisterMachine
