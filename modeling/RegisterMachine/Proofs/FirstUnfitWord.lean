import Mathlib.Order.Bounds.Basic
import RegisterMachine.Proofs.Listing

/-!
# The first word that does not fit

A line that holds no instruction has a beginning, in words, with which some other line does hold
one, and the longest such beginning ends where the fault is.  The fault is about the word behind
it, which is not of the kind that could go on from there, or about the end of the line.  What can
go on is said here of the language of all lines; that reading keeps to it is shown by following
the words one by one, with what is still expected.
-/

set_option autoImplicit false

namespace RegisterMachine

open Text (words)

namespace Line

/-- Some line that holds an instruction begins with these words. -/
def Viable (beginning : List String) : Prop :=
  ∃ line instruction, Instruction.ofLine line = .ok (some instruction) ∧
    beginning <+: words line.toList

def Complete (whole : List String) : Prop :=
  ∃ line instruction, Instruction.ofLine line = .ok (some instruction) ∧
    words line.toList = whole

inductive Operand
  | register
  | literal
  | target

/-- The kinds of words, by their places in a line. -/
inductive Slot
  | heading
  | opcode
  | operand (kind : Operand)

def Operand.Admits : Operand → String → Prop
  | .register, word => ∃ register : Register, word = register.name
  | .literal, word => ∃ value, Literal.parse? word = some value
  | .target, _ => True

def Slot.Admits : Slot → String → Prop
  | .heading, word =>
      (∃ label, label ≠ "" ∧ word = label ++ ":") ∨ ∃ opcode : Opcode, word = opcode.name
  | .opcode, word => ∃ opcode : Opcode, word = opcode.name
  | .operand kind, word => kind.Admits word

/-- The words with which a line can go on behind this beginning are those of one kind. -/
def Expects (beginning : List String) (slot : Slot) : Prop :=
  ∀ word, Text.IsWord word → (Viable (beginning ++ [word]) ↔ slot.Admits word)

/-- What is wrong with a line that begins well, and goes on with a word that does not fit or ends
too early. -/
inductive Blame (beginning : List String) : Option String → Fault → Prop
  | emptyLabel (leading : beginning = []) : Blame beginning (some ":") (.malformed .emptyLabel)
  | noHeading (word : String) (expected : Expects beginning .heading) (other : word ≠ ":") :
      Blame beginning (some word) (.unknownOpcode word)
  | noOpcode (word : String) (expected : Expects beginning .opcode) :
      Blame beginning (some word) (.unknownOpcode word)
  | noRegister (word : String) (expected : Expects beginning (.operand .register)) :
      Blame beginning (some word) (.invalidRegister word)
  | noLiteral (word : String) (expected : Expects beginning (.operand .literal)) :
      Blame beginning (some word) (.invalidLiteral word)
  | surplus (word : String) (complete : Complete beginning) :
      Blame beginning (some word) (.malformed (.unexpectedOperand word))
  | labelAlone (label : String) (lone : beginning = [label ++ ":"]) :
      Blame beginning none (.malformed (.labelAlone label))
  | missingRegister (expected : Expects beginning (.operand .register)) :
      Blame beginning none (.invalidRegister "")
  | missingLiteral (expected : Expects beginning (.operand .literal)) :
      Blame beginning none (.invalidLiteral "")
  | missingTarget (expected : Expects beginning (.operand .target)) :
      Blame beginning none (.malformed .missingTarget)

/-! ## Reading word by word -/

def Operand.check : Operand → String → Except Fault Unit
  | .register, word => (Register.named word).map fun _ => ()
  | .literal, word =>
      match Literal.parse? word with
      | some _ => .ok ()
      | none => .error (.invalidLiteral word)
  | .target, _ => .ok ()

def Operand.missing : Operand → Fault
  | .register => .invalidRegister ""
  | .literal => .invalidLiteral ""
  | .target => .malformed .missingTarget

/-- What is still expected of a line.  A label is kept until its opcode is there. -/
inductive Stage
  | heading
  | opcode (label : String)
  | operands (kinds : List Operand)

end Line

def Opcode.operandKinds : Opcode → List Line.Operand
  | .arithmetic _ => [.register, .register]
  | .mov => [.register, .literal]
  | .out => [.register]
  | .jnz => [.register, .target]

namespace Line.Stage

def ofOpcode (word : String) : Except Fault Stage :=
  match Opcode.ofName? word with
  | some found => .ok (.operands found.operandKinds)
  | none => .error (.unknownOpcode word)

def next : Stage → String → Except Fault Stage
  | .heading, word =>
      match label? word with
      | none => ofOpcode word
      | some label => if label = "" then .error (.malformed .emptyLabel) else .ok (.opcode label)
  | .opcode _, word => ofOpcode word
  | .operands [], word => .error (.malformed (.unexpectedOperand word))
  | .operands (kind :: kinds), word => (kind.check word).map fun _ => .operands kinds

def ended : Stage → Except Fault Unit
  | .heading => .ok ()
  | .opcode label => .error (.malformed (.labelAlone label))
  | .operands [] => .ok ()
  | .operands (kind :: _) => .error kind.missing

def follow : Stage → List String → Except Fault Stage
  | stage, [] => .ok stage
  | stage, word :: words => stage.next word >>= fun after => after.follow words

def read (stage : Stage) (words : List String) : Except Fault Unit :=
  stage.follow words >>= ended

def Stops (stage : Stage) : Option String → Fault → Prop
  | some word, fault => stage.next word = .error fault
  | none, fault => stage.ended = .error fault

def slot? : Stage → Option Slot
  | .heading => some .heading
  | .opcode _ => some .opcode
  | .operands [] => none
  | .operands (kind :: _) => some (.operand kind)

theorem read_cons (stage : Stage) (word : String) (words : List String) :
    stage.read (word :: words) = stage.next word >>= fun after => after.read words := by
  rw [read, follow]
  cases stage.next word with
  | error fault => rfl
  | ok after => rfl

theorem follow_append (stage : Stage) (before rest : List String) :
    stage.follow (before ++ rest) = stage.follow before >>= fun after => after.follow rest := by
  induction before generalizing stage with
  | nil => rfl
  | cons word before ih =>
      rw [List.cons_append, follow, follow]
      cases stage.next word with
      | error fault => rfl
      | ok after => exact ih after

/-! ## Following the words is reading them -/

theorem read_register (kinds : List Operand) (words : List String) :
    (operands (.register :: kinds)).read words =
      registerOf words >>= fun found => (operands kinds).read found.2 := by
  cases words with
  | nil => rfl
  | cons word words =>
      rw [read_cons, next, Operand.check, registerOf, List.head?_cons, Option.getD_some,
        List.tail_cons]
      cases Register.named word with
      | error fault => rfl
      | ok register => rfl

theorem read_literal (kinds : List Operand) (words : List String) :
    (operands (.literal :: kinds)).read words =
      literalOf words >>= fun found => (operands kinds).read found.2 := by
  cases words with
  | nil => rfl
  | cons word words =>
      rw [read_cons, next, Operand.check, literalOf, List.head?_cons, Option.getD_some,
        List.tail_cons]
      cases Literal.parse? word with
      | none => rfl
      | some value => rfl

theorem read_target (kinds : List Operand) (words : List String) :
    (operands (.target :: kinds)).read words =
      targetOf words >>= fun found => (operands kinds).read found.2 := by
  cases words with
  | nil => rfl
  | cons word words => rfl

theorem read_end (words : List String) : (operands []).read words = finishOf words := by
  cases words with
  | nil => rfl
  | cons word words => rfl

theorem read_operandKinds (opcode : Opcode) (words : List String) :
    (operands opcode.operandKinds).read words =
      operationOf opcode words >>= fun found => finishOf found.2 := by
  cases opcode with
  | arithmetic kind =>
      simp only [Opcode.operandKinds, read_register, read_end, operationOf, bind_assoc]
      rfl
  | mov =>
      simp only [Opcode.operandKinds, read_register, read_literal, read_end, operationOf, bind_assoc]
      rfl
  | out =>
      simp only [Opcode.operandKinds, read_register, read_end, operationOf, bind_assoc]
      rfl
  | jnz =>
      simp only [Opcode.operandKinds, read_register, read_target, read_end, operationOf, bind_assoc]
      rfl

theorem read_ofOpcode (label : Option String) (word : String) (words : List String) :
    (ofOpcode word >>= fun stage => stage.read words) =
      (bodyOf label word words).map fun _ => () := by
  rw [ofOpcode, bodyOf]
  cases Opcode.ofName? word with
  | none => rfl
  | some opcode =>
      simp only [ok_bind, read_operandKinds]
      cases operationOf opcode words with
      | error fault => rfl
      | ok found =>
          simp only [ok_bind]
          cases finishOf found.2 with
          | error fault => rfl
          | ok done => rfl

theorem read_heading (words : List String) :
    heading.read words = (Instruction.ofWords words).map fun _ => () := by
  cases words with
  | nil => rfl
  | cons first words =>
      rw [read_cons, next, Instruction.ofWords, headingOf]
      cases label? first with
      | none => exact read_ofOpcode none first words
      | some label =>
          by_cases empty : label = ""
          · simp only [empty, if_true]
            rfl
          · simp only [if_neg empty, ok_bind]
            cases words with
            | nil => rfl
            | cons word words =>
                rw [read_cons, next]
                exact read_ofOpcode (some label) word words

/-! ## What can go on -/

theorem ofOpcode_eq_ok_iff (word : String) (stage : Stage) :
    ofOpcode word = .ok stage ↔
      ∃ found : Opcode, word = found.name ∧ stage = .operands found.operandKinds := by
  simp only [← Opcode.ofName?_eq_some_iff, ofOpcode]
  cases Opcode.ofName? word with
  | none => simp
  | some found => simp [eq_comm]

theorem fault_of_ofOpcode (word : String) (fault : Fault) (failed : ofOpcode word = .error fault) :
    fault = .unknownOpcode word := by
  unfold ofOpcode at failed
  split at failed
  · contradiction
  · exact (Except.error.inj failed).symm

theorem check_eq_ok_iff (kind : Operand) (word : String) :
    kind.check word = .ok () ↔ kind.Admits word := by
  cases kind with
  | register =>
      simp only [Operand.check, Operand.Admits, ← Register.named_eq_ok_iff]
      cases Register.named word with
      | error fault => simp [Except.map]
      | ok register => simp [Except.map]
  | literal =>
      simp only [Operand.check, Operand.Admits]
      cases Literal.parse? word with
      | none => simp
      | some value => simp
  | target => simp [Operand.check, Operand.Admits]

theorem next_label (label : String) :
    heading.next (label ++ ":") =
      if label = "" then .error (.malformed .emptyLabel) else .ok (.opcode label) := by
  rw [next, (label?_eq_some_iff _ label).mpr rfl]

theorem fault_of_heading (word : String) (fault : Fault)
    (failed : heading.next word = .error fault) :
    word = ":" ∧ fault = .malformed .emptyLabel ∨ word ≠ ":" ∧ fault = .unknownOpcode word := by
  rw [next] at failed
  cases announced : label? word with
  | none =>
      rw [announced] at failed
      refine Or.inr ⟨?_, fault_of_ofOpcode word fault failed⟩
      rintro rfl
      contradiction
  | some label =>
      simp only [announced] at failed
      split at failed
      · next empty =>
          rw [(label?_eq_some_iff word label).mp announced, empty]
          exact Or.inl ⟨rfl, (Except.error.inj failed).symm⟩
      · contradiction

theorem fault_of_operand (kind : Operand) (kinds : List Operand) (word : String) (fault : Fault)
    (failed : (operands (kind :: kinds)).next word = .error fault) :
    kind = .register ∧ fault = .invalidRegister word ∨
      kind = .literal ∧ fault = .invalidLiteral word := by
  rw [next] at failed
  cases kind with
  | register =>
      rw [Operand.check, Register.named] at failed
      split at failed
      · cases failed
      · cases failed
        exact Or.inl ⟨rfl, rfl⟩
  | literal =>
      rw [Operand.check] at failed
      split at failed
      · cases failed
      · cases failed
        exact Or.inr ⟨rfl, rfl⟩
  | target => contradiction

theorem slot?_eq_heading_iff (stage : Stage) : stage.slot? = some .heading ↔ stage = .heading := by
  rcases stage with _ | _ | (_ | _) <;> simp [slot?]

theorem slot?_eq_opcode_iff (stage : Stage) :
    stage.slot? = some .opcode ↔ ∃ label, stage = .opcode label := by
  rcases stage with _ | _ | (_ | _) <;> simp [slot?]

theorem slot?_eq_operand_iff (stage : Stage) (kind : Operand) :
    stage.slot? = some (.operand kind) ↔ ∃ kinds, stage = .operands (kind :: kinds) := by
  rcases stage with _ | _ | (_ | _) <;> simp [slot?]

theorem next_isOk_iff (stage : Stage) (word : String) :
    (∃ after, stage.next word = .ok after) ↔
      ∃ slot, stage.slot? = some slot ∧ slot.Admits word := by
  have opcodes : (∃ after, ofOpcode word = .ok after) ↔
      ∃ found : Opcode, word = found.name := by
    simp only [ofOpcode_eq_ok_iff]
    exact ⟨fun ⟨_, found, same, _⟩ => ⟨found, same⟩, fun ⟨found, same⟩ => ⟨_, found, same, rfl⟩⟩
  cases stage with
  | heading =>
      simp only [slot?, Option.some.injEq, exists_eq_left', Slot.Admits, next,
        ← label?_eq_some_iff]
      cases announced : label? word with
      | none => simpa using opcodes
      | some label =>
          have noOpcode : ¬ ∃ found : Opcode, word = found.name := by
            rintro ⟨found, rfl⟩
            rw [label?_opcode] at announced
            contradiction
          by_cases empty : label = ""
          · simp [empty, noOpcode]
          · simp [empty]
  | opcode label => simpa [slot?, Slot.Admits, next] using opcodes
  | operands kinds =>
      cases kinds with
      | nil => simp [slot?, next]
      | cons kind kinds =>
          simp only [slot?, Option.some.injEq, exists_eq_left', Slot.Admits, next,
            ← check_eq_ok_iff]
          cases kind.check word with
          | error fault => simp [Except.map]
          | ok done => simp [Except.map]

theorem next_ne_heading (stage : Stage) (word : String) : stage.next word ≠ .ok .heading := by
  have behindOpcode : ofOpcode word ≠ .ok .heading := by
    rw [Ne, ofOpcode_eq_ok_iff]
    rintro ⟨found, -, other⟩
    contradiction
  cases stage with
  | heading =>
      rw [next]
      split
      · exact behindOpcode
      · split <;> simp
  | opcode label => exact behindOpcode
  | operands kinds =>
      cases kinds with
      | nil => simp [next]
      | cons kind kinds =>
          rw [next]
          cases kind.check word with
          | error fault => simp [Except.map]
          | ok done => simp [Except.map]

theorem eq_heading_of_next_opcode (stage : Stage) (word label : String)
    (read : stage.next word = .ok (.opcode label)) :
    stage = .heading ∧ word = label ++ ":" := by
  have behindOpcode : ofOpcode word ≠ .ok (.opcode label) := by
    rw [Ne, ofOpcode_eq_ok_iff]
    rintro ⟨found, -, other⟩
    contradiction
  cases stage with
  | heading =>
      rw [next] at read
      split at read
      · exact absurd read behindOpcode
      · next name announced =>
          split at read
          · contradiction
          · cases read
            exact ⟨rfl, (label?_eq_some_iff word label).mp announced⟩
  | opcode other => exact absurd read behindOpcode
  | operands kinds =>
      cases kinds with
      | nil => contradiction
      | cons kind kinds =>
          rw [next] at read
          cases checked : kind.check word with
          | error fault =>
              rw [checked] at read
              contradiction
          | ok done =>
              rw [checked] at read
              cases read

theorem eq_nil_of_follow_heading (stage : Stage) (words : List String)
    (followed : stage.follow words = .ok .heading) : words = [] := by
  induction words generalizing stage with
  | nil => rfl
  | cons word words ih =>
      obtain ⟨after, read, rest⟩ := (bind_eq_ok_iff _ _ _).mp followed
      obtain rfl := ih after rest
      cases rest
      exact absurd read (next_ne_heading stage word)

theorem eq_singleton_of_follow_opcode (words : List String) (label : String)
    (followed : heading.follow words = .ok (.opcode label)) : words = [label ++ ":"] := by
  rcases List.eq_nil_or_concat words with rfl | ⟨front, last, rfl⟩
  · cases followed
  · rw [List.concat_eq_append, follow_append] at followed
    obtain ⟨before, earlier, rest⟩ := (bind_eq_ok_iff _ _ _).mp followed
    obtain ⟨after, read, same⟩ := (bind_eq_ok_iff _ _ _).mp rest
    cases same
    obtain ⟨rfl, rfl⟩ := eq_heading_of_next_opcode before last label read
    rw [eq_nil_of_follow_heading heading front earlier]
    rfl

end Stage

/-! ## Completing a line -/

def Operand.sample : Operand → String
  | .register => "EAX"
  | .literal => "0"
  | .target => "a"

theorem Operand.isWord_sample (kind : Operand) : Text.IsWord kind.sample := by
  cases kind <;> exact Text.isWord_of_all (by decide) (by decide)

theorem Operand.check_sample (kind : Operand) : kind.check kind.sample = .ok () := by
  cases kind <;> decide +kernel

namespace Stage

theorem read_append_of_ok (stage after : Stage) (before rest : List String)
    (followed : stage.follow before = .ok after) :
    stage.read (before ++ rest) = after.read rest := by
  rw [read, follow_append, followed]
  rfl

theorem read_samples (kinds : List Operand) :
    (operands kinds).read (kinds.map Operand.sample) = .ok () := by
  induction kinds with
  | nil => rfl
  | cons kind kinds ih =>
      rw [List.map_cons, read_cons, next, kind.check_sample]
      exact ih

/-- Whatever is expected, there are words that bring the line to an end. -/
theorem exists_completion (stage : Stage) :
    ∃ rest, (∀ word ∈ rest, Text.IsWord word) ∧ stage.read rest = .ok () ∧
      (stage = .heading → rest ≠ []) := by
  have print : ∀ word ∈ ["out", "EAX"], Text.IsWord word := by
    intro word member
    simp only [List.mem_cons, List.not_mem_nil, or_false] at member
    rcases member with rfl | rfl
    · exact Text.isWord_opcode .out
    · exact Text.isWord_register .eax
  cases stage with
  | heading => exact ⟨["out", "EAX"], print, by decide +kernel, by simp⟩
  | opcode label => exact ⟨["out", "EAX"], print, rfl, by simp⟩
  | operands kinds =>
      refine ⟨kinds.map Operand.sample, ?_, read_samples kinds, by simp⟩
      intro word member
      obtain ⟨kind, -, rfl⟩ := List.mem_map.mp member
      exact kind.isWord_sample

end Stage

theorem read_of_ofLine (line : String) (instruction : Instruction)
    (read : Instruction.ofLine line = .ok (some instruction)) :
    Stage.heading.read (words line.toList) = .ok () := by
  have spelled := ((Instruction.ofLine_eq_some_iff line instruction).mp read).2
  rw [Stage.read_heading, (Instruction.ofWords_eq_some_iff _ instruction).mpr spelled]
  rfl

theorem complete_of_read (whole : List String) (areWords : ∀ word ∈ whole, Text.IsWord word)
    (nonempty : whole ≠ []) (read : Stage.heading.read whole = .ok ()) : Complete whole := by
  rw [Stage.read_heading] at read
  cases made : Instruction.ofWords whole with
  | error fault =>
      rw [made] at read
      contradiction
  | ok found =>
      cases found with
      | none => exact absurd ((Instruction.ofWords_eq_none_iff whole).mp made) nonempty
      | some instruction =>
          have spelled := (Instruction.ofWords_eq_some_iff whole instruction).mp made
          have same := Text.words_intercalate whole areWords
          have few := spelled.length_le
          have blanks := Text.blankCount_intercalate whole areWords
          have trimmed := Text.blankCount_trim_le (" ".intercalate whole).toList
          refine ⟨" ".intercalate whole, instruction, ?_, same⟩
          rw [Instruction.ofLine_eq_some_iff, same]
          exact ⟨by omega, spelled⟩

/-- A line can begin with these words exactly when they can be followed. -/
theorem viable_iff (beginning : List String) :
    Viable beginning ↔ (∀ word ∈ beginning, Text.IsWord word) ∧
      ∃ stage, Stage.heading.follow beginning = .ok stage := by
  constructor
  · rintro ⟨line, instruction, accepted, rest, whole⟩
    constructor
    · intro word member
      apply Text.isWord_of_mem_words line.toList
      rw [← whole]
      exact List.mem_append_left _ member
    · have read := read_of_ofLine line instruction accepted
      rw [← whole, Stage.read, Stage.follow_append] at read
      obtain ⟨last, followed, -⟩ := (bind_eq_ok_iff _ _ _).mp read
      obtain ⟨stage, first, -⟩ := (bind_eq_ok_iff _ _ _).mp followed
      exact ⟨stage, first⟩
  · rintro ⟨areWords, stage, followed⟩
    obtain ⟨rest, restWords, ends, goesOn⟩ := stage.exists_completion
    have nonempty : beginning ++ rest ≠ [] := by
      intro empty
      obtain ⟨rfl, rfl⟩ := List.append_eq_nil_iff.mp empty
      cases followed
      exact goesOn rfl rfl
    have allWords : ∀ word ∈ beginning ++ rest, Text.IsWord word := by
      intro word member
      rcases List.mem_append.mp member with first | later
      · exact areWords word first
      · exact restWords word later
    obtain ⟨line, instruction, accepted, same⟩ := complete_of_read _ allWords nonempty
      ((Stage.read_append_of_ok _ _ _ _ followed).trans ends)
    exact ⟨line, instruction, accepted, rest, same.symm⟩

/-! ## What is expected -/

instance decidableOperand (kind : Operand) (word : String) : Decidable (kind.Admits word) :=
  decidable_of_iff (kind.check word = .ok ()) (Stage.check_eq_ok_iff kind word)

instance decidableOpcode (word : String) : Decidable (∃ opcode : Opcode, word = opcode.name) :=
  decidable_of_iff ((Opcode.ofName? word).isSome = true) (by
    simp only [Option.isSome_iff_exists, Opcode.ofName?_eq_some_iff])

instance decidableLabel (word : String) :
    Decidable (∃ label, label ≠ "" ∧ word = label ++ ":") :=
  decidable_of_iff (∃ label ∈ label? word, label ≠ "") (by
    simp only [Option.mem_def, label?_eq_some_iff, and_comm])

instance decidableSlot (slot : Slot) (word : String) : Decidable (slot.Admits word) :=
  match slot with
  | .heading => inferInstanceAs (Decidable (_ ∨ _))
  | .opcode => inferInstanceAs (Decidable (∃ opcode : Opcode, word = opcode.name))
  | .operand kind => inferInstanceAs (Decidable (kind.Admits word))

def Slot.probe (slot : Slot) : List Bool :=
  ["a:", "add", "EAX", "0"].map fun word => slot.Admits word

theorem Slot.eq_of_admits (left right : Slot)
    (agree : ∀ word, Text.IsWord word → (left.Admits word ↔ right.Admits word)) :
    left = right := by
  have same : left.probe = right.probe := by
    apply List.map_congr_left
    intro word member
    apply decide_eq_decide.mpr
    apply agree
    simp only [List.mem_cons, List.not_mem_nil, or_false] at member
    rcases member with rfl | rfl | rfl | rfl <;> exact Text.isWord_of_all (by decide) (by decide)
  rcases left with _ | _ | (_ | _ | _) <;> rcases right with _ | _ | (_ | _ | _) <;>
    first
    | rfl
    | exact absurd same (by decide +kernel)

theorem Slot.exists_admitted (slot : Slot) : ∃ word, Text.IsWord word ∧ slot.Admits word := by
  cases slot with
  | heading => exact ⟨_, Text.isWord_opcode .out, .inr ⟨.out, rfl⟩⟩
  | opcode => exact ⟨_, Text.isWord_opcode .out, .out, rfl⟩
  | operand kind =>
      exact ⟨kind.sample, kind.isWord_sample, (Stage.check_eq_ok_iff _ _).mp kind.check_sample⟩

section Followed

variable {beginning : List String} {stage : Stage}

theorem viable_concat_iff (areWords : ∀ word ∈ beginning, Text.IsWord word)
    (followed : Stage.heading.follow beginning = .ok stage) (word : String)
    (isWord : Text.IsWord word) :
    Viable (beginning ++ [word]) ↔ ∃ after, stage.next word = .ok after := by
  have allWords : ∀ other ∈ beginning ++ [word], Text.IsWord other := by
    intro other member
    rcases List.mem_append.mp member with first | last
    · exact areWords other first
    · rw [List.mem_singleton.mp last]
      exact isWord
  have once (after : Stage) : stage.follow [word] = .ok after ↔ stage.next word = .ok after := by
    rw [Stage.follow]
    cases stage.next word with
    | error fault => rfl
    | ok reached => rfl
  rw [viable_iff, and_iff_right allWords]
  simp only [Stage.follow_append, followed, ok_bind, once]

theorem expects_of_slot (areWords : ∀ word ∈ beginning, Text.IsWord word)
    (followed : Stage.heading.follow beginning = .ok stage) (slot : Slot)
    (expected : stage.slot? = some slot) : Expects beginning slot := by
  intro word isWord
  rw [viable_concat_iff areWords followed word isWord, Stage.next_isOk_iff, expected]
  simp

theorem slot_of_expects (areWords : ∀ word ∈ beginning, Text.IsWord word)
    (followed : Stage.heading.follow beginning = .ok stage) (slot : Slot)
    (expects : Expects beginning slot) : stage.slot? = some slot := by
  cases found : stage.slot? with
  | none =>
      obtain ⟨word, isWord, admitted⟩ := slot.exists_admitted
      rw [← expects word isWord, viable_concat_iff areWords followed word isWord,
        Stage.next_isOk_iff, found] at admitted
      obtain ⟨other, absent, -⟩ := admitted
      contradiction
  | some other =>
      have same : other = slot := Slot.eq_of_admits other slot fun word isWord =>
        (expects_of_slot areWords followed other found word isWord).symm.trans (expects word isWord)
      rw [same]

theorem not_complete_nil : ¬ Complete [] := by
  rintro ⟨line, instruction, accepted, empty⟩
  have spelled := ((Instruction.ofLine_eq_some_iff line instruction).mp accepted).2
  rw [empty, ← Instruction.ofWords_eq_some_iff] at spelled
  exact nomatch Except.ok.inj spelled

theorem complete_iff (areWords : ∀ word ∈ beginning, Text.IsWord word)
    (followed : Stage.heading.follow beginning = .ok stage) :
    Complete beginning ↔ stage = .operands [] := by
  have ended : Stage.heading.read beginning = stage.ended := by
    rw [Stage.read, followed]
    rfl
  constructor
  · intro complete
    have nonempty : beginning ≠ [] := fun empty => not_complete_nil (empty ▸ complete)
    obtain ⟨line, instruction, accepted, rfl⟩ := complete
    rw [read_of_ofLine line instruction accepted] at ended
    cases stage with
    | heading => exact absurd (Stage.eq_nil_of_follow_heading _ _ followed) nonempty
    | opcode label => contradiction
    | operands kinds =>
        cases kinds with
        | nil => rfl
        | cons kind kinds => contradiction
  · rintro rfl
    have nonempty : beginning ≠ [] := by
      rintro rfl
      cases followed
    exact complete_of_read beginning areWords nonempty ended

theorem blame_of_stops (areWords : ∀ word ∈ beginning, Text.IsWord word)
    (followed : Stage.heading.follow beginning = .ok stage) (behind : Option String)
    (fault : Fault) (stops : stage.Stops behind fault) : Blame beginning behind fault := by
  have expects := expects_of_slot areWords followed
  cases behind with
  | some word =>
      cases stage with
      | heading =>
          rcases Stage.fault_of_heading word fault stops with ⟨rfl, rfl⟩ | ⟨other, rfl⟩
          · exact .emptyLabel (Stage.eq_nil_of_follow_heading _ _ followed)
          · exact .noHeading word (expects _ rfl) other
      | opcode label =>
          rw [Stage.fault_of_ofOpcode word fault stops]
          exact .noOpcode word (expects _ rfl)
      | operands kinds =>
          cases kinds with
          | nil =>
              cases stops
              exact .surplus word ((complete_iff areWords followed).mpr rfl)
          | cons kind kinds =>
              rcases Stage.fault_of_operand kind kinds word fault stops with
                ⟨rfl, rfl⟩ | ⟨rfl, rfl⟩
              · exact .noRegister word (expects _ rfl)
              · exact .noLiteral word (expects _ rfl)
  | none =>
      cases stage with
      | heading => contradiction
      | opcode label =>
          cases stops
          exact .labelAlone label (Stage.eq_singleton_of_follow_opcode _ label followed)
      | operands kinds =>
          cases kinds with
          | nil => contradiction
          | cons kind kinds =>
              cases stops
              cases kind with
              | register => exact .missingRegister (expects _ rfl)
              | literal => exact .missingLiteral (expects _ rfl)
              | target => exact .missingTarget (expects _ rfl)

theorem stops_of_blame (areWords : ∀ word ∈ beginning, Text.IsWord word)
    (followed : Stage.heading.follow beginning = .ok stage) (behind : Option String)
    (fault : Fault) (unfit : ∀ word ∈ behind, ¬ ∃ after, stage.next word = .ok after)
    (blame : Blame beginning behind fault) : stage.Stops behind fault := by
  have stands (slot : Slot) (expects : Expects beginning slot) : stage.slot? = some slot :=
    slot_of_expects areWords followed slot expects
  have operand (kind : Operand) (expects : Expects beginning (.operand kind)) :
      ∃ kinds, stage = .operands (kind :: kinds) :=
    (stage.slot?_eq_operand_iff kind).mp (stands _ expects)
  have unread (word : String) (last : word ∈ behind) :
      ∃ found, stage.next word = .error found := by
    cases read : stage.next word with
    | error found => exact ⟨found, rfl⟩
    | ok after => exact absurd ⟨after, read⟩ (unfit word last)
  cases blame with
  | emptyLabel leading =>
      subst leading
      cases followed
      rfl
  | noHeading word expected other =>
      obtain ⟨found, failed⟩ := unread word rfl
      have start := stage.slot?_eq_heading_iff.mp (stands _ expected)
      rw [start] at failed
      rcases Stage.fault_of_heading word found failed with ⟨colon, -⟩ | ⟨-, rfl⟩
      · exact absurd colon other
      · rw [start]
        exact failed
  | noOpcode word expected =>
      obtain ⟨found, failed⟩ := unread word rfl
      obtain ⟨label, rfl⟩ := stage.slot?_eq_opcode_iff.mp (stands _ expected)
      obtain rfl := Stage.fault_of_ofOpcode word found failed
      exact failed
  | noRegister word expected =>
      obtain ⟨found, failed⟩ := unread word rfl
      obtain ⟨kinds, rfl⟩ := operand _ expected
      rcases Stage.fault_of_operand _ kinds word found failed with ⟨-, rfl⟩ | ⟨other, -⟩
      · exact failed
      · contradiction
  | noLiteral word expected =>
      obtain ⟨found, failed⟩ := unread word rfl
      obtain ⟨kinds, rfl⟩ := operand _ expected
      rcases Stage.fault_of_operand _ kinds word found failed with ⟨other, -⟩ | ⟨-, rfl⟩
      · contradiction
      · exact failed
  | surplus word complete =>
      obtain rfl := (complete_iff areWords followed).mp complete
      rfl
  | labelAlone label lone =>
      subst lone
      obtain ⟨after, read, same⟩ := (bind_eq_ok_iff _ _ _).mp followed
      cases same
      rw [Stage.next_label] at read
      split at read
      · contradiction
      · cases read
        rfl
  | missingRegister expected =>
      obtain ⟨kinds, rfl⟩ := operand _ expected
      rfl
  | missingLiteral expected =>
      obtain ⟨kinds, rfl⟩ := operand _ expected
      rfl
  | missingTarget expected =>
      obtain ⟨kinds, rfl⟩ := operand _ expected
      rfl

end Followed

/-! ## The longest beginning -/

theorem Stage.exists_stop (stage : Stage) (words : List String) (fault : Fault)
    (failed : stage.read words = .error fault) :
    ∃ before rest last, words = before ++ rest ∧ stage.follow before = .ok last ∧
      last.Stops rest.head? fault := by
  induction words generalizing stage with
  | nil => exact ⟨[], [], stage, rfl, rfl, failed⟩
  | cons word words ih =>
      rw [read_cons] at failed
      cases read : stage.next word with
      | error found =>
          rw [read] at failed
          cases failed
          exact ⟨[], word :: words, stage, rfl, rfl, read⟩
      | ok after =>
          rw [read] at failed
          obtain ⟨before, rest, last, rfl, followed, stops⟩ := ih after failed
          refine ⟨word :: before, rest, last, rfl, ?_, stops⟩
          rw [follow, read]
          exact followed

theorem Stage.read_of_stops (stage : Stage) (rest : List String) (fault : Fault)
    (stops : stage.Stops rest.head? fault) : stage.read rest = .error fault := by
  cases rest with
  | nil => exact stops
  | cons word rest =>
      have failed : stage.next word = .error fault := stops
      rw [read_cons, failed]
      rfl

/-- The length of the longest beginning of the words with which a line can begin. -/
def LongestViable (words : List String) (length : Nat) : Prop :=
  IsGreatest {length | length ≤ words.length ∧ Viable (words.take length)} length

theorem Viable.shorten {longer shorter : List String} (viable : Viable longer)
    (front : shorter <+: longer) : Viable shorter := by
  obtain ⟨line, instruction, accepted, start⟩ := viable
  exact ⟨line, instruction, accepted, front.trans start⟩

theorem longestViable_of_stops (before rest : List String) (stage : Stage) (fault : Fault)
    (areWords : ∀ word ∈ before ++ rest, Text.IsWord word)
    (followed : Stage.heading.follow before = .ok stage) (stops : stage.Stops rest.head? fault) :
    LongestViable (before ++ rest) before.length := by
  have first : ∀ word ∈ before, Text.IsWord word := fun word member =>
    areWords word (List.mem_append_left _ member)
  constructor
  · refine ⟨by simp, ?_⟩
    rw [List.take_left]
    exact (viable_iff before).mpr ⟨first, stage, followed⟩
  · rintro length ⟨within, viable⟩
    by_contra longer
    cases rest with
    | nil =>
        rw [List.append_nil] at within
        exact longer within
    | cons word rest =>
        have failed : stage.next word = .error fault := stops
        have front : before ++ [word] <+: (before ++ word :: rest).take length := by
          rw [List.prefix_take_iff]
          constructor
          · exact ⟨rest, by simp⟩
          · simp only [List.length_append, List.length_singleton]
            omega
        have isWord : Text.IsWord word := areWords word (by simp)
        obtain ⟨after, read⟩ :=
          (viable_concat_iff first followed word isWord).mp (viable.shorten front)
        rw [failed] at read
        contradiction

/-- The word behind the longest beginning cannot be read there. -/
theorem unfit_of_longestViable (words : List String) (length : Nat) (stage : Stage)
    (longest : LongestViable words length)
    (areWords : ∀ word ∈ words, Text.IsWord word)
    (followed : Stage.heading.follow (words.take length) = .ok stage) :
    ∀ word ∈ words[length]?, ¬ ∃ after, stage.next word = .ok after := by
  intro word behind read
  have first : ∀ word ∈ words.take length, Text.IsWord word := fun word member =>
    areWords word (List.mem_of_mem_take member)
  have isWord : Text.IsWord word := areWords word (List.mem_of_getElem? behind)
  have viable := (viable_concat_iff first followed word isWord).mpr read
  have within : length < words.length := (List.getElem?_eq_some_iff.mp behind).1
  have longer : length + 1 ≤ length := by
    apply longest.2
    refine ⟨within, ?_⟩
    rw [List.take_add_one, behind]
    exact viable
  omega

theorem read_error_iff (words : List String) (areWords : ∀ word ∈ words, Text.IsWord word)
    (fault : Fault) :
    Stage.heading.read words = .error fault ↔
      ∃ length, LongestViable words length ∧ Blame (words.take length) words[length]? fault := by
  constructor
  · intro failed
    obtain ⟨before, rest, stage, rfl, followed, stops⟩ := Stage.heading.exists_stop words fault failed
    refine ⟨before.length, longestViable_of_stops before rest stage fault areWords followed stops, ?_⟩
    rw [List.take_left, List.getElem?_append_right (Nat.le_refl _), Nat.sub_self,
      ← List.head?_eq_getElem?]
    exact blame_of_stops (fun word member => areWords word (List.mem_append_left _ member))
      followed rest.head? fault stops
  · rintro ⟨length, longest, blame⟩
    obtain ⟨first, stage, followed⟩ := (viable_iff _).mp longest.1.2
    have unfit := unfit_of_longestViable words length stage longest areWords followed
    have stops := stops_of_blame first followed words[length]? fault unfit blame
    rw [← List.head?_drop] at stops
    rw [← List.take_append_drop length words,
      Stage.read_append_of_ok _ _ _ _ followed]
    exact stage.read_of_stops (words.drop length) fault stops

theorem ofWords_error_iff (words : List String) (fault : Fault) :
    Instruction.ofWords words = .error fault ↔ Stage.heading.read words = .error fault := by
  rw [Stage.read_heading]
  cases Instruction.ofWords words with
  | error other => simp [Except.map]
  | ok found => simp [Except.map]

/-- A line is wrong for having more than three blanks inside, whatever else is wrong with it.
Any other line is wrong exactly when there is a blame for what stands behind the longest beginning
of its words with which a line can begin, and that is its fault. -/
theorem ofLine_blames_first_unfit_word (line : String) (fault : Fault) :
    Instruction.ofLine line = .error fault ↔
      if 3 < Text.blankCount (Text.trim line.toList) then
        fault = .malformed (.tooManyBlanks 3 (String.ofList (Text.trim line.toList)))
      else
        ∃ length, LongestViable (words line.toList) length ∧
          Blame ((words line.toList).take length) (words line.toList)[length]? fault := by
  rw [Instruction.ofLine_eq_ofWords]
  split
  · rw [Except.error.injEq, eq_comm]
  · rw [ofWords_error_iff]
    exact read_error_iff _ (Text.isWord_of_mem_words line.toList) fault

end Line

end RegisterMachine
