import RegisterMachine.Proofs.JoinedTexts

/-!
# Listings that read back

The listing of a program is a text, and it reads back as the program when the names in it are
words and no label is carried twice.  Names that are no words are lost or torn apart on the way;
since assembly only makes names that are words, the listing of assembled code always reads back
as that code.
-/

set_option autoImplicit false

namespace RegisterMachine

namespace Text

/-! ## Names that are words -/

theorem isBlank_of_isDigit (c : Char) (digit : c.isDigit = true) : isBlank c = false := by
  have range : 48 ≤ c.toNat ∧ c.toNat ≤ 57 := by
    simpa [Char.isDigit, UInt32.le_iff_toNat_le] using digit
  simp only [isBlank, Bool.or_eq_false_iff, Bool.and_eq_false_iff, decide_eq_false_iff_not,
    beq_eq_false_iff_ne]
  omega

theorem isWord_literal (value : Int32) : IsWord (Literal.text value) := by
  have digit : ∀ c ∈ Nat.toDigits 10 value.toInt.natAbs, isBlank c = false := fun c member =>
    isBlank_of_isDigit c (toDigits_all_isDigit _ c member)
  constructor
  · intro empty
    have nil : Literal.digits value = [] := by
      rw [← Literal.toList_text, empty]
      rfl
    unfold Literal.digits at nil
    split at nil
    · contradiction
    · exact Nat.toDigits_ne_nil nil
  · intro c member
    rw [Literal.toList_text, Literal.digits] at member
    split at member
    · rcases List.mem_cons.mp member with rfl | member
      · rfl
      · exact digit c member
    · exact digit c member

theorem isWord_of_all {text : String} (nonempty : text ≠ "")
    (visible : (text.toList.all fun c => !isBlank c) = true) : IsWord text := by
  refine ⟨nonempty, ?_⟩
  intro c member
  have shown := List.all_eq_true.mp visible c member
  rwa [Bool.not_eq_true'] at shown

theorem isWord_register (register : Register) : IsWord register.name := by
  cases register <;> exact isWord_of_all (by decide) (by decide)

theorem isWord_opcode (opcode : Opcode) : IsWord opcode.name := by
  rcases opcode with kind | _ | _ | _
  · cases kind <;> exact isWord_of_all (by decide) (by decide)
  all_goals exact isWord_of_all (by decide) (by decide)

theorem isWord_append_colon (label : String) (isWord : IsWord label) : IsWord (label ++ ":") := by
  constructor
  · intro empty
    have nil := congrArg String.toList empty
    rw [String.toList_append] at nil
    exact List.append_ne_nil_of_right_ne_nil _ (List.cons_ne_nil ':' []) nil
  · intro c member
    rw [String.toList_append] at member
    rcases List.mem_append.mp member with inside | colon
    · exact isWord.2 c inside
    · rw [List.mem_singleton.mp colon]
      rfl

end Text

/-! ## Instructions that read back -/

namespace Instruction

/-- The names in the instruction are words. -/
structure Readable (instruction : Instruction) : Prop where
  label_isWord : ∀ label, instruction.label = some label → Text.IsWord label
  target_isWord : ∀ source target, instruction.operation = .jnz source target →
    Text.IsWord target

def wordList (instruction : Instruction) : List String :=
  match instruction.label with
  | some label =>
      (label ++ ":") :: instruction.operation.opcode.name :: instruction.operation.operands
  | none => instruction.operation.opcode.name :: instruction.operation.operands

theorem text_eq_intercalate (instruction : Instruction) :
    instruction.text = " ".intercalate instruction.wordList := by
  obtain ⟨label, operation⟩ := instruction
  cases label with
  | none => rfl
  | some label =>
      have colon : ": " = ":" ++ " " := rfl
      rw [text_labelled, wordList, String.intercalate_cons_cons, Operation.text, colon,
        ← String.append_assoc]

theorem operands_length_le (operation : Operation) : operation.operands.length ≤ 2 := by
  cases operation <;> simp [Operation.operands]

theorem wordList_length_le (instruction : Instruction) : instruction.wordList.length ≤ 4 := by
  have operands := operands_length_le instruction.operation
  unfold wordList
  split
  · simp only [List.length_cons]
    omega
  · simp only [List.length_cons]
    omega

theorem isWord_of_mem_operands (operation : Operation)
    (target_isWord : ∀ source target, operation = .jnz source target → Text.IsWord target) :
    ∀ word ∈ operation.operands, Text.IsWord word := by
  cases operation with
  | arithmetic kind result source => simp [Operation.operands, Text.isWord_register]
  | mov result value => simp [Operation.operands, Text.isWord_register, Text.isWord_literal]
  | out source => simp [Operation.operands, Text.isWord_register]
  | jnz source target =>
      simp [Operation.operands, Text.isWord_register, target_isWord source target rfl]

theorem Readable.isWord {instruction : Instruction} (readable : instruction.Readable) :
    ∀ word ∈ instruction.wordList, Text.IsWord word := by
  have operands := isWord_of_mem_operands instruction.operation readable.target_isWord
  have body : ∀ word ∈ instruction.operation.opcode.name :: instruction.operation.operands,
      Text.IsWord word := by
    intro word member
    rcases List.mem_cons.mp member with rfl | member
    · exact Text.isWord_opcode _
    · exact operands word member
  unfold wordList
  cases labelled : instruction.label with
  | none => exact body
  | some label =>
      intro word member
      rcases List.mem_cons.mp member with rfl | member
      · exact Text.isWord_append_colon label (readable.label_isWord label labelled)
      · exact body word member

theorem Readable.words_text {instruction : Instruction} (readable : instruction.Readable) :
    Text.words instruction.text.toList = instruction.wordList := by
  rw [text_eq_intercalate, Text.words_intercalate _ readable.isWord]

theorem Readable.spelledBy_wordList {instruction : Instruction}
    (readable : instruction.Readable) : instruction.SpelledBy instruction.wordList := by
  have operands : instruction.operation.SpelledBy instruction.operation.operands := by
    cases instruction.operation with
    | arithmetic kind result source => rfl
    | mov result value => exact ⟨Literal.text value, Literal.parse?_text value, rfl⟩
    | out source => rfl
    | jnz source target => rfl
  refine ⟨instruction.operation.operands, operands, ?_⟩
  unfold wordList
  cases labelled : instruction.label with
  | none => rfl
  | some label => exact ⟨(readable.label_isWord label labelled).1, rfl⟩

/-- An instruction whose names are words is what its text says. -/
theorem Readable.ofLine_text {instruction : Instruction} (readable : instruction.Readable) :
    ofLine instruction.text = .ok (some instruction) := by
  have blanks := Text.blankCount_intercalate instruction.wordList readable.isWord
  have trimmed := Text.blankCount_trim_le instruction.text.toList
  have short := wordList_length_le instruction
  rw [← text_eq_intercalate] at blanks
  rw [ofLine_eq_some_iff]
  refine ⟨by omega, ?_⟩
  rw [readable.words_text]
  exact readable.spelledBy_wordList

theorem readable_of_ofLine (line : String) (instruction : Instruction)
    (read : ofLine line = .ok (some instruction)) : instruction.Readable := by
  obtain ⟨-, operands, spelled, whole⟩ := (ofLine_eq_some_iff line instruction).mp read
  have given : ∀ word ∈ operands, Text.IsWord word := by
    intro word member
    apply Text.isWord_of_mem_words line.toList
    split at whole
    · rw [whole]
      exact List.mem_cons_of_mem _ member
    · rw [whole.2]
      exact List.mem_cons_of_mem _ (List.mem_cons_of_mem _ member)
  constructor
  · intro label labelled
    rw [labelled] at whole
    have colon : Text.IsWord (label ++ ":") :=
      Text.isWord_of_mem_words line.toList _ (by rw [whole.2]; exact List.mem_cons_self)
    refine ⟨whole.1, ?_⟩
    intro c inside
    apply colon.2
    rw [String.toList_append]
    exact List.mem_append_left _ inside
  · intro source target jump
    rw [jump] at spelled
    exact given target (by rw [spelled]; simp)

theorem Readable.not_mem_text {instruction : Instruction} (readable : instruction.Readable)
    (c : Char) (blank : Text.isBlank c = true) (other : c ≠ ' ') :
    c ∉ instruction.text.toList := by
  intro member
  rw [text_eq_intercalate] at member
  rcases Text.mem_intercalate_blank _ c member with same | ⟨word, found, inside⟩
  · exact other same
  · rw [(readable.isWord word found).2 c inside] at blank
    contradiction

end Instruction

/-! ## Programs that read back -/

namespace Program

/-- The names in the program are words, and no label is carried twice. -/
structure Readable (program : Program) : Prop where
  names_areWords : ∀ instruction ∈ program.toList, instruction.Readable
  labels_differ : ∀ label first second, program.Carries first label →
    program.Carries second label → first = second

theorem Readable.not_badLine {program : Program} (readable : program.Readable) :
    ∀ index fault, ¬ BadLine (program.toList.map Instruction.text) index fault := by
  rw [forall_not_badLine_iff]
  constructor
  · intro line member
    obtain ⟨instruction, found, rfl⟩ := List.mem_map.mp member
    exact ⟨_, (readable.names_areWords instruction found).ofLine_text⟩
  · rw [List.pairwise_map, List.pairwise_iff_getElem]
    intro first second before inside ascending clash
    obtain ⟨label, ⟨earlier, read, labelled⟩, ⟨later, read', labelled'⟩⟩ := clash
    rw [(readable.names_areWords _ (List.getElem_mem before)).ofLine_text] at read
    rw [(readable.names_areWords _ (List.getElem_mem inside)).ofLine_text] at read'
    cases read
    cases read'
    have fetched : program.get? first = some program.toList[first] := by
      rw [get?_eq_getElem?, List.getElem?_eq_getElem before]
    have fetched' : program.get? second = some program.toList[second] := by
      rw [get?_eq_getElem?, List.getElem?_eq_getElem inside]
    have same := readable.labels_differ label first second ⟨_, fetched, labelled⟩
      ⟨_, fetched', labelled'⟩
    omega

end Program

namespace Code

theorem Holds.readable {code : Code} {lines : List String} (holds : code.Holds lines) :
    code.program.Readable := by
  constructor
  · intro instruction member
    rw [holds.instructions] at member
    obtain ⟨line, -, found⟩ := List.mem_filterMap.mp member
    exact Instruction.readable_of_ofLine line instruction
      ((Instruction.onLine?_eq_some_iff line instruction).mp found)
  · exact holds.coherent.carries_unique

theorem ofText_text_of_readable (program : Program) (readable : program.Readable) :
    ∃ labels, ofText program.text = .ok ⟨program, labels⟩ := by
  have noFeed : ∀ line ∈ program.toList.map Instruction.text, '\n' ∉ line.toList := by
    intro line member
    obtain ⟨instruction, found, rfl⟩ := List.mem_map.mp member
    exact (readable.names_areWords instruction found).not_mem_text '\n' rfl (by decide)
  rcases ofText_cases_of_lines program.text _ (refill_intercalate _ noFeed) with
    ⟨code, success, held, -⟩ | ⟨located, -, bad, -⟩
  · have reads : ∀ instruction ∈ program.toList,
        Instruction.onLine? instruction.text = some instruction := fun instruction member =>
      (Instruction.onLine?_eq_some_iff _ _).mpr
        (readable.names_areWords instruction member).ofLine_text
    have same : code.program = program := by
      apply Program.ext
      rw [held.instructions, List.filterMap_map]
      exact (List.filterMap_congr reads).trans List.filterMap_some
    exact ⟨code.labels, by rw [success, ← same]⟩
  · exact absurd ((bad located.fault).mpr rfl) (readable.not_badLine _ _)

/-- A listing reads back as its program exactly when the names in it are words and its labels
differ, and the labels are then bound as the program carries them.  The listing of assembled
code reads back as that code. -/
theorem ofText_text_iff_readable :
    (∀ program : Program,
        (∃ labels, ofText program.text = .ok ⟨program, labels⟩) ↔ program.Readable) ∧
      (∀ (program : Program) (labels : Labels), ofText program.text = .ok ⟨program, labels⟩ →
        ∀ label address, labels.address? label = some address ↔
          program.Carries address label) ∧
      ∀ (text : String) (code : Code), ofText text = .ok code →
        ofText code.program.text = .ok code := by
  have readBack : ∀ (text : String) (code : Code), ofText text = .ok code →
      code.program.Readable := fun text code success =>
    (holds_of_ofText text code success).readable
  refine ⟨fun program => ⟨?_, ofText_text_of_readable program⟩, ?_, ?_⟩
  · intro readsBack
    obtain ⟨labels, success⟩ := readsBack
    exact readBack _ _ success
  · intro program labels success
    exact (holds_of_ofText _ _ success).coherent.address?_iff
  · intro text code success
    obtain ⟨labels, again⟩ :=
      ofText_text_of_readable code.program (readBack text code success)
    have same : code = ⟨code.program, labels⟩ :=
      (holds_of_ofText text code success).coherent.ext (holds_of_ofText _ _ again).coherent rfl
    rw [again, ← same]

theorem ofText_text_of_colons :
    ofText "a:: mov EAX +05\r\n\n jnz EAX a: " =
        .ok ⟨.ofList [⟨some "a:", .mov .eax 5⟩, ⟨none, .jnz .eax "a:"⟩],
          ⟨[("a:", 0)], by simp, by simp⟩⟩ ∧
      ofText "a:: mov EAX 5\njnz EAX a:" =
        .ok ⟨.ofList [⟨some "a:", .mov .eax 5⟩, ⟨none, .jnz .eax "a:"⟩],
          ⟨[("a:", 0)], by simp, by simp⟩⟩ ∧
      (Program.ofList [⟨some "a:", .mov .eax 5⟩, ⟨none, .jnz .eax "a:"⟩]).Carries 0 "a:" := by
  obtain ⟨-, table, again⟩ := ofText_text_iff_readable
  have assembled : ofText "a:: mov EAX +05\r\n\n jnz EAX a: " =
      .ok ⟨.ofList [⟨some "a:", .mov .eax 5⟩, ⟨none, .jnz .eax "a:"⟩],
        ⟨[("a:", 0)], by simp, by simp⟩⟩ := by decide +kernel
  have listing : (Program.ofList [⟨some "a:", .mov .eax 5⟩, ⟨none, .jnz .eax "a:"⟩]).text =
      "a:: mov EAX 5\njnz EAX a:" := by decide +kernel
  have reread := again _ _ assembled
  refine ⟨assembled, ?_, ?_⟩
  · rw [← listing]
    exact reread
  · exact (table _ _ reread "a:" 0).mp (by decide)

end Code

end RegisterMachine
