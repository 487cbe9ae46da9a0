import Mathlib.Data.List.Induction
import RegisterMachine.Proofs.Listing

/-!
# Instructions read back from their text

The text of an instruction shows its label and its target as they stand, and these may be any
strings: empty, with blanks and colons inside, or with the look of an instruction.  Such a text
may be a fault, but it is never another instruction.  What it can be is the instruction itself
with the blanks gone that trimming takes, since every further word in a name is one too many.
-/

set_option autoImplicit false

namespace RegisterMachine

open Text (words)

def Operation.trimmed : Operation → Operation
  | .jnz source target => .jnz source (String.ofList (Text.trim target.toList))
  | operation => operation

/-- The instruction without the blanks before its label and around its target. -/
def Instruction.trimmed (instruction : Instruction) : Instruction :=
  ⟨instruction.label.map fun label => String.ofList (Text.trimStart label.toList),
    instruction.operation.trimmed⟩

/-- The names are words once they are trimmed, and the text has few enough blanks. -/
structure Instruction.TrimsWell (instruction : Instruction) : Prop where
  readable : instruction.trimmed.Readable
  few_blanks : Text.blankCount (Text.trim instruction.text.toList) ≤ 3

/-! ## Texts of few words -/

namespace Text

theorem trimStart_of_visible (line : List Char) (visible : ∀ c ∈ line, isBlank c = false) :
    trimStart line = line := by
  cases line with
  | nil => rfl
  | cons c line => exact trimStart_cons_of_not_isBlank c line (visible c List.mem_cons_self)

theorem trim_concat_visible (line : List Char) (c : Char) (visible : isBlank c = false) :
    trim (line ++ [c]) = trimStart line ++ [c] := by
  have start : trimStart (line ++ [c]) = trimStart line ++ [c] := by
    unfold trimStart
    rw [List.dropWhile_append]
    cases line.dropWhile isBlank with
    | nil => simp [visible]
    | cons first rest => rfl
  rw [trim, start, trimEnd, List.reverse_concat, List.dropWhile_cons_of_neg (by simp [visible]),
    List.reverse_cons, List.reverse_reverse]

theorem trim_of_visible (line : List Char) (visible : ∀ c ∈ line, isBlank c = false) :
    trim line = line := by
  rcases List.eq_nil_or_concat line with rfl | ⟨front, last, rfl⟩
  · rfl
  · rw [List.concat_eq_append] at visible ⊢
    have inFront : ∀ c ∈ front, isBlank c = false := fun c member =>
      visible c (List.mem_append_left _ member)
    rw [trim_concat_visible front last (visible last (by simp)), trimStart_of_visible front inFront]

theorem surrounds_of_words_eq_singleton (line : List Char) (word : String)
    (alone : words line = [word]) : Surrounds word.toList line := by
  induction line with
  | nil =>
      rw [words_nil] at alone
      contradiction
  | cons c line ih =>
      cases blank : isBlank c with
      | true =>
          rw [words_cons_blank line c blank] at alone
          obtain ⟨before, after, blankBefore, blankAfter, rfl⟩ := ih alone
          exact ⟨c :: before, after, List.forall_mem_cons.mpr ⟨blank, blankBefore⟩, blankAfter, rfl⟩
      | false =>
          rw [words_cons_visible c line blank] at alone
          obtain ⟨rfl, noMore⟩ := List.cons.inj alone
          refine ⟨[], line.dropWhile fun d => !isBlank d, by simp, ?_, ?_⟩
          · exact (words_eq_nil_iff _).mp noMore
          · rw [String.toList_ofList, List.nil_append, List.cons_append,
              List.takeWhile_append_dropWhile]

theorem words_eq_singleton_iff (line : List Char) (word : String) :
    words line = [word] ↔ IsWord word ∧ trim line = word.toList := by
  constructor
  · intro alone
    have isWord : IsWord word := isWord_of_mem_words line word (by rw [alone]; simp)
    rw [(surrounds_of_words_eq_singleton line word alone).trim_eq]
    exact ⟨isWord, trim_of_visible word.toList isWord.2⟩
  · intro trimmed
    obtain ⟨isWord, same⟩ := trimmed
    rw [← words_trim, same, words_of_isWord word isWord]

theorem exists_words_append_visible (line tail : List Char) (nonempty : tail ≠ [])
    (visible : ∀ c ∈ tail, isBlank c = false) :
    ∃ front last, words (line ++ tail) = front ++ [String.ofList (last ++ tail)] := by
  induction line using List.reverseRecOn generalizing tail with
  | nil => exact ⟨[], [], words_of_visible tail nonempty visible⟩
  | append_singleton line c ih =>
      cases blank : isBlank c with
      | true =>
          refine ⟨words line, [], ?_⟩
          rw [List.append_assoc, List.singleton_append, words_append_blank line tail c blank,
            words_of_visible tail nonempty visible]
          rfl
      | false =>
          obtain ⟨front, last, parts⟩ :=
            ih (c :: tail) (List.cons_ne_nil c tail) (List.forall_mem_cons.mpr ⟨blank, visible⟩)
          refine ⟨front, last ++ [c], ?_⟩
          rw [List.append_assoc, List.singleton_append, parts, List.append_assoc]
          rfl

theorem exists_words_label (label : String) :
    ∃ front last, words (label ++ ":").toList = front ++ [last ++ ":"] := by
  obtain ⟨front, last, parts⟩ :=
    exists_words_append_visible label.toList [':'] (by simp) (by simp [isBlank])
  refine ⟨front, String.ofList last, ?_⟩
  rw [String.toList_append]
  exact parts.trans (by rw [String.ofList_append])

theorem words_label_eq_singleton_iff (label name : String) (nonempty : name ≠ "") :
    words (label ++ ":").toList = [name ++ ":"] ↔
      IsWord name ∧ trimStart label.toList = name.toList := by
  have trimmed : trim (label ++ ":").toList = trimStart label.toList ++ [':'] := by
    rw [String.toList_append]
    exact trim_concat_visible label.toList ':' rfl
  have colon : (name ++ ":").toList = name.toList ++ [':'] := String.toList_append
  rw [words_eq_singleton_iff, trimmed, colon, List.append_left_inj]
  constructor
  · rintro ⟨isWord, same⟩
    refine ⟨⟨nonempty, fun c member => isWord.2 c ?_⟩, same⟩
    rw [colon]
    exact List.mem_append_left _ member
  · rintro ⟨isWord, same⟩
    exact ⟨isWord_append_colon name isWord, same⟩

end Text

/-! ## The words of a text -/

theorem Opcode.name_ne_label (opcode : Opcode) (label : String) : opcode.name ≠ label ++ ":" := by
  intro same
  have announced := (Line.label?_eq_some_iff opcode.name label).mpr same
  rw [Line.label?_opcode] at announced
  contradiction

namespace Operation

def operandWords (operation : Operation) : List String :=
  operation.operands.flatMap fun operand => words operand.toList

theorem words_text (operation : Operation) :
    words operation.text.toList = operation.opcode.name :: operation.operandWords := by
  rw [text, Text.words_intercalate_parts, List.flatMap_cons,
    Text.words_of_isWord _ (Text.isWord_opcode _)]
  rfl

theorem operandWords_length_pos (operation : Operation) : 1 ≤ operation.operandWords.length := by
  have register (register : Register) (others : List String) :
      1 ≤ ((register.name :: others).flatMap fun operand => words operand.toList).length := by
    rw [List.flatMap_cons, Text.words_of_isWord _ (Text.isWord_register register)]
    simp
  cases operation with
  | arithmetic kind result source => exact register result _
  | mov result value => exact register result _
  | out source => exact register source _
  | jnz source target => exact register source _

theorem target_isWord_of_spelledBy (source : Register) (target : String) (found : Operation)
    (same : found.opcode = .jnz) (spelled : found.SpelledBy (jnz source target).operandWords) :
    Text.IsWord (String.ofList (Text.trim target.toList)) := by
  have split : (jnz source target).operandWords = source.name :: words target.toList := by
    rw [operandWords, operands, List.flatMap_cons,
      Text.words_of_isWord _ (Text.isWord_register source), List.flatMap_singleton]
    rfl
  rw [split] at spelled
  cases found with
  | jnz source' target' =>
      obtain ⟨-, alone⟩ := List.cons.inj (show _ = [source'.name, target'] from spelled)
      obtain ⟨isWord, trimmed⟩ := (Text.words_eq_singleton_iff _ _).mp alone
      rw [trimmed, String.ofList_toList]
      exact isWord
  | _ => contradiction

theorem operandWords_of_trimmed (operation : Operation)
    (target_isWord : ∀ source target, operation.trimmed = .jnz source target →
      Text.IsWord target) :
    operation.operandWords = operation.trimmed.operands := by
  cases operation with
  | jnz source target =>
      have alone : words target.toList = [String.ofList (Text.trim target.toList)] :=
        (Text.words_eq_singleton_iff _ _).mpr ⟨target_isWord source _ rfl, by simp⟩
      simp [operandWords, operands, trimmed, Text.words_of_isWord _ (Text.isWord_register _), alone]
  | _ =>
      apply Text.flatMap_words _ (Instruction.isWord_of_mem_operands _ _)
      rintro source target ⟨⟩

end Operation

namespace Instruction

theorem words_text_unlabelled (operation : Operation) :
    words (text ⟨none, operation⟩).toList =
      operation.opcode.name :: operation.operandWords :=
  operation.words_text

theorem words_text_labelled (label : String) (operation : Operation) :
    words (text ⟨some label, operation⟩).toList =
      words (label ++ ":").toList ++ operation.opcode.name :: operation.operandWords := by
  rw [text_eq_intercalate, wordList, Text.words_intercalate_parts, List.flatMap_cons,
    List.flatMap_cons, Text.words_of_isWord _ (Text.isWord_opcode _)]
  rfl

theorem SpelledBy.of_unlabelled {found : Instruction} {operation : Operation}
    (spelled : found.SpelledBy (operation.opcode.name :: operation.operandWords)) :
    found.label = none ∧ found.operation.opcode = operation.opcode ∧
      found.operation.SpelledBy operation.operandWords := by
  obtain ⟨operands, fits, whole⟩ := spelled
  cases labelled : found.label with
  | none =>
      rw [labelled] at whole
      obtain ⟨same, rfl⟩ := List.cons.inj whole
      have opcodes := (Opcode.ofName?_eq_some_iff _ _).mpr same
      rw [Opcode.ofName?_name] at opcodes
      exact ⟨rfl, (Option.some.inj opcodes).symm, fits⟩
  | some name =>
      rw [labelled] at whole
      obtain ⟨same, -⟩ := List.cons.inj whole.2
      exact absurd same (Opcode.name_ne_label _ name)

/-- An instruction that is read from the text of a labelled one has the one word of the label for a
label.  A label of two words or more would leave too many words behind it. -/
theorem SpelledBy.of_labelled {found : Instruction} {label : String} {operation : Operation}
    (spelled : found.SpelledBy
      (words (label ++ ":").toList ++ operation.opcode.name :: operation.operandWords)) :
    ∃ name, name ≠ "" ∧ found.label = some name ∧ words (label ++ ":").toList = [name ++ ":"] ∧
      found.operation.opcode = operation.opcode ∧
      found.operation.SpelledBy operation.operandWords := by
  obtain ⟨operands, fits, whole⟩ := spelled
  have few := fits.length_le
  have behind := operation.operandWords_length_pos
  obtain ⟨front, last, parts⟩ := Text.exists_words_label label
  rw [parts] at whole ⊢
  cases labelled : found.label with
  | none =>
      rw [labelled] at whole
      cases front with
      | nil =>
          obtain ⟨same, -⟩ := List.cons.inj whole
          exact absurd same.symm (Opcode.name_ne_label _ last)
      | cons first front =>
          have total := congrArg List.length whole
          simp only [List.length_append, List.length_cons, List.length_nil] at total
          omega
  | some name =>
      rw [labelled] at whole
      obtain ⟨nonempty, whole⟩ := whole
      cases front with
      | nil =>
          obtain ⟨same, rest⟩ := List.cons.inj whole
          have bare : SpelledBy ⟨none, found.operation⟩
              (operation.opcode.name :: operation.operandWords) :=
            ⟨operands, fits, rest⟩
          obtain ⟨-, opcodes, operandsFit⟩ := bare.of_unlabelled
          exact ⟨name, nonempty, rfl, by rw [same]; rfl, opcodes, operandsFit⟩
      | cons first front =>
          cases front with
          | nil =>
              obtain ⟨-, rest⟩ := List.cons.inj whole
              obtain ⟨same, -⟩ := List.cons.inj rest
              exact absurd same.symm (Opcode.name_ne_label _ last)
          | cons second front =>
              have total := congrArg List.length whole
              simp only [List.length_append, List.length_cons, List.length_nil] at total
              omega

/-- What is read from the text of an instruction shows that its trimmed names are words. -/
theorem readable_trimmed_of_spelledBy (instruction found : Instruction)
    (spelled : found.SpelledBy (words instruction.text.toList)) :
    instruction.trimmed.Readable := by
  obtain ⟨label, operation⟩ := instruction
  have target (opcodes : found.operation.opcode = operation.opcode)
      (fits : found.operation.SpelledBy operation.operandWords) (source : Register)
      (target : String) (jump : operation.trimmed = .jnz source target) : Text.IsWord target := by
    cases operation with
    | jnz source' target' =>
        cases jump
        exact Operation.target_isWord_of_spelledBy source _ found.operation opcodes fits
    | _ => contradiction
  cases label with
  | none =>
      rw [words_text_unlabelled] at spelled
      obtain ⟨-, opcodes, fits⟩ := spelled.of_unlabelled
      exact ⟨nofun, target opcodes fits⟩
  | some label =>
      rw [words_text_labelled] at spelled
      obtain ⟨name, nonempty, -, alone, opcodes, fits⟩ := spelled.of_labelled
      obtain ⟨isWord, same⟩ := (Text.words_label_eq_singleton_iff label name nonempty).mp alone
      refine ⟨?_, target opcodes fits⟩
      rintro _ ⟨⟩
      simp only [same, String.ofList_toList]
      exact isWord

theorem words_text_of_trimmed (instruction : Instruction)
    (readable : instruction.trimmed.Readable) :
    words instruction.text.toList = instruction.trimmed.wordList := by
  obtain ⟨label, operation⟩ := instruction
  have opcodes : operation.trimmed.opcode = operation.opcode := by cases operation <;> rfl
  have operands := operation.operandWords_of_trimmed readable.target_isWord
  cases label with
  | none =>
      rw [words_text_unlabelled, operands, ← opcodes]
      rfl
  | some label =>
      have isWord := readable.label_isWord _ rfl
      have alone := (Text.words_label_eq_singleton_iff label _ isWord.1).mpr
        ⟨isWord, String.toList_ofList.symm⟩
      rw [words_text_labelled, alone, operands, ← opcodes]
      rfl

theorem ofLine_text_eq_some_iff (instruction found : Instruction) :
    ofLine instruction.text = .ok (some found) ↔
      found = instruction.trimmed ∧ instruction.TrimsWell := by
  constructor
  · intro read
    have spelled := (ofLine_eq_some_iff instruction.text found).mp read
    have readable := readable_trimmed_of_spelledBy instruction found spelled.2
    have whole := readable.spelledBy_wordList
    rw [← words_text_of_trimmed instruction readable] at whole
    have same := (ofLine_eq_some_iff instruction.text instruction.trimmed).mpr ⟨spelled.1, whole⟩
    rw [read] at same
    exact ⟨Option.some.inj (Except.ok.inj same), readable, spelled.1⟩
  · rintro ⟨rfl, readable, few⟩
    rw [ofLine_eq_some_iff, words_text_of_trimmed instruction readable]
    exact ⟨few, readable.spelledBy_wordList⟩

theorem ofLine_text_ne_none (instruction : Instruction) : ofLine instruction.text ≠ .ok none := by
  intro blank
  rw [ofLine_eq_none_iff, ← Text.words_eq_nil_iff] at blank
  obtain ⟨label, operation⟩ := instruction
  cases label with
  | none =>
      rw [words_text_unlabelled] at blank
      contradiction
  | some label =>
      rw [words_text_labelled] at blank
      exact List.append_ne_nil_of_right_ne_nil _ (List.cons_ne_nil _ _) blank

/-- The text of an instruction is read as the instruction with its names trimmed, or it is a fault;
it is read as the instruction itself exactly when the names are words. -/
theorem ofLine_text_never_misreads (instruction : Instruction) :
    ofLine instruction.text ≠ .ok none ∧
      (∀ found : Instruction, ofLine instruction.text = .ok (some found) ↔
        found = instruction.trimmed ∧ instruction.TrimsWell) ∧
      ((∃ fault, ofLine instruction.text = .error fault) ↔ ¬ instruction.TrimsWell) ∧
      (ofLine instruction.text = .ok (some instruction) ↔ instruction.Readable) := by
  have reads := ofLine_text_eq_some_iff instruction
  have visible := ofLine_text_ne_none instruction
  refine ⟨visible, reads, ?_, readable_of_ofLine instruction.text instruction, ?_⟩
  · cases read : ofLine instruction.text with
    | error fault =>
        refine ⟨fun _ trims => ?_, fun _ => ⟨fault, rfl⟩⟩
        rw [(reads instruction.trimmed).mpr ⟨rfl, trims⟩] at read
        contradiction
    | ok line =>
        cases line with
        | none => exact absurd read visible
        | some found =>
            have trims := ((reads found).mp read).2
            exact ⟨fun ⟨_, failed⟩ => (nomatch failed), fun unfit => absurd trims unfit⟩
  · exact Readable.ofLine_text

/-- A label that looks like an instruction leaves a word with a colon where none can stand. -/
example :
    ofLine (text ⟨some "jnz EAX", .out .ebx⟩) = .error (.invalidRegister "EAX:") := by
  decide +kernel

end Instruction

end RegisterMachine
