import RegisterMachine.Line
import RegisterMachine.Proofs.Words

/-!
# Reading an instruction off words

What a line holds depends on its words alone, once it is known to have few enough blanks.  The
first part reads an instruction off a list of words, in the manner of the reader, and shows that
reading it off the line is the same.  The second part says which words spell an instruction.
-/

set_option autoImplicit false

namespace RegisterMachine

open Text (words)

namespace Line

def registerOf (words : List String) : Except Fault (Register × List String) :=
  match Register.named (words.head?.getD "") with
  | .ok register => .ok (register, words.tail)
  | .error fault => .error fault

def literalOf (words : List String) : Except Fault (Int32 × List String) :=
  match Literal.parse? (words.head?.getD "") with
  | some value => .ok (value, words.tail)
  | none => .error (.invalidLiteral (words.head?.getD ""))

def targetOf : List String → Except Fault (String × List String)
  | [] => .error (.malformed .missingTarget)
  | word :: words => .ok (word, words)

def operationOf (opcode : Opcode) (words : List String) :
    Except Fault (Operation × List String) :=
  match opcode with
  | .arithmetic kind => do
      let (result, words) ← registerOf words
      let (source, words) ← registerOf words
      return (.arithmetic kind result source, words)
  | .mov => do
      let (result, words) ← registerOf words
      let (value, words) ← literalOf words
      return (.mov result value, words)
  | .out => do
      let (source, words) ← registerOf words
      return (.out source, words)
  | .jnz => do
      let (source, words) ← registerOf words
      let (target, words) ← targetOf words
      return (.jnz source target, words)

def finishOf : List String → Except Fault Unit
  | [] => .ok ()
  | word :: _ => .error (.malformed (.unexpectedOperand word))

def headingOf (first : String) (words : List String) :
    Except Fault (Option String × String × List String) :=
  match label? first with
  | none => .ok (none, first, words)
  | some label =>
      if label = "" then .error (.malformed .emptyLabel)
      else
        match words with
        | [] => .error (.malformed (.labelAlone label))
        | opcode :: words => .ok (some label, opcode, words)

def bodyOf (label : Option String) (word : String) (words : List String) :
    Except Fault (Option Instruction) :=
  match Opcode.ofName? word with
  | none => .error (.unknownOpcode word)
  | some opcode => do
      let (operation, words) ← operationOf opcode words
      finishOf words
      return some ⟨label, operation⟩

end Line

def Instruction.ofWords : List String → Except Fault (Option Instruction)
  | [] => .ok none
  | first :: words => do
      let (label, word, words) ← Line.headingOf first words
      Line.bodyOf label word words

/-! ## Reading off a line is reading off its words -/

theorem ok_bind {α β : Type} (found : α) (next : α → Except Fault β) :
    (Except.ok found >>= next) = next found :=
  rfl

namespace WordReader

variable {α β : Type}

def asWords (read : Except Fault (α × WordReader)) : Except Fault (α × List String) :=
  read.map fun found => (found.1, words found.2.rest)

theorem asWords_bind (read : Except Fault (α × WordReader))
    (onReader : α × WordReader → Except Fault (β × WordReader))
    (onWords : α × List String → Except Fault (β × List String))
    (agree : ∀ found reader, asWords (onReader (found, reader)) =
      onWords (found, words reader.rest)) :
    asWords (read >>= onReader) = asWords read >>= onWords := by
  cases read with
  | error fault => rfl
  | ok found => exact agree found.1 found.2

theorem asWords_register (reader : WordReader) :
    asWords reader.register = Line.registerOf (words reader.rest) := by
  obtain ⟨rest, found, behind⟩ := reader.next_words
  simp only [register, found, Line.registerOf]
  cases Register.named ((words reader.rest).head?.getD "") with
  | ok register => simp only [asWords, Except.map, behind]
  | error fault => rfl

theorem asWords_literal (reader : WordReader) :
    asWords reader.literal = Line.literalOf (words reader.rest) := by
  obtain ⟨rest, found, behind⟩ := reader.next_words
  simp only [literal, found, Line.literalOf]
  cases Literal.parse? ((words reader.rest).head?.getD "") with
  | some value => simp only [asWords, Except.map, behind]
  | none => rfl

theorem asWords_target (reader : WordReader) :
    asWords reader.target = Line.targetOf (words reader.rest) := by
  obtain ⟨rest, found, behind⟩ := reader.next_words
  cases left : words reader.rest with
  | nil => simp [target, found, left, asWords, Except.map, Line.targetOf]
  | cons word others =>
      rw [left] at behind
      simp [target, found, left, asWords, Except.map, Line.targetOf, behind]

theorem asWords_operation (opcode : Opcode) (reader : WordReader) :
    asWords (reader.operation opcode) = Line.operationOf opcode (words reader.rest) := by
  cases opcode with
  | arithmetic kind =>
      simp only [operation, Line.operationOf, ← asWords_register]
      refine asWords_bind _ _ _ fun result reader => ?_
      rw [← asWords_register]
      exact asWords_bind _ _ _ fun source reader => rfl
  | mov =>
      simp only [operation, Line.operationOf, ← asWords_register]
      refine asWords_bind _ _ _ fun result reader => ?_
      rw [← asWords_literal]
      exact asWords_bind _ _ _ fun value reader => rfl
  | out =>
      simp only [operation, Line.operationOf, ← asWords_register]
      exact asWords_bind _ _ _ fun source reader => rfl
  | jnz =>
      simp only [operation, Line.operationOf, ← asWords_register]
      refine asWords_bind _ _ _ fun source reader => ?_
      rw [← asWords_target]
      exact asWords_bind _ _ _ fun target reader => rfl

theorem finish_eq (reader : WordReader) :
    reader.finish = Line.finishOf (words reader.rest) := by
  obtain ⟨rest, found, -⟩ := reader.next_words
  cases left : words reader.rest with
  | nil => simp [finish, found, left, Line.finishOf]
  | cons word others => simp [finish, found, left, Line.finishOf]

end WordReader

theorem Line.heading_eq (first : String) (reader : WordReader) :
    (Line.heading first reader).map (fun found => (found.1, found.2.1, words found.2.2.rest)) =
      Line.headingOf first (words reader.rest) := by
  obtain ⟨rest, found, behind⟩ := reader.next_words
  cases announced : Line.label? first with
  | none => simp [Line.heading, Line.headingOf, announced, Except.map]
  | some label =>
      by_cases empty : label = ""
      · simp [Line.heading, Line.headingOf, announced, empty, Except.map]
      · cases left : words reader.rest with
        | nil =>
            simp [Line.heading, Line.headingOf, announced, empty, found, left, Except.map]
        | cons word others =>
            rw [left] at behind
            simp [Line.heading, Line.headingOf, announced, empty, found, left, behind,
              Except.map]

theorem WordReader.ofLine_of_few (line : String)
    (few : ¬ 3 < Text.blankCount (Text.trim line.toList)) :
    WordReader.ofLine line = .ok ⟨Text.trim line.toList⟩ := by
  rw [WordReader.ofLine, WordReader.maxBlanks, if_neg few]

/-- A line with few enough blanks holds the instruction that its words make. -/
theorem Instruction.ofLine_eq_ofWords (line : String) :
    Instruction.ofLine line =
      if 3 < Text.blankCount (Text.trim line.toList) then
        .error (.malformed (.tooManyBlanks 3 (String.ofList (Text.trim line.toList))))
      else Instruction.ofWords (words line.toList) := by
  by_cases crowded : 3 < Text.blankCount (Text.trim line.toList)
  · rw [if_pos crowded, ofLine, WordReader.ofLine, WordReader.maxBlanks, if_pos crowded]
    rfl
  rw [if_neg crowded, ofLine, WordReader.ofLine_of_few line crowded, ok_bind, ← Text.words_trim]
  obtain ⟨rest, found, behind⟩ := WordReader.next_words ⟨Text.trim line.toList⟩
  simp only [found]
  cases left : words (Text.trim line.toList) with
  | nil => rfl
  | cons first others =>
      have remaining : words rest = others := by rw [behind, left]; rfl
      have heading := Line.heading_eq first ⟨rest⟩
      rw [remaining] at heading
      simp only [List.head?_cons, ofWords]
      rw [← heading]
      cases Line.heading first ⟨rest⟩ with
      | error fault => rfl
      | ok headed =>
          obtain ⟨label, word, reader⟩ := headed
          simp only [Except.map, ok_bind, Line.bodyOf]
          cases Opcode.ofName? word with
          | none => rfl
          | some opcode =>
              have operation := WordReader.asWords_operation opcode reader
              simp only
              rw [← operation]
              cases reader.operation opcode with
              | error fault => rfl
              | ok read =>
                  simp only [WordReader.asWords, Except.map, ok_bind, WordReader.finish_eq]

/-! ## The words that spell an instruction -/

/-- The operands of an operation, as words.  A literal may be spelled in several ways. -/
def Operation.SpelledBy (operation : Operation) (operands : List String) : Prop :=
  match operation with
  | .arithmetic _ result source => operands = [result.name, source.name]
  | .mov result value =>
      ∃ word, Literal.parse? word = some value ∧ operands = [result.name, word]
  | .out source => operands = [source.name]
  | .jnz source target => operands = [source.name, target]

def Instruction.SpelledBy (instruction : Instruction) (words : List String) : Prop :=
  ∃ operands, instruction.operation.SpelledBy operands ∧
    match instruction.label with
    | none => words = instruction.operation.opcode.name :: operands
    | some label =>
        label ≠ "" ∧
          words = (label ++ ":") :: instruction.operation.opcode.name :: operands

theorem Operation.SpelledBy.length_le {operation : Operation} {operands : List String}
    (spelled : operation.SpelledBy operands) : operands.length ≤ 2 := by
  cases operation with
  | arithmetic kind result source => simp [show operands = _ from spelled]
  | mov result value =>
      obtain ⟨word, -, rfl⟩ := spelled
      simp
  | out source => simp [show operands = _ from spelled]
  | jnz source target => simp [show operands = _ from spelled]

theorem Instruction.SpelledBy.length_le {instruction : Instruction} {words : List String}
    (spelled : instruction.SpelledBy words) : words.length ≤ 4 := by
  obtain ⟨operands, fits, whole⟩ := spelled
  have few := fits.length_le
  split at whole
  · rw [whole, List.length_cons]
    omega
  · rw [whole.2, List.length_cons, List.length_cons]
    omega

theorem bind_eq_ok_iff {α β : Type} (first : Except Fault α) (next : α → Except Fault β)
    (result : β) :
    (first >>= next) = .ok result ↔ ∃ found, first = .ok found ∧ next found = .ok result := by
  cases first with
  | error fault =>
      constructor
      · intro failed
        contradiction
      · intro success
        obtain ⟨found, failed, -⟩ := success
        contradiction
  | ok found =>
      constructor
      · intro success
        exact ⟨found, rfl, success⟩
      · intro continued
        obtain ⟨_, ⟨⟩, success⟩ := continued
        exact success

theorem Register.named_eq_ok_iff (word : String) (register : Register) :
    named word = .ok register ↔ word = register.name := by
  rw [← ofName?_eq_some_iff, named]
  cases ofName? word with
  | none => simp
  | some found => simp

namespace Line

theorem label?_eq_some_iff (word label : String) :
    label? word = some label ↔ word = label ++ ":" := by
  unfold label?
  constructor
  · intro announced
    split at announced
    · next colon =>
        cases Option.some.inj announced
        obtain ⟨front, whole⟩ := List.getLast?_eq_some_iff.mp colon
        apply String.toList_inj.mp
        rw [String.toList_append, String.toList_ofList, whole, List.dropLast_concat]
        rfl
    · contradiction
  · intro spelled
    subst spelled
    have split : (label ++ ":").toList = label.toList ++ [':'] := String.toList_append
    rw [split, List.getLast?_concat, if_pos rfl, List.dropLast_concat, String.ofList_toList]

theorem label?_opcode (opcode : Opcode) : label? opcode.name = none := by
  rcases opcode with kind | _ | _ | _
  · cases kind <;> decide
  all_goals decide

theorem registerOf_eq_ok_iff (words left : List String) (register : Register) :
    registerOf words = .ok (register, left) ↔ words = register.name :: left := by
  cases words with
  | nil =>
      have missing : registerOf [] = .error (.invalidRegister "") := by decide
      simp [missing]
  | cons word words =>
      simp only [registerOf, List.head?_cons, Option.getD_some, List.tail_cons, List.cons.injEq]
      rw [← Register.named_eq_ok_iff]
      cases Register.named word with
      | error fault => simp
      | ok found => simp

theorem literalOf_eq_ok_iff (words left : List String) (value : Int32) :
    literalOf words = .ok (value, left) ↔
      ∃ word, Literal.parse? word = some value ∧ words = word :: left := by
  cases words with
  | nil =>
      have missing : literalOf [] = .error (.invalidLiteral "") := by decide
      simp [missing]
  | cons word words =>
      simp only [literalOf, List.head?_cons, Option.getD_some, List.tail_cons, List.cons.injEq]
      constructor
      · intro success
        cases denoted : Literal.parse? word with
        | none => simp [denoted] at success
        | some found =>
            simp only [denoted, Except.ok.injEq, Prod.mk.injEq] at success
            exact ⟨word, by rw [denoted, success.1], rfl, success.2⟩
      · intro spelled
        obtain ⟨_, denoted, rfl, rfl⟩ := spelled
        rw [denoted]

theorem targetOf_eq_ok_iff (words left : List String) (target : String) :
    targetOf words = .ok (target, left) ↔ words = target :: left := by
  cases words with
  | nil => simp [targetOf]
  | cons word words => simp [targetOf]

theorem finishOf_eq_ok_iff (words : List String) : finishOf words = .ok () ↔ words = [] := by
  cases words with
  | nil => simp [finishOf]
  | cons word words => simp [finishOf]

theorem operationOf_eq_ok_iff (opcode : Opcode) (words left : List String)
    (operation : Operation) :
    operationOf opcode words = .ok (operation, left) ↔
      operation.opcode = opcode ∧
        ∃ operands, operation.SpelledBy operands ∧ words = operands ++ left := by
  constructor
  · intro success
    cases opcode with
    | arithmetic kind =>
        simp only [operationOf, bind_eq_ok_iff, Prod.exists, registerOf_eq_ok_iff] at success
        obtain ⟨result, _, rfl, source, _, rfl, done⟩ := success
        obtain ⟨rfl, rfl⟩ := Prod.mk.inj (Except.ok.inj done)
        exact ⟨rfl, _, rfl, rfl⟩
    | mov =>
        simp only [operationOf, bind_eq_ok_iff, Prod.exists, registerOf_eq_ok_iff,
          literalOf_eq_ok_iff] at success
        obtain ⟨result, _, rfl, value, _, ⟨word, denoted, rfl⟩, done⟩ := success
        obtain ⟨rfl, rfl⟩ := Prod.mk.inj (Except.ok.inj done)
        exact ⟨rfl, _, ⟨word, denoted, rfl⟩, rfl⟩
    | out =>
        simp only [operationOf, bind_eq_ok_iff, Prod.exists, registerOf_eq_ok_iff] at success
        obtain ⟨source, _, rfl, done⟩ := success
        obtain ⟨rfl, rfl⟩ := Prod.mk.inj (Except.ok.inj done)
        exact ⟨rfl, _, rfl, rfl⟩
    | jnz =>
        simp only [operationOf, bind_eq_ok_iff, Prod.exists, registerOf_eq_ok_iff,
          targetOf_eq_ok_iff] at success
        obtain ⟨source, _, rfl, target, _, rfl, done⟩ := success
        obtain ⟨rfl, rfl⟩ := Prod.mk.inj (Except.ok.inj done)
        exact ⟨rfl, _, rfl, rfl⟩
  · intro fits
    obtain ⟨rfl, operands, spelled, rfl⟩ := fits
    cases operation with
    | arithmetic kind result source =>
        cases spelled
        simp only [Operation.opcode, operationOf, bind_eq_ok_iff, Prod.exists,
          registerOf_eq_ok_iff]
        exact ⟨result, _, rfl, source, _, rfl, rfl⟩
    | mov result value =>
        obtain ⟨word, denoted, rfl⟩ := spelled
        simp only [Operation.opcode, operationOf, bind_eq_ok_iff, Prod.exists,
          registerOf_eq_ok_iff, literalOf_eq_ok_iff]
        exact ⟨result, _, rfl, value, _, ⟨word, denoted, rfl⟩, rfl⟩
    | out source =>
        cases spelled
        simp only [Operation.opcode, operationOf, bind_eq_ok_iff, Prod.exists,
          registerOf_eq_ok_iff]
        exact ⟨source, _, rfl, rfl⟩
    | jnz source target =>
        cases spelled
        simp only [Operation.opcode, operationOf, bind_eq_ok_iff, Prod.exists,
          registerOf_eq_ok_iff, targetOf_eq_ok_iff]
        exact ⟨source, _, rfl, target, _, rfl, rfl⟩

theorem headingOf_of_unlabelled (first : String) (rest : List String)
    (unannounced : label? first = none) : headingOf first rest = .ok (none, first, rest) := by
  rw [headingOf, unannounced]

theorem headingOf_of_labelled (name word : String) (rest : List String) (nonempty : name ≠ "") :
    headingOf (name ++ ":") (word :: rest) = .ok (some name, word, rest) := by
  rw [headingOf, (label?_eq_some_iff (name ++ ":") name).mpr rfl]
  simp [nonempty]

theorem headingOf_cases (first : String) (rest : List String)
    (heading : Option String × String × List String)
    (success : headingOf first rest = .ok heading) :
    (label? first = none ∧ heading = (none, first, rest)) ∨
      ∃ name word left, name ≠ "" ∧ first = name ++ ":" ∧ rest = word :: left ∧
        heading = (some name, word, left) := by
  unfold headingOf at success
  cases announced : label? first with
  | none =>
      simp only [announced, Except.ok.injEq] at success
      exact Or.inl ⟨rfl, success.symm⟩
  | some name =>
      simp only [announced] at success
      split at success
      · contradiction
      · next nonempty =>
          cases rest with
          | nil => contradiction
          | cons word left =>
              have colon := (label?_eq_some_iff first name).mp announced
              exact Or.inr ⟨name, word, left, nonempty, colon, rfl, (Except.ok.inj success).symm⟩

theorem bodyOf_eq_some_iff (label : Option String) (word : String) (rest : List String)
    (instruction : Instruction) :
    bodyOf label word rest = .ok (some instruction) ↔
      instruction.label = label ∧ word = instruction.operation.opcode.name ∧
        instruction.operation.SpelledBy rest := by
  obtain ⟨own, operation⟩ := instruction
  rw [← Opcode.ofName?_eq_some_iff, bodyOf]
  cases named : Opcode.ofName? word with
  | none =>
      constructor
      · intro failed
        contradiction
      · intro fits
        obtain ⟨-, found, -⟩ := fits
        contradiction
  | some opcode =>
      simp only [bind_eq_ok_iff, Prod.exists, operationOf_eq_ok_iff]
      constructor
      · intro success
        obtain ⟨read, left, ⟨rfl, operands, spelled, rfl⟩, ⟨⟩, finished, done⟩ := success
        obtain rfl := (finishOf_eq_ok_iff left).mp finished
        obtain ⟨rfl, rfl⟩ := Instruction.mk.inj (Option.some.inj (Except.ok.inj done))
        rw [List.append_nil]
        exact ⟨rfl, rfl, spelled⟩
      · intro fits
        obtain ⟨rfl, sameOpcode, spelled⟩ := fits
        cases Option.some.inj sameOpcode
        exact ⟨operation, [], ⟨rfl, rest, spelled, (List.append_nil rest).symm⟩, (), rfl, rfl⟩

end Line

namespace Instruction

/-- A list of words makes an instruction exactly when it spells the instruction. -/
theorem ofWords_eq_some_iff (words : List String) (instruction : Instruction) :
    ofWords words = .ok (some instruction) ↔ instruction.SpelledBy words := by
  cases words with
  | nil =>
      constructor
      · intro blank
        exact nomatch Except.ok.inj blank
      · intro spelling
        obtain ⟨operands, -, spelled⟩ := spelling
        split at spelled
        · contradiction
        · exact nomatch spelled.2
  | cons first rest =>
      rw [ofWords, bind_eq_ok_iff]
      constructor
      · intro success
        obtain ⟨heading, headed, body⟩ := success
        rcases Line.headingOf_cases first rest heading headed with
          ⟨unannounced, rfl⟩ | ⟨name, word, left, nonempty, rfl, rfl, rfl⟩
        · obtain ⟨unlabelled, rfl, spelled⟩ := (Line.bodyOf_eq_some_iff none first rest _).mp body
          exact ⟨rest, spelled, by rw [unlabelled]⟩
        · obtain ⟨labelled, rfl, spelled⟩ := (Line.bodyOf_eq_some_iff _ word left _).mp body
          exact ⟨left, spelled, by rw [labelled]; exact ⟨nonempty, rfl⟩⟩
      · obtain ⟨label, operation⟩ := instruction
        intro spelling
        obtain ⟨operands, spelled, whole⟩ := spelling
        cases label with
        | none =>
            obtain ⟨rfl, rfl⟩ := List.cons.inj whole
            exact ⟨_, Line.headingOf_of_unlabelled _ _ (Line.label?_opcode _),
              (Line.bodyOf_eq_some_iff none _ _ _).mpr ⟨rfl, rfl, spelled⟩⟩
        | some name =>
            obtain ⟨nonempty, whole⟩ := whole
            obtain ⟨rfl, rfl⟩ := List.cons.inj whole
            exact ⟨_, Line.headingOf_of_labelled name _ _ nonempty,
              (Line.bodyOf_eq_some_iff (some name) _ _ _).mpr ⟨rfl, rfl, spelled⟩⟩

theorem ofLine_eq_some_iff (line : String) (instruction : Instruction) :
    ofLine line = .ok (some instruction) ↔
      Text.blankCount (Text.trim line.toList) ≤ 3 ∧
        instruction.SpelledBy (words line.toList) := by
  rw [ofLine_eq_ofWords]
  by_cases crowded : 3 < Text.blankCount (Text.trim line.toList)
  · rw [if_pos crowded]
    constructor
    · intro failed
      contradiction
    · intro spelled
      have few := spelled.1
      omega
  · rw [if_neg crowded, ofWords_eq_some_iff]
    constructor
    · intro spelled
      exact ⟨by omega, spelled⟩
    · intro spelled
      exact spelled.2

/-! ## All lines -/

/-- The instruction is what the line says: the trimmed line is not crowded, and its words spell
the instruction and nothing else. -/
def StandsOn (instruction : Instruction) (line : String) : Prop :=
  Text.blankCount (Text.trim line.toList) ≤ 3 ∧
    instruction.SpelledBy (words (Text.trim line.toList))

theorem ofLine_iff_standsOn (line : String) (instruction : Instruction) :
    ofLine line = .ok (some instruction) ↔ instruction.StandsOn line := by
  rw [ofLine_eq_some_iff, StandsOn, Text.words_trim]

theorem ofWords_eq_none_iff (words : List String) : ofWords words = .ok none ↔ words = [] := by
  cases words with
  | nil => exact ⟨fun _ => rfl, fun _ => rfl⟩
  | cons first rest =>
      constructor
      · intro blank
        obtain ⟨⟨label, word, left⟩, -, body⟩ := (bind_eq_ok_iff _ _ _).mp blank
        simp only [Line.bodyOf] at body
        split at body
        · contradiction
        · obtain ⟨⟨operation, left⟩, -, finished⟩ := (bind_eq_ok_iff _ _ _).mp body
          obtain ⟨_, -, made⟩ := (bind_eq_ok_iff _ _ _).mp finished
          exact nomatch Except.ok.inj made
      · intro empty
        contradiction

theorem ofLine_eq_none_iff (line : String) :
    ofLine line = .ok none ↔ ∀ c ∈ line.toList, Text.isBlank c = true := by
  rw [ofLine_eq_ofWords, ← Text.words_eq_nil_iff, ← ofWords_eq_none_iff]
  by_cases crowded : 3 < Text.blankCount (Text.trim line.toList)
  · rw [if_pos crowded]
    constructor
    · intro failed
      contradiction
    intro blank
    rw [ofWords_eq_none_iff, Text.words_eq_nil_iff, ← Text.trimStart_eq_nil_iff] at blank
    rw [Text.trim, blank] at crowded
    exact absurd crowded (by decide)
  · rw [if_neg crowded]

/-- A line without words is blank, a line whose words spell an instruction holds it, and there is
at most one such instruction; every other line is a fault. -/
theorem ofLine_accepts_exactly_grammar (line : String) :
    (ofLine line = .ok none ↔ ∀ c ∈ line.toList, Text.isBlank c = true) ∧
      (∀ instruction : Instruction,
        ofLine line = .ok (some instruction) ↔ instruction.StandsOn line) ∧
      (∀ first second : Instruction, first.StandsOn line → second.StandsOn line →
        first = second) ∧
      ((∃ fault, ofLine line = .error fault) ↔
        (∃ c ∈ line.toList, Text.isBlank c = false) ∧
          ∀ instruction : Instruction, ¬ instruction.StandsOn line) := by
  have blank := ofLine_eq_none_iff line
  have holds := ofLine_iff_standsOn line
  refine ⟨blank, holds, ?_, ?_⟩
  · intro first second firstStands secondStands
    rw [← holds] at firstStands secondStands
    rw [firstStands] at secondStands
    exact Option.some.inj (Except.ok.inj secondStands)
  · have visible : (∃ c ∈ line.toList, Text.isBlank c = false) ↔ ofLine line ≠ .ok none := by
      rw [Ne, blank]
      simp
    simp only [visible, ← holds]
    cases ofLine line with
    | error fault => simp
    | ok found =>
        cases found with
        | none => simp
        | some instruction => simp

theorem ofLine_accepts_colons_and_wide_blanks :
    StandsOn ⟨some "a:", .jnz .esi "b:"⟩ "\u00a0a::\tjnz ESI b:\u3000" ∧
      ofLine "\u00a0a::\tjnz ESI b:\u3000" = .ok (some ⟨some "a:", .jnz .esi "b:"⟩) ∧
      ∀ other : Instruction, other.StandsOn "\u00a0a::\tjnz ESI b:\u3000" →
        other = ⟨some "a:", .jnz .esi "b:"⟩ := by
  obtain ⟨-, holds, unique, -⟩ :=
    ofLine_accepts_exactly_grammar "\u00a0a::\tjnz ESI b:\u3000"
  have stands : StandsOn ⟨some "a:", .jnz .esi "b:"⟩ "\u00a0a::\tjnz ESI b:\u3000" :=
    ⟨by decide +kernel, ["ESI", "b:"], rfl, by decide, by decide +kernel⟩
  exact ⟨stands, (holds _).mpr stands, fun other spelled => unique other _ spelled stands⟩

end Instruction

end RegisterMachine
