import RegisterMachine.Assembly
import RegisterMachine.Proofs.Coherence
import RegisterMachine.Proofs.Grammar

/-!
# The first fault of a text

A line is bad when it holds no instruction, or when an earlier line has its label.  Assembly
works on two stores at once and stops where it likes, but what it gives can be said without it:
the first bad line, or else the instructions of all lines with a table of their labels.
-/

set_option autoImplicit false

namespace RegisterMachine

namespace Line

def Labelled (line label : String) : Prop :=
  ∃ instruction, Instruction.ofLine line = .ok (some instruction) ∧
    instruction.label = some label

def Clash (line other : String) : Prop :=
  ∃ label, Labelled line label ∧ Labelled other label

/-- What is wrong with a line that stands behind others. -/
def Bad (earlier : List String) (line : String) (fault : Fault) : Prop :=
  Instruction.ofLine line = .error fault ∨
    ∃ label, Labelled line label ∧ (∃ other ∈ earlier, Labelled other label) ∧
      fault = .duplicateLabel label

end Line

/-- What is wrong with the line that has this index. -/
def BadLine (lines : List String) (index : Nat) (fault : Fault) : Prop :=
  ∃ line, lines[index]? = some line ∧ Line.Bad (lines.take index) line fault

def Instruction.onLine? (line : String) : Option Instruction :=
  match Instruction.ofLine line with
  | .ok found => found
  | .error _ => none

/-- The code consists of what these lines hold. -/
structure Code.Holds (code : Code) (lines : List String) : Prop where
  instructions : code.program.toList = lines.filterMap Instruction.onLine?
  coherent : code.Coherent

/-! ## Lines -/

namespace Instruction

theorem onLine?_eq_some_iff (line : String) (instruction : Instruction) :
    onLine? line = some instruction ↔ ofLine line = .ok (some instruction) := by
  unfold onLine?
  cases ofLine line with
  | error fault => simp
  | ok found => simp

theorem label_ne_empty_of_ofLine (line label : String) (instruction : Instruction)
    (read : ofLine line = .ok (some instruction)) (labelled : instruction.label = some label) :
    label ≠ "" := by
  obtain ⟨-, operands, -, spelled⟩ := (ofLine_eq_some_iff line instruction).mp read
  rw [labelled] at spelled
  exact spelled.1

end Instruction

namespace Line

theorem bad_of_unread (earlier : List String) (line : String) (fault other : Fault)
    (unread : Instruction.ofLine line = .error fault) :
    Bad earlier line other ↔ other = fault := by
  unfold Bad Labelled
  rw [unread]
  simp [eq_comm]

theorem not_bad_of_blank (earlier : List String) (line : String) (fault : Fault)
    (blank : Instruction.ofLine line = .ok none) : ¬ Bad earlier line fault := by
  unfold Bad Labelled
  rw [blank]
  simp

theorem bad_of_read (earlier : List String) (line : String) (fault : Fault)
    (instruction : Instruction) (read : Instruction.ofLine line = .ok (some instruction)) :
    Bad earlier line fault ↔
      ∃ label, instruction.label = some label ∧ (∃ other ∈ earlier, Labelled other label) ∧
        fault = .duplicateLabel label := by
  constructor
  · intro bad
    rcases bad with unread | ⟨label, ⟨found, same, labelled⟩, duplicate, named⟩
    · rw [read] at unread
      contradiction
    · rw [read] at same
      cases same
      exact ⟨label, labelled, duplicate, named⟩
  · intro duplicated
    obtain ⟨label, labelled, duplicate, named⟩ := duplicated
    exact Or.inr ⟨label, ⟨instruction, read, labelled⟩, duplicate, named⟩

theorem Clash.symm {line other : String} (clash : Clash line other) : Clash other line := by
  obtain ⟨label, left, right⟩ := clash
  exact ⟨label, right, left⟩

end Line

theorem badLine_append (earlier rest : List String) (line : String) (fault : Fault) :
    BadLine (earlier ++ line :: rest) earlier.length fault ↔ Line.Bad earlier line fault := by
  unfold BadLine
  rw [List.getElem?_append_right (Nat.le_refl _), Nat.sub_self, List.take_left]
  simp

theorem forall_not_badLine_iff (lines : List String) :
    (∀ index fault, ¬ BadLine lines index fault) ↔
      (∀ line ∈ lines, ∃ found, Instruction.ofLine line = .ok found) ∧
        lines.Pairwise fun earlier later => ¬ Line.Clash earlier later := by
  constructor
  · intro good
    constructor
    · intro line member
      obtain ⟨index, found⟩ := List.mem_iff_getElem?.mp member
      cases read : Instruction.ofLine line with
      | ok instruction => exact ⟨instruction, rfl⟩
      | error fault => exact absurd ⟨line, found, .inl read⟩ (good index fault)
    · rw [List.pairwise_iff_getElem]
      intro first second before inside ascending clash
      obtain ⟨label, earlier, later⟩ := clash
      have member : lines[first] ∈ lines.take second :=
        List.mem_take_iff_getElem.mpr ⟨first, by omega, rfl⟩
      exact good second (.duplicateLabel label) ⟨lines[second], List.getElem?_eq_getElem inside,
        .inr ⟨label, later, ⟨lines[first], member, earlier⟩, rfl⟩⟩
  · intro sound index fault bad
    obtain ⟨readable, apart⟩ := sound
    obtain ⟨line, found, unread | ⟨label, later, ⟨other, member, earlier⟩, -⟩⟩ := bad
    · obtain ⟨instruction, read⟩ := readable line (List.mem_of_getElem? found)
      rw [unread] at read
      contradiction
    · obtain ⟨first, before, rfl⟩ := List.mem_take_iff_getElem.mp member
      obtain ⟨inside, rfl⟩ := List.getElem?_eq_some_iff.mp found
      exact List.pairwise_iff_getElem.mp apart first index (by omega) inside (by omega)
        ⟨label, earlier, later⟩

/-! ## One line -/

namespace Code

theorem Holds.mem_names_iff {code : Code} {lines : List String} (holds : code.Holds lines)
    (label : String) :
    label ∈ code.labels.names ↔ ∃ line ∈ lines, Line.Labelled line label := by
  rw [holds.coherent.mem_names_iff, Program.exists_carries_iff, holds.instructions]
  simp only [List.mem_filterMap, Instruction.onLine?_eq_some_iff, Line.Labelled]
  constructor
  · intro carried
    obtain ⟨instruction, ⟨line, member, read⟩, labelled⟩ := carried
    exact ⟨line, member, instruction, read, labelled⟩
  · intro present
    obtain ⟨line, member, instruction, read, labelled⟩ := present
    exact ⟨instruction, ⟨line, member, read⟩, labelled⟩

theorem Holds.skip {code : Code} {lines : List String} (holds : code.Holds lines)
    (line : String) (blank : Instruction.ofLine line = .ok none) :
    code.Holds (lines ++ [line]) := by
  have empty : Instruction.onLine? line = none := by rw [Instruction.onLine?, blank]
  exact ⟨by simp [List.filterMap_append, empty, holds.instructions], holds.coherent⟩

theorem Holds.push {code extended : Code} {lines : List String} (holds : code.Holds lines)
    (line : String) (instruction : Instruction)
    (read : Instruction.ofLine line = .ok (some instruction))
    (pushed : code.push instruction = .ok extended) : extended.Holds (lines ++ [line]) := by
  have found := (Instruction.onLine?_eq_some_iff line instruction).mpr read
  refine ⟨?_, holds.coherent.push pushed⟩
  rw [push_program code extended instruction pushed, Program.toList_push, holds.instructions]
  simp [List.filterMap_append, found]

theorem Holds.addLine {code : Code} {earlier : List String} (holds : code.Holds earlier)
    (line : String) :
    (∃ fault, code.addLine line = .error fault ∧
        ∀ other, Line.Bad earlier line other ↔ other = fault) ∨
      ∃ extended log, code.addLine line = .ok (extended, log) ∧
        extended.Holds (earlier ++ [line]) ∧ ∀ fault, ¬ Line.Bad earlier line fault := by
  unfold Code.addLine
  cases read : Instruction.ofLine line with
  | error fault =>
      exact Or.inl ⟨fault, rfl, fun other => Line.bad_of_unread earlier line fault other read⟩
  | ok found =>
      cases found with
      | none =>
          exact Or.inr ⟨code, [], rfl, holds.skip line read,
            fun fault => Line.not_bad_of_blank earlier line fault read⟩
      | some instruction =>
          have duplicate : ∀ other, Line.Bad earlier line other ↔
              code.push instruction = .error other := by
            intro other
            rw [Line.bad_of_read earlier line other instruction read, push_error_iff]
            apply exists_congr
            intro label
            apply and_congr_right
            intro labelled
            have nonempty :=
              Instruction.label_ne_empty_of_ofLine line label instruction read labelled
            simp [nonempty, holds.mem_names_iff]
          cases pushed : code.push instruction with
          | error fault =>
              refine Or.inl ⟨fault, by simp [bind, Except.bind, pushed], ?_⟩
              intro other
              rw [duplicate, pushed]
              simp [eq_comm]
          | ok extended =>
              refine Or.inr ⟨extended, [.assembled code.program.size instruction],
                by simp [bind, Except.bind, pushed]; rfl,
                holds.push line instruction read pushed, ?_⟩
              intro fault bad
              rw [duplicate, pushed] at bad
              contradiction

/-! ## All lines -/

/-- How the assembly of some lines went, when it began behind others that were not bad. -/
def Stops (assembly : Assembly) (earlier lines : List String) : Prop :=
  (assembly.result = .ok () ∧ assembly.code.Holds lines ∧
      ∀ index fault, earlier.length ≤ index → ¬ BadLine lines index fault) ∨
    ∃ located, assembly.result = .error located ∧
      assembly.code.Holds (lines.take located.line) ∧
      (∀ fault, BadLine lines located.line fault ↔ fault = located.fault) ∧
      ∀ index fault, earlier.length ≤ index → index < located.line → ¬ BadLine lines index fault

theorem Holds.addLines {code : Code} {earlier : List String} (holds : code.Holds earlier)
    (rest : List String) :
    Stops (code.addLines earlier.length rest) earlier (earlier ++ rest) := by
  induction rest generalizing code earlier with
  | nil =>
      refine Or.inl ⟨rfl, by rw [List.append_nil]; exact holds, ?_⟩
      intro index fault behind bad
      obtain ⟨line, found, -⟩ := bad
      rw [List.append_nil, List.getElem?_eq_none behind] at found
      contradiction
  | cons line rest ih =>
      rcases holds.addLine line with ⟨fault, refused, bad⟩ | ⟨extended, log, added, held, good⟩
      · refine Or.inr ⟨⟨earlier.length, fault⟩, ?_, ?_, ?_, ?_⟩
        · rw [Code.addLines, refused]
        · rw [Code.addLines, refused, List.take_left]
          exact holds
        · intro other
          rw [badLine_append, bad]
        · intro index other behind before
          exact absurd before (Nat.not_lt.mpr behind)
      · have whole : earlier ++ line :: rest = earlier ++ [line] ++ rest := by simp
        have later := ih held
        rw [List.length_append, List.length_singleton, ← whole] at later
        have stillGood : ∀ index fault, earlier.length ≤ index → index < earlier.length + 1 →
            ¬ BadLine (earlier ++ line :: rest) index fault := by
          intro index fault behind before
          obtain rfl : index = earlier.length := by omega
          rw [badLine_append]
          exact good fault
        have same : code.addLines earlier.length (line :: rest) =
            { extended.addLines (earlier.length + 1) rest with
              log := log ++ (extended.addLines (earlier.length + 1) rest).log } := by
          rw [Code.addLines, added]
        rw [same]
        rcases later with ⟨result, final, none⟩ | ⟨located, result, final, bad, none⟩
        · refine Or.inl ⟨result, final, ?_⟩
          intro index fault behind
          by_cases before : index < earlier.length + 1
          · exact stillGood index fault behind before
          · exact none index fault (by simp; omega)
        · refine Or.inr ⟨located, result, final, bad, ?_⟩
          intro index fault behind before
          by_cases first : index < earlier.length + 1
          · exact stillGood index fault behind first
          · exact none index fault (by simp; omega) before

/-- Lines that are added to empty code are all there, or those before the first bad one are. -/
theorem stops_addLines (lines : List String) : Stops (empty.addLines 0 lines) [] lines := by
  have start : empty.Holds [] := ⟨rfl, coherent_empty⟩
  have stops := start.addLines lines
  rwa [List.nil_append] at stops

theorem ofText_cases_of_lines (text : String) (lines : List String)
    (read : empty.refill text = empty.addLines 0 lines) :
    (∃ code, ofText text = .ok code ∧ code.Holds lines ∧
        ∀ index fault, ¬ BadLine lines index fault) ∨
      ∃ located, ofText text = .error located ∧
        (∀ fault, BadLine lines located.line fault ↔ fault = located.fault) ∧
        ∀ index fault, index < located.line → ¬ BadLine lines index fault := by
  simp only [ofText_eq_ok_iff, ofText_eq_error_iff, read]
  rcases stops_addLines lines with ⟨result, held, none⟩ | ⟨located, result, -, bad, none⟩
  · exact Or.inl ⟨_, ⟨result, rfl⟩, held,
      fun index fault => none index fault (Nat.zero_le index)⟩
  · exact Or.inr ⟨located, result, bad,
      fun index fault => none index fault (Nat.zero_le index)⟩

/-- The code of a text holds all its lines, or its first bad line is reported. -/
theorem ofText_cases (text : String) :
    (∃ code, ofText text = .ok code ∧ code.Holds (Text.lines text) ∧
        ∀ index fault, ¬ BadLine (Text.lines text) index fault) ∨
      ∃ located, ofText text = .error located ∧
        (∀ fault, BadLine (Text.lines text) located.line fault ↔ fault = located.fault) ∧
        ∀ index fault, index < located.line → ¬ BadLine (Text.lines text) index fault :=
  ofText_cases_of_lines text (Text.lines text) rfl

theorem holds_of_ofText_of_lines (text : String) (lines : List String) (code : Code)
    (read : empty.refill text = empty.addLines 0 lines) (success : ofText text = .ok code) :
    code.Holds lines := by
  rcases ofText_cases_of_lines text lines read with ⟨found, same, held, -⟩ | ⟨located, failed, -, -⟩
  · rw [same] at success
    cases success
    exact held
  · rw [failed] at success
    contradiction

theorem holds_of_ofText (text : String) (code : Code) (success : ofText text = .ok code) :
    code.Holds (Text.lines text) :=
  holds_of_ofText_of_lines text (Text.lines text) code rfl success

theorem exists_ofText_iff_of_lines (text : String) (lines : List String)
    (read : empty.refill text = empty.addLines 0 lines) :
    (∃ code, ofText text = .ok code) ↔ ∀ index fault, ¬ BadLine lines index fault := by
  rcases ofText_cases_of_lines text lines read with
    ⟨code, assembled, -, good⟩ | ⟨located, failed, bad, -⟩
  · exact ⟨fun _ => good, fun _ => ⟨code, assembled⟩⟩
  · constructor
    · intro success
      obtain ⟨code, assembled⟩ := success
      rw [failed] at assembled
      contradiction
    · intro good
      exact absurd ((bad _).mpr rfl) (good located.line located.fault)

theorem least_badLine_unique (lines : List String) (first second : Nat) (fault other : Fault)
    (firstBad : BadLine lines first fault) (secondBad : BadLine lines second other)
    (firstLeast : ∀ index fault, index < first → ¬ BadLine lines index fault)
    (secondLeast : ∀ index fault, index < second → ¬ BadLine lines index fault) :
    first = second := by
  rcases Nat.lt_trichotomy first second with before | same | after
  · exact absurd firstBad (secondLeast first fault before)
  · exact same
  · exact absurd secondBad (firstLeast second other after)

theorem ofText_error_iff (text : String) (located : SourceFault) :
    ofText text = .error located ↔
      BadLine (Text.lines text) located.line located.fault ∧
        ∀ index fault, index < located.line → ¬ BadLine (Text.lines text) index fault := by
  rcases ofText_cases text with ⟨code, success, -, good⟩ | ⟨found, failed, bad, first⟩
  · rw [success]
    exact ⟨fun failed => (nomatch failed), fun least => absurd least.1 (good _ _)⟩
  · have badHere : BadLine (Text.lines text) found.line found.fault := (bad _).mpr rfl
    rw [failed]
    constructor
    · intro same
      cases same
      exact ⟨badHere, first⟩
    · intro least
      obtain ⟨otherBad, otherFirst⟩ := least
      have line : found.line = located.line :=
        least_badLine_unique _ _ _ _ _ badHere otherBad first otherFirst
      rw [← line, bad] at otherBad
      obtain ⟨place, fault⟩ := found
      obtain ⟨place', fault'⟩ := located
      cases line
      cases otherBad
      rfl

/-- Assembly reports the least bad line with what is wrong with it.  Where no line is bad it
gives the instructions of the lines in order, and the table of their labels. -/
theorem ofText_reports_first_bad_line (text : String) :
    (∀ located, ofText text = .error located ↔
        BadLine (Text.lines text) located.line located.fault ∧
          ∀ index fault, index < located.line → ¬ BadLine (Text.lines text) index fault) ∧
      ((∃ located, ofText text = .error located) ↔
        ∃ index fault, BadLine (Text.lines text) index fault) ∧
      ((∀ index fault, ¬ BadLine (Text.lines text) index fault) →
        ∃ code, ofText text = .ok code ∧
          code.program.toList = (Text.lines text).filterMap Instruction.onLine? ∧
          (∀ label address, code.labels.address label = .ok address ↔
            code.program.Carries address label) ∧
          code.labels.size = (code.program.toList.filter Instruction.isLabelled).length ∧
          ∀ label address, code.labels.address label = .ok address →
            address < code.program.size) := by
  refine ⟨ofText_error_iff text, ?_⟩
  rcases ofText_cases text with ⟨code, success, held, good⟩ | ⟨located, failed, bad, first⟩
  · refine ⟨?_, fun _ => ⟨code, success, held.instructions, held.coherent.address_iff,
      held.coherent.labels_size, ?_⟩⟩
    · rw [success]
      exact ⟨fun ⟨_, failed⟩ => (nomatch failed), fun ⟨index, fault, bad⟩ =>
        absurd bad (good index fault)⟩
    · intro label address bound
      exact code.program.carries_lt_size address label
        ((held.coherent.address_iff label address).mp bound)
  · have badHere : BadLine (Text.lines text) located.line located.fault := (bad _).mpr rfl
    exact ⟨⟨fun _ => ⟨_, _, badHere⟩, fun _ => ⟨located, failed⟩⟩,
      fun good => absurd badHere (good _ _)⟩

theorem ofText_reports_no_line_of_clean_text :
    (∀ index fault, ¬ BadLine (Text.lines "mov EAX 1\n\nf: out EAX") index fault) ∧
      ∃ code, ofText "mov EAX 1\n\nf: out EAX" = .ok code ∧
        code.labels.address "f" = .ok 1 := by
  obtain ⟨-, failure, success⟩ := ofText_reports_first_bad_line "mov EAX 1\n\nf: out EAX"
  have clean : ∀ index fault,
      ¬ BadLine (Text.lines "mov EAX 1\n\nf: out EAX") index fault := by
    intro index fault bad
    obtain ⟨located, failed⟩ := failure.mpr ⟨index, fault, bad⟩
    have assembled : (ofText "mov EAX 1\n\nf: out EAX").isOk = true := by decide +kernel
    rw [failed] at assembled
    contradiction
  obtain ⟨code, assembled, instructions, table, -⟩ := success clean
  have program : code.program.toList = [⟨none, .mov .eax 1⟩, ⟨some "f", .out .eax⟩] := by
    rw [instructions]
    decide +kernel
  refine ⟨clean, code, assembled, (table "f" 1).mpr ⟨⟨some "f", .out .eax⟩, ?_, rfl⟩⟩
  rw [Program.get?_eq_getElem?, program]
  rfl

end Code

end RegisterMachine
