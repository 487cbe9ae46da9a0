import RegisterMachine.Code

/-!
# Code whose table agrees with its program

Code is coherent when its table binds the label of every labelled instruction to the address of
that instruction, and binds nothing else.  Empty code is coherent and stays so when instructions
are pushed, and coherent code is determined by its program.
-/

set_option autoImplicit false

namespace RegisterMachine

namespace Program

/-- The instruction at an address carries a label. -/
def Carries (program : Program) (address : Nat) (label : String) : Prop :=
  ∃ instruction, program.get? address = some instruction ∧ instruction.label = some label

def bindings (program : Program) : List (String × Nat) :=
  program.toList.zipIdx.filterMap fun entry => entry.1.label.map fun label => (label, entry.2)

theorem mem_bindings (program : Program) (label : String) (address : Nat) :
    (label, address) ∈ program.bindings ↔ program.Carries address label := by
  simp only [bindings, List.mem_filterMap, Option.map_eq_some_iff, Carries]
  constructor
  · intro bound
    obtain ⟨⟨instruction, place⟩, member, name, labelled, same⟩ := bound
    obtain ⟨rfl, rfl⟩ := Prod.mk.inj same
    rw [List.mk_mem_zipIdx_iff_getElem?, ← get?_eq_getElem?] at member
    exact ⟨instruction, member, labelled⟩
  · intro carries
    obtain ⟨instruction, fetched, labelled⟩ := carries
    rw [get?_eq_getElem?, ← List.mk_mem_zipIdx_iff_getElem?] at fetched
    exact ⟨(instruction, address), fetched, label, labelled, rfl⟩

theorem bindings_push (program : Program) (instruction : Instruction) :
    (program.push instruction).bindings =
      program.bindings ++
        (instruction.label.map fun label => (label, program.size)).toList := by
  rw [bindings, toList_push, List.zipIdx_append, List.filterMap_append, List.zipIdx_singleton,
    size_eq_length]
  cases labelled : instruction.label with
  | none => simp [labelled, bindings]
  | some label => simp [labelled, bindings]

theorem bindings_length (program : Program) :
    program.bindings.length = (program.toList.filter Instruction.isLabelled).length := by
  have general : ∀ (instructions : List Instruction) (start : Nat),
      ((instructions.zipIdx start).filterMap fun entry =>
          entry.1.label.map fun label => (label, entry.2)).length =
        (instructions.filter Instruction.isLabelled).length := by
    intro instructions
    induction instructions with
    | nil => intro start; rfl
    | cons instruction instructions ih =>
        intro start
        rw [List.zipIdx_cons, List.filterMap_cons, List.filter_cons]
        cases labelled : instruction.label with
        | none => simp [labelled, Instruction.isLabelled, ih]
        | some label => simp [labelled, Instruction.isLabelled, ih]
  exact general program.toList 0

theorem exists_carries_iff (program : Program) (label : String) :
    (∃ address, program.Carries address label) ↔
      ∃ instruction ∈ program.toList, instruction.label = some label := by
  simp only [Carries, get?_eq_getElem?, List.mem_iff_getElem?]
  constructor
  · intro carried
    obtain ⟨address, instruction, fetched, labelled⟩ := carried
    exact ⟨instruction, ⟨address, fetched⟩, labelled⟩
  · intro present
    obtain ⟨instruction, ⟨address, fetched⟩, labelled⟩ := present
    exact ⟨address, instruction, fetched, labelled⟩

theorem carries_lt_size (program : Program) (address : Nat) (label : String)
    (carries : program.Carries address label) : address < program.size := by
  obtain ⟨instruction, fetched, -⟩ := carries
  exact program.lt_size_of_get? address instruction fetched

end Program

namespace Code

/-- The table holds the labels of the program, the latest first. -/
def Coherent (code : Code) : Prop :=
  code.labels.bindings = code.program.bindings.reverse

theorem coherent_empty : Coherent empty := rfl

theorem push_of_unlabelled (code : Code) (instruction : Instruction)
    (unlabelled : instruction.label = none) :
    code.push instruction = .ok ⟨code.program.push instruction, code.labels⟩ := by
  simp only [push, unlabelled]

theorem push_error_iff (code : Code) (instruction : Instruction) (fault : Fault) :
    code.push instruction = .error fault ↔
      ∃ label, instruction.label = some label ∧
        (label = "" ∧ fault = .malformed .emptyLabel ∨
          label ≠ "" ∧ label ∈ code.labels.names ∧ fault = .duplicateLabel label) := by
  cases labelled : instruction.label with
  | none => simp [push, labelled]
  | some label =>
      simp only [push, labelled, Labels.insert]
      by_cases empty : label = ""
      · simp [empty, eq_comm]
      · by_cases bound : label ∈ code.labels.names
        · simp [empty, bound, eq_comm]
        · simp [empty, bound]

theorem Coherent.push {code extended : Code} {instruction : Instruction}
    (coherent : code.Coherent) (success : code.push instruction = .ok extended) :
    extended.Coherent := by
  unfold Coherent at coherent ⊢
  cases labelled : instruction.label with
  | none =>
      rw [push_of_unlabelled code instruction labelled] at success
      cases Except.ok.inj success
      simp only [Program.bindings_push, labelled, Option.map_none, Option.toList_none,
        List.append_nil]
      exact coherent
  | some label =>
      simp only [Code.push, labelled] at success
      split at success
      · next labels inserted =>
          obtain ⟨-, -, bindings⟩ := Labels.insert_ok _ _ _ _ inserted
          cases Except.ok.inj success
          simp only [Program.bindings_push, labelled, Option.map_some, Option.toList_some,
            List.reverse_append, List.reverse_singleton, bindings, coherent,
            List.singleton_append]
      · contradiction

theorem Coherent.address?_iff {code : Code} (coherent : code.Coherent) (label : String)
    (address : Nat) :
    code.labels.address? label = some address ↔ code.program.Carries address label := by
  rw [Labels.address?_eq_some_iff, coherent, List.mem_reverse, Program.mem_bindings]

theorem Coherent.address_iff {code : Code} (coherent : code.Coherent) (label : String)
    (address : Nat) :
    code.labels.address label = .ok address ↔ code.program.Carries address label := by
  rw [← coherent.address?_iff, Labels.address]
  cases code.labels.address? label with
  | none => simp
  | some found => simp

theorem Coherent.mem_names_iff {code : Code} (coherent : code.Coherent) (label : String) :
    label ∈ code.labels.names ↔ ∃ address, code.program.Carries address label := by
  rw [Labels.names, coherent]
  simp only [List.mem_map, List.mem_reverse, Prod.exists, Program.mem_bindings]
  constructor
  · intro bound
    obtain ⟨name, address, carries, rfl⟩ := bound
    exact ⟨address, carries⟩
  · intro carried
    obtain ⟨address, carries⟩ := carried
    exact ⟨label, address, carries, rfl⟩

theorem Coherent.labels_size {code : Code} (coherent : code.Coherent) :
    code.labels.size = (code.program.toList.filter Instruction.isLabelled).length := by
  rw [Labels.size, coherent, List.length_reverse, Program.bindings_length]

theorem Coherent.carries_unique {code : Code} (coherent : code.Coherent) (label : String)
    (first second : Nat) (atFirst : code.program.Carries first label)
    (atSecond : code.program.Carries second label) : first = second := by
  rw [← coherent.address?_iff] at atFirst atSecond
  exact Option.some.inj (atFirst.symm.trans atSecond)

/-- In coherent code a name calls the instruction that it labels. -/
theorem Coherent.callee?_eq_some_iff {code : Code} (coherent : code.Coherent) (name : String)
    (callee : Instruction) :
    code.callee? name = some callee ↔
      callee ∈ code.program.toList ∧ callee.label = some name := by
  constructor
  · intro called
    unfold callee? at called
    split at called
    · next address bound =>
        obtain ⟨found, fetched, labelled⟩ := (coherent.address?_iff name address).mp bound
        obtain rfl : found = callee := Option.some.inj (fetched.symm.trans called)
        rw [Program.get?_eq_getElem?] at fetched
        exact ⟨List.mem_of_getElem? fetched, labelled⟩
    · contradiction
  · intro labels
    obtain ⟨member, labelled⟩ := labels
    obtain ⟨address, fetched⟩ := List.mem_iff_getElem?.mp member
    rw [← Program.get?_eq_getElem?] at fetched
    have bound := (coherent.address?_iff name address).mpr ⟨callee, fetched, labelled⟩
    rw [callee?, bound]
    exact fetched

/-- Coherent code is determined by its program. -/
theorem Coherent.ext {left right : Code} (coherentLeft : left.Coherent)
    (coherentRight : right.Coherent) (programs : left.program = right.program) :
    left = right := by
  have tables : left.labels.bindings = right.labels.bindings := by
    rw [coherentLeft, coherentRight, programs]
  obtain ⟨program, ⟨bindings, _, _⟩⟩ := left
  obtain ⟨program', ⟨bindings', _, _⟩⟩ := right
  cases programs
  cases tables
  rfl

end Code

end RegisterMachine
