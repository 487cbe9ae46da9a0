import RegisterMachine.Proofs.Listing
import RegisterMachine.Proofs.ReachableMachines

/-!
# Machines that are the same

Two machines count as the same when their tables, operations, registers and program counters are,
and labels of instructions are not compared.  But labels decide what is run.  Where all code comes
from texts this makes no difference: the table gives every label back, so machines that are the
same are equal, and they are the same exactly when nothing that is done to them tells them apart.
-/

set_option autoImplicit false

namespace RegisterMachine

/-! ## What can be seen of a machine -/

/-- The machine, or a copy that was saved of it, comes about by acts that load texts only. -/
def Machine.FromTexts (machine : Machine) : Prop :=
  ∃ bank commands, (∀ code, Command.load code ∉ commands) ∧
    machine ∈ ((Bench.fresh bank).obeyAll commands).machines

structure View where
  listing : String
  labels : String
  bank : Bank
  pc : Nat
  finished : Bool

/-- Acts on a machine that print, if they do, into one sink. -/
inductive Act
  | loadText (text : String)
  | setRegister (register : Register) (value : Int32)
  | clearRegisters
  | step
  | run
  | execute (instruction : Instruction)

inductive Answer
  | done
  | moved (going : Bool)
  | refused (located : SourceFault)

structure Reply (σ : Type) where
  result : Except Fault Answer
  sink : σ
  log : List Event
  after : View

namespace Machine

def view (machine : Machine) : View where
  listing := machine.code.program.text
  labels := machine.code.labels.text
  bank := machine.bank
  pc := machine.pc
  finished := machine.isFinished

variable {σ : Type} [Sink σ]

def perform (machine : Machine) (sink : σ) : Act → Outcome Answer Machine σ
  | .loadText text =>
      let (assembly, next) := machine.loadText text
      match assembly.result with
      | .ok () => ⟨.ok .done, next, sink, assembly.log⟩
      | .error located => ⟨.ok (.refused located), next, sink, assembly.log⟩
  | .setRegister register value => ⟨.ok .done, machine.setRegister register value, sink, []⟩
  | .clearRegisters => ⟨.ok .done, machine.clearRegisters, sink, []⟩
  | .step => (machine.step sink).map .moved
  | .run => (machine.run sink).map fun _ => .done
  | .execute instruction => (machine.execute instruction sink).map fun _ => .done

def replies (machine : Machine) (sink : σ) : List Act → List (Reply σ)
  | [] => []
  | act :: rest =>
      let outcome := machine.perform sink act
      ⟨outcome.result, outcome.sink, outcome.log, outcome.state.view⟩ ::
        outcome.state.replies outcome.sink rest

/-- The two show the same, and they reply to all acts alike, with every sink. -/
def Indistinguishable (left right : Machine) : Prop :=
  left.view = right.view ∧
    ∀ {σ : Type} [Sink σ] (sink : σ) (acts : List Act),
      left.replies sink acts = right.replies sink acts

end Machine

/-! ## Labels that the table gives back -/

theorem Program.ext_of_carries (left right : Program)
    (operations : left.toList.map Instruction.operation = right.toList.map Instruction.operation)
    (carries : ∀ address label, left.Carries address label ↔ right.Carries address label) :
    left = right := by
  apply Program.ext
  have lengths : left.toList.length = right.toList.length := by
    simpa using congrArg List.length operations
  apply List.ext_getElem lengths
  intro address inside inside'
  have fetched : left.get? address = some left.toList[address] := by
    rw [get?_eq_getElem?, List.getElem?_eq_getElem inside]
  have fetched' : right.get? address = some right.toList[address] := by
    rw [get?_eq_getElem?, List.getElem?_eq_getElem inside']
  have operation : left.toList[address].operation = right.toList[address].operation := by
    have same := congrArg (·[address]?) operations
    simpa [inside, inside'] using same
  have label : left.toList[address].label = right.toList[address].label := by
    apply Option.ext
    intro label
    have same := carries address label
    simpa [Carries, fetched, fetched'] using same
  exact Instruction.mk.injEq .. ▸ ⟨label, operation⟩

namespace Code

/-- Code whose table agrees with its program is equal to all such code that is the same. -/
theorem Coherent.eq_of_same {left right : Code} (coherentLeft : left.Coherent)
    (coherentRight : right.Coherent) (same : left.same right = true) : left = right := by
  rw [Code.same, Bool.and_eq_true, Labels.same_iff, Program.same, beq_iff_eq] at same
  obtain ⟨tables, operations⟩ := same
  apply coherentLeft.ext coherentRight
  apply Program.ext_of_carries _ _ operations
  intro address label
  rw [← coherentLeft.address?_iff, ← coherentRight.address?_iff, Labels.address?_eq_some_iff,
    Labels.address?_eq_some_iff]
  exact tables (label, address)

theorem eq_of_text (left right : Code) (first second : String) (fromFirst : ofText first = .ok left)
    (fromSecond : ofText second = .ok right) (same : left.program.text = right.program.text) :
    left = right := by
  have holdsLeft := holds_of_ofText first left fromFirst
  have holdsRight := holds_of_ofText second right fromSecond
  obtain ⟨labels, rereadLeft⟩ := ofText_text_of_readable left.program holdsLeft.readable
  obtain ⟨labels', rereadRight⟩ := ofText_text_of_readable right.program holdsRight.readable
  rw [same, rereadRight] at rereadLeft
  exact holdsLeft.coherent.ext holdsRight.coherent
    (congrArg program (Except.ok.inj rereadLeft)).symm

end Code

namespace Machine

theorem FromTexts.exists_text {machine : Machine} (fromTexts : machine.FromTexts) :
    ∃ text, Code.ofText text = .ok machine.code := by
  obtain ⟨bank, commands, texts, reached⟩ := fromTexts
  have kept := kept_of_ofText (fun code => ∃ text, Code.ofText text = .ok code)
    fun text code assembled => ⟨text, assembled⟩
  refine Bench.obeyAll_keeps kept commands (fun code member => absurd member (texts code))
    (Bench.fresh bank) ?_ machine reached
  intro fresh member
  rw [List.mem_singleton.mp member]
  exact ⟨"", rfl⟩

theorem same_refl (machine : Machine) : machine.same machine = true := by
  simp [same, Code.same, Program.same, Labels.same_iff]

theorem indistinguishable_refl (machine : Machine) : machine.Indistinguishable machine :=
  ⟨rfl, fun _ _ => rfl⟩

theorem FromTexts.eq_of_same {left right : Machine} (leftTexts : left.FromTexts)
    (rightTexts : right.FromTexts) (same : left.same right = true) : left = right := by
  obtain ⟨first, fromFirst⟩ := leftTexts.exists_text
  obtain ⟨second, fromSecond⟩ := rightTexts.exists_text
  simp only [Machine.same, Bool.and_eq_true, beq_iff_eq] at same
  obtain ⟨⟨codes, banks⟩, places⟩ := same
  have coherentLeft := (Code.holds_of_ofText first _ fromFirst).coherent
  have coherentRight := (Code.holds_of_ofText second _ fromSecond).coherent
  have code := coherentLeft.eq_of_same coherentRight codes
  exact Machine.mk.injEq .. ▸ ⟨code, banks, places⟩

theorem FromTexts.eq_of_view {left right : Machine} (leftTexts : left.FromTexts)
    (rightTexts : right.FromTexts) (same : left.view = right.view) : left = right := by
  obtain ⟨first, fromFirst⟩ := leftTexts.exists_text
  obtain ⟨second, fromSecond⟩ := rightTexts.exists_text
  obtain ⟨listings, -, banks, places, -⟩ := View.mk.inj same
  have code := Code.eq_of_text _ _ first second fromFirst fromSecond listings
  exact Machine.mk.injEq .. ▸ ⟨code, banks, places⟩

/-- Machines whose code comes from texts are the same only if they are equal, and exactly if
nothing that is done to them tells them apart.  With a table that was made by hand a machine can
be the same as one that comes from a text, and run differently. -/
theorem same_machines_are_indistinguishable :
    (∀ left right : Machine, left.FromTexts → right.FromTexts →
        (left.same right = true ↔ left = right) ∧
          (left.same right = true ↔ left.Indistinguishable right)) ∧
      ∃ assembled handMade : Code,
        Code.ofText "f: div EAX EBX" = .ok assembled ∧
          ((ofBank Bank.zero).load assembled).same ((ofBank Bank.zero).load handMade) = true ∧
          (((ofBank Bank.zero).load assembled).run Output.unlimited).result = .ok () ∧
          (((ofBank Bank.zero).load handMade).run Output.unlimited).result =
            .error (.divisionByZero "div EAX EBX") := by
  constructor
  · intro left right leftTexts rightTexts
    have equal : left.same right = true → left = right := leftTexts.eq_of_same rightTexts
    refine ⟨⟨equal, ?_⟩, ?_, ?_⟩
    · rintro rfl
      exact left.same_refl
    · intro same
      rw [equal same]
      exact right.indistinguishable_refl
    · intro alike
      rw [leftTexts.eq_of_view rightTexts alike.1]
      exact right.same_refl
  · refine ⟨⟨.ofList [⟨some "f", .arithmetic .div .eax .ebx⟩], ⟨[("f", 0)], by simp, by simp⟩⟩,
      ⟨.ofList [⟨none, .arithmetic .div .eax .ebx⟩], ⟨[("f", 0)], by simp, by simp⟩⟩, ?_⟩
    decide +kernel

def straight : List Command :=
  [.loadText "f: out EAX\nmov EAX 1\njnz EAX f", .setRegister .ebx 4, .step Output.unlimited,
    .step Output.unlimited]

def roundabout : List Command :=
  [.loadText "g: out EAX\njnz EBX g", .run Output.unlimited,
    .loadText "  f: out EAX\r\n\nmov EAX +01\njnz\tEAX f", .setRegister .ebx 4, .save,
    .run (Output.limited 3 .idle), .restore 0, .loadText "halt", .clearRegisters,
    .step Output.unlimited, .step Output.unlimited, .setRegister .ebx 4]

theorem straight_and_roundabout_are_indistinguishable :
    ((Bench.fresh Bank.zero).obeyAll straight).machine.FromTexts ∧
      ((Bench.fresh (Bank.zero.set .edi 9)).obeyAll roundabout).machine.FromTexts ∧
      ((Bench.fresh Bank.zero).obeyAll straight).machine.same
        ((Bench.fresh (Bank.zero.set .edi 9)).obeyAll roundabout).machine = true ∧
      ((Bench.fresh Bank.zero).obeyAll straight).machine.Indistinguishable
        ((Bench.fresh (Bank.zero.set .edi 9)).obeyAll roundabout).machine := by
  have leftTexts : ((Bench.fresh Bank.zero).obeyAll straight).machine.FromTexts :=
    ⟨_, straight, by simp [straight], List.mem_cons_self⟩
  have rightTexts : ((Bench.fresh (Bank.zero.set .edi 9)).obeyAll roundabout).machine.FromTexts :=
    ⟨_, roundabout, by simp [roundabout], List.mem_cons_self⟩
  have same : ((Bench.fresh Bank.zero).obeyAll straight).machine.same
      ((Bench.fresh (Bank.zero.set .edi 9)).obeyAll roundabout).machine = true := by
    decide +kernel
  have alike := (same_machines_are_indistinguishable.1 _ _ leftTexts rightTexts).2.mp same
  exact ⟨leftTexts, rightTexts, same, alike⟩

end Machine

end RegisterMachine
