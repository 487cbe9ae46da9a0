import Mathlib.Data.Finset.Insert
import RegisterMachine.Proofs.Lockstep
import RegisterMachine.Proofs.ReachableMachines

/-!
# Registers that do not matter

Some registers settle what a program does: those that it prints, tests and divides, and those from
which others of them are computed.  Machines that agree on these go on alike for ever, whatever is
in the other registers.  A register into which nothing is put keeps its value.
-/

set_option autoImplicit false

namespace RegisterMachine

/-! ## What settles what -/

namespace Operation

/-- These registers settle what the operation prints, whether it is a jump that is taken, whether
it fails, and what it puts into any of them. -/
def SettledBy (operation : Operation) (registers : Finset Register) : Prop :=
  match operation with
  | .arithmetic .div result source => result ∈ registers ∧ source ∈ registers
  | .arithmetic _ result source => result ∈ registers → source ∈ registers
  | .mov _ _ => True
  | .out source => source ∈ registers
  | .jnz source _ => source ∈ registers

instance (operation : Operation) (registers : Finset Register) :
    Decidable (operation.SettledBy registers) :=
  match operation with
  | .arithmetic .div result source =>
      inferInstanceAs (Decidable (result ∈ registers ∧ source ∈ registers))
  | .arithmetic .add result source =>
      inferInstanceAs (Decidable (result ∈ registers → source ∈ registers))
  | .arithmetic .sub result source =>
      inferInstanceAs (Decidable (result ∈ registers → source ∈ registers))
  | .arithmetic .mul result source =>
      inferInstanceAs (Decidable (result ∈ registers → source ∈ registers))
  | .mov _ _ => inferInstanceAs (Decidable True)
  | .out source => inferInstanceAs (Decidable (source ∈ registers))
  | .jnz source _ => inferInstanceAs (Decidable (source ∈ registers))

def result? : Operation → Option Register
  | .arithmetic _ result _ => some result
  | .mov result _ => some result
  | .out _ => none
  | .jnz _ _ => none

end Operation

namespace Program

def SettledBy (program : Program) (registers : Finset Register) : Prop :=
  ∀ instruction ∈ program.toList, instruction.operation.SettledBy registers

def Spares (program : Program) (register : Register) : Prop :=
  ∀ instruction ∈ program.toList, instruction.operation.result? ≠ some register

instance (program : Program) (registers : Finset Register) :
    Decidable (program.SettledBy registers) :=
  inferInstanceAs (Decidable (∀ instruction ∈ program.toList,
    instruction.operation.SettledBy registers))

instance (program : Program) (register : Register) : Decidable (program.Spares register) :=
  inferInstanceAs (Decidable (∀ instruction ∈ program.toList,
    instruction.operation.result? ≠ some register))

end Program

namespace Bank

def AgreeOn (registers : Finset Register) (left right : Bank) : Prop :=
  ∀ register ∈ registers, left.get register = right.get register

instance (registers : Finset Register) (left right : Bank) :
    Decidable (left.AgreeOn registers right) :=
  inferInstanceAs (Decidable (∀ register ∈ registers, left.get register = right.get register))

theorem AgreeOn.set {registers : Finset Register} {left right : Bank}
    (agree : left.AgreeOn registers right) (written : Register) (value value' : Int32)
    (same : written ∈ registers → value = value') :
    (left.set written value).AgreeOn registers (right.set written value') := by
  intro register member
  rw [get_set, get_set]
  by_cases here : written = register
  · rw [if_pos here, if_pos here]
    exact same (here ▸ member)
  · rw [if_neg here, if_neg here]
    exact agree register member

theorem AgreeOn.line_eq {registers : Finset Register} {left right : Bank}
    (agree : left.AgreeOn registers right) (register : Register) (member : register ∈ registers) :
    left.line register = right.line register := by
  rw [line, line, agree register member]

end Bank

theorem Operation.SettledBy.values {registers : Finset Register} {kind : Arithmetic}
    {result source : Register} (settled : (arithmetic kind result source).SettledBy registers)
    {left right : Bank} (agree : left.AgreeOn registers right) :
    kind.apply (left.get result) (left.get source) = none ∧
        kind.apply (right.get result) (right.get source) = none ∨
      ∃ value value', kind.apply (left.get result) (left.get source) = some value ∧
        kind.apply (right.get result) (right.get source) = some value' ∧
        (result ∈ registers → value = value') := by
  by_cases member : result ∈ registers
  · have sources : source ∈ registers := by
      cases kind with
      | div => exact settled.2
      | add => exact settled member
      | sub => exact settled member
      | mul => exact settled member
    rw [agree result member, agree source sources]
    cases kind.apply (right.get result) (right.get source) with
    | none => exact Or.inl ⟨rfl, rfl⟩
    | some value => exact Or.inr ⟨value, value, rfl, rfl, fun _ => rfl⟩
  · refine Or.inr ?_
    cases kind with
    | div => exact absurd settled.1 member
    | add => exact ⟨_, _, rfl, rfl, fun inside => absurd inside member⟩
    | sub => exact ⟨_, _, rfl, rfl, fun inside => absurd inside member⟩
    | mul => exact ⟨_, _, rfl, rfl, fun inside => absurd inside member⟩

/-! ## Machines that agree where it matters -/

/-- Machines are compared by these registers, and otherwise have to do the same. -/
def Comparison.within (σ : Type) (registers : Finset Register) : Comparison σ σ where
  banks := Bank.AgreeOn registers
  sinks := Eq
  faults := fun first fault second fault' => first = second ∧ fault = fault'

namespace Code

variable {σ : Type} [Sink σ]

theorem performs_within {registers : Finset Register} {instruction : Instruction}
    (settled : instruction.operation.SettledBy registers) {bank bank' : Bank}
    (agree : bank.AgreeOn registers bank') (sink : σ) (effect : Effect Unit Bank σ)
    (performed : instruction.perform? bank sink = some effect) :
    ∃ effect', instruction.perform? bank' sink = some effect' ∧
      (Comparison.within σ registers).Outcomes (Bank.AgreeOn registers)
        (instruction.outcome effect) (instruction.outcome effect') := by
  obtain ⟨label, operation⟩ := instruction
  cases operation with
  | arithmetic kind result source =>
      simp only [Instruction.perform?] at performed ⊢
      rcases settled.values agree with ⟨missing, missing'⟩ | ⟨value, value', found, found', same⟩
      · rw [missing] at performed
        cases performed
        rw [missing']
        exact ⟨_, rfl, .error _ _ _ _ rfl rfl rfl rfl ⟨rfl, rfl⟩, agree, rfl⟩
      · rw [found] at performed
        cases performed
        rw [found']
        exact ⟨_, rfl, .ok () rfl rfl, agree.set result value value' same, rfl⟩
  | mov result value =>
      cases performed
      exact ⟨_, rfl, .ok () rfl rfl, agree.set result value value fun _ => rfl, rfl⟩
  | out source =>
      simp only [Instruction.perform?, agree.line_eq source settled] at performed ⊢
      rcases answer : Sink.write sink (bank'.line source) with ⟨reason | done, after⟩
      · rw [answer] at performed
        cases performed
        exact ⟨_, rfl, .error _ _ _ _ rfl rfl rfl rfl ⟨rfl, rfl⟩, agree, rfl⟩
      · rw [answer] at performed
        cases performed
        exact ⟨_, rfl, .ok () rfl rfl, agree, rfl⟩
  | jnz source target => contradiction

/-- Code keeps in step with itself on machines that agree on the registers that settle it. -/
theorem lockstep_within (code : Code) (registers : Finset Register)
    (settled : code.program.SettledBy registers) :
    (Comparison.within σ registers).Lockstep
      (fun first second => first = second ∧ first ∈ code.program.toList) code code where
  programs := List.forall₂_same.mpr fun instruction member => ⟨rfl, member⟩
  labelled := fun paired => congrArg Instruction.isLabelled paired.1
  performs := by
    rintro first second ⟨rfl, member⟩ bank bank' agree sink sink' rfl effect performed
    exact performs_within (settled first member) agree sink effect performed
  jumps := by
    rintro label source target second ⟨rfl, member⟩
    refine ⟨label, source, target, rfl, ?_, fun missing => missing, ?_, ⟨rfl, rfl⟩, ⟨rfl, rfl⟩⟩
    · intro bank bank' agree
      rw [agree source (settled _ member)]
    · intro callee called
      exact ⟨callee, called, rfl, code.mem_of_callee? target callee called⟩

end Code

namespace Machine

/-- Nothing tells the two outcomes apart but registers that are not among these. -/
structure AlikeOn {σ : Type} (registers : Finset Register) (left right : Outcome Bool Machine σ) :
    Prop where
  results : left.result = right.result
  sinks : left.sink = right.sink
  pcs : left.state.pc = right.state.pc
  banks : left.state.bank.AgreeOn registers right.state.bank

theorem alikeOn_of_outcomes {σ : Type} {registers : Finset Register} {code : Code}
    {left right : Outcome Bool Machine σ}
    (outcomes : (Comparison.within σ registers).Outcomes
      ((Comparison.within σ registers).Machines code code) left right) :
    AlikeOn registers left right := by
  refine ⟨?_, outcomes.sinks, outcomes.states.pc, outcomes.states.banks⟩
  cases outcomes.results with
  | ok value passed passed' => rw [passed, passed']
  | error fault fault' instruction instruction' failed failed' last last' faults =>
      rw [failed, failed', faults.2]

end Machine

/-! ## Registers into which nothing is put -/

variable {σ : Type} [Sink σ]

theorem Instruction.get_of_perform? (instruction : Instruction) (bank : Bank) (sink : σ)
    (effect : Effect Unit Bank σ) (performed : instruction.perform? bank sink = some effect)
    (register : Register) (spared : instruction.operation.result? ≠ some register) :
    effect.state.get register = bank.get register := by
  obtain ⟨label, operation⟩ := instruction
  have elsewhere (result : Register) (value : Int32) (other : some result ≠ some register) :
      (bank.set result value).get register = bank.get register :=
    bank.get_set_of_ne result register value fun same => other (congrArg some same)
  cases operation with
  | arithmetic kind result source =>
      simp only [perform?] at performed
      split at performed
      · cases performed
        exact elsewhere result _ spared
      · cases performed
        rfl
  | mov result value =>
      cases performed
      exact elsewhere result value spared
  | out source =>
      simp only [perform?] at performed
      split at performed
      · cases performed
        rfl
      · cases performed
        rfl
  | jnz source target => contradiction

namespace Code

theorem get_of_execute (code : Code) (first : Instruction) (member : first ∈ code.program.toList)
    (bank : Bank) (sink : σ) (register : Register) (spared : code.program.Spares register) :
    (code.execute first bank sink).state.get register = bank.get register := by
  obtain ⟨effect, said⟩ := exists_chainEffect code bank sink first
  have state : (code.execute first bank sink).state = effect.state :=
    congrArg Effect.state said.sound
  rw [state]
  cases said with
  | performed calls last _ few reached performed =>
      exact last.get_of_perform? bank sink effect performed register
        (spared last (code.mem_of_chain bank first last calls member reached))
  | notTaken => rfl
  | unresolved => rfl
  | tooDeep => rfl

end Code

namespace Machine

theorem get_of_step (machine : Machine) (sink : σ) (register : Register)
    (spared : machine.code.program.Spares register) :
    (machine.step sink).state.bank.get register = machine.bank.get register := by
  have turn := machine.turn_step sink
  have kept (instruction : Instruction)
      (fetched : machine.code.program.get? machine.pc = some instruction) :=
    machine.code.get_of_execute instruction
      (List.mem_of_getElem? ((Program.get?_eq_getElem? _ _).symm.trans fetched)) machine.bank sink
      register spared
  generalize machine.step sink = outcome at turn ⊢
  cases turn with
  | finished => rfl
  | skipped => rfl
  | executed instruction bank after log fetched unlabelled success =>
      have same := kept instruction fetched
      rwa [success] at same
  | failed instruction fault bank after log fetched unlabelled failure =>
      have same := kept instruction fetched
      rwa [failure] at same

theorem steps_keep (holds : Machine → Prop)
    (kept : ∀ machine (sink : σ), holds machine → holds (machine.step sink).state)
    (count : Nat) (machine : Machine) (sink : σ) (start : holds machine) :
    ∀ outcome ∈ machine.steps count sink, holds outcome.state := by
  induction count generalizing machine sink with
  | zero => exact nofun
  | succ count ih =>
      have first := kept machine sink start
      intro outcome member
      rcases List.mem_cons.mp member with rfl | later
      · exact first
      · exact ih _ _ first outcome later

/-- Machines with one code that stand at one address, and agree on registers that settle what the
program does, cannot be told apart by any number of turns, except by other registers.  A register
into which no instruction puts anything keeps its value in every turn. -/
theorem only_settling_registers_matter (code : Code) :
    (∀ registers : Finset Register, code.program.SettledBy registers →
        ∀ left right : Machine, left.code = code → right.code = code → left.pc = right.pc →
          left.bank.AgreeOn registers right.bank →
            ∀ {σ : Type} [Sink σ] (sink : σ) (count : Nat),
              List.Forall₂ (AlikeOn registers) (left.steps count sink) (right.steps count sink)) ∧
      ∀ register : Register, code.program.Spares register →
        ∀ machine : Machine, machine.code = code →
          ∀ {σ : Type} [Sink σ] (sink : σ) (count : Nat),
            ∀ outcome ∈ machine.steps count sink,
              outcome.state.bank.get register = machine.bank.get register := by
  constructor
  · intro registers settled left right code code' pc agree σ _ sink count
    have together := (Code.lockstep_within _ registers settled).steps count
      ⟨code, code', pc, agree⟩ (rfl : sink = sink)
    exact together.imp fun _ _ outcomes => alikeOn_of_outcomes outcomes
  · rintro register spared machine rfl σ _ sink count
    have kept := steps_keep (fun next => next.code = machine.code ∧
      next.bank.get register = machine.bank.get register) ?_ count machine sink ⟨rfl, rfl⟩
    · exact fun outcome member => (kept outcome member).2
    · rintro next after ⟨same, value⟩
      rw [← same] at spared
      exact ⟨(next.step_code after).trans same, (next.get_of_step after register spared).trans value⟩

def sideline : Code where
  program := .ofList
    [⟨none, .mov .ecx 5⟩, ⟨none, .out .eax⟩, ⟨some "less", .arithmetic .sub .eax .ebx⟩,
      ⟨none, .jnz .eax "less"⟩, ⟨none, .arithmetic .add .edx .ecx⟩,
      ⟨none, .arithmetic .div .ebx .eax⟩]
  labels := ⟨[("less", 2)], by simp, by simp⟩

def ones : Bank := .ofList [(.eax, 1), (.ebx, 1)]

def onesAndMore : Bank := .ofList [(.eax, 1), (.ebx, 1), (.edx, 9), (.esi, 4)]

theorem sideline_prints_and_divides_alike :
    sideline.program.SettledBy {.eax, .ebx} ∧ sideline.program.Spares .esi ∧
      ones.AgreeOn {.eax, .ebx} onesAndMore ∧
      List.Forall₂ (AlikeOn {.eax, .ebx}) (steps 7 ⟨sideline, ones, 0⟩ Output.unlimited)
        (steps 7 ⟨sideline, onesAndMore, 0⟩ Output.unlimited) ∧
      (∀ outcome ∈ steps 7 ⟨sideline, onesAndMore, 0⟩ Output.unlimited,
        outcome.state.bank.get .esi = onesAndMore.get .esi) ∧
      (steps 7 ⟨sideline, onesAndMore, 0⟩ Output.unlimited).map (fun outcome => outcome.result) =
        [.ok true, .ok true, .ok true, .ok true, .ok true,
          .error (.divisionByZero "div EBX EAX"), .error (.divisionByZero "div EBX EAX")] := by
  have settled : sideline.program.SettledBy {.eax, .ebx} := by decide +kernel
  have spared : sideline.program.Spares .esi := by decide +kernel
  have agree : ones.AgreeOn {.eax, .ebx} onesAndMore := by decide +kernel
  obtain ⟨alike, keeps⟩ := only_settling_registers_matter sideline
  refine ⟨settled, spared, agree, ?_, ?_, ?_⟩
  · exact alike _ settled ⟨sideline, ones, 0⟩ ⟨sideline, onesAndMore, 0⟩ rfl rfl rfl agree
      Output.unlimited 7
  · exact keeps _ spared _ rfl Output.unlimited 7
  · decide +kernel

end Machine

end RegisterMachine
