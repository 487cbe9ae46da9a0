import Mathlib.Data.List.Forall2
import RegisterMachine.Machine
import RegisterMachine.Proofs.CallChain

/-!
# Machines side by side

Two machines can be compared although they hold different values, print differently or use other
names.  What has to be shown of them is what one operation does, and that their jumps call
instructions that belong together.  Calls, turns and runs then go on in step, whatever the
comparison is.
-/

set_option autoImplicit false

namespace RegisterMachine

/-- The outcomes of this many turns, one after another.  What a turn leaves is what the next one
finds, also when the turn fails. -/
def Machine.steps {σ : Type} [Sink σ] : Nat → Machine → σ → List (Outcome Bool Machine σ)
  | 0, _, _ => []
  | count + 1, machine, sink =>
      machine.step sink :: steps count (machine.step sink).state (machine.step sink).sink

/-- How two machines are compared: by their registers, by their sinks, and by the faults with
which they fail, each at the instruction that was executed last. -/
structure Comparison (σ τ : Type) where
  banks : Bank → Bank → Prop
  sinks : σ → τ → Prop
  faults : Instruction → Fault → Instruction → Fault → Prop

namespace Comparison

variable {σ τ : Type} {α state state' : Type}

inductive Results (comparison : Comparison σ τ) (left : Outcome α state σ)
    (right : Outcome α state' τ) : Prop
  | ok (value : α) (passed : left.result = .ok value) (passed' : right.result = .ok value)
  | error (fault fault' : Fault) (instruction instruction' : Instruction)
      (failed : left.result = .error fault) (failed' : right.result = .error fault')
      (last : left.log.getLast? = some (.executing instruction))
      (last' : right.log.getLast? = some (.executing instruction'))
      (faults : comparison.faults instruction fault instruction' fault')

structure Outcomes (comparison : Comparison σ τ) (states : state → state' → Prop)
    (left : Outcome α state σ) (right : Outcome α state' τ) : Prop where
  results : comparison.Results left right
  states : states left.state right.state
  sinks : comparison.sinks left.sink right.sink

structure Machines (comparison : Comparison σ τ) (left right : Code) (first second : Machine) :
    Prop where
  left_code : first.code = left
  right_code : second.code = right
  pc : first.pc = second.pc
  banks : comparison.banks first.bank second.bank

structure JumpsAlong (comparison : Comparison σ τ) (pairs : Instruction → Instruction → Prop)
    (left right : Code) (first second : Instruction) (source source' : Register)
    (target target' : String) : Prop where
  taken : ∀ {bank bank'}, comparison.banks bank bank' →
    (bank.get source = 0 ↔ bank'.get source' = 0)
  missing : left.callee? target = none → right.callee? target' = none
  called : ∀ {callee}, left.callee? target = some callee →
    ∃ callee', right.callee? target' = some callee' ∧ pairs callee callee'
  undefined : comparison.faults first (.undefinedLabel target) second (.undefinedLabel target')
  tooDeep : comparison.faults first (.jumpTooDeep maxCalls first.text) second
    (.jumpTooDeep maxCalls second.text)

/-- Two codes keep in step if their instructions can be paired so that those of a pair do what
compares, and call instructions of a pair. -/
structure Lockstep [Sink σ] [Sink τ] (comparison : Comparison σ τ)
    (pairs : Instruction → Instruction → Prop) (left right : Code) : Prop where
  programs : List.Forall₂ pairs left.program.toList right.program.toList
  labelled : ∀ {first second}, pairs first second → first.isLabelled = second.isLabelled
  performs : ∀ {first second}, pairs first second → ∀ {bank bank'}, comparison.banks bank bank' →
    ∀ {sink sink'}, comparison.sinks sink sink' → ∀ effect,
      first.perform? bank sink = some effect → ∃ effect',
        second.perform? bank' sink' = some effect' ∧
          comparison.Outcomes comparison.banks (first.outcome effect) (second.outcome effect')
  jumps : ∀ {label source target second}, pairs ⟨label, .jnz source target⟩ second →
    ∃ label' source' target', second = ⟨label', .jnz source' target'⟩ ∧
      comparison.JumpsAlong pairs left right ⟨label, .jnz source target⟩ second source source'
        target target'

variable {comparison : Comparison σ τ}

/-! ## Outcomes that compare -/

theorem getLast?_append_of_some {event : Event} (before log : List Event)
    (last : log.getLast? = some event) : (before ++ log).getLast? = some event := by
  rw [List.getLast?_append, last]
  rfl

theorem Outcomes.after {states : state → state' → Prop} {left : Outcome α state σ}
    {right : Outcome α state' τ} (outcomes : comparison.Outcomes states left right)
    (log log' : List Event) : comparison.Outcomes states (left.after log) (right.after log') := by
  refine ⟨?_, outcomes.states, outcomes.sinks⟩
  cases outcomes.results with
  | ok value passed passed' => exact .ok value passed passed'
  | error fault fault' instruction instruction' failed failed' last last' faults =>
      exact .error fault fault' instruction instruction' failed failed'
        (getLast?_append_of_some log _ last) (getLast?_append_of_some log' _ last') faults

theorem Outcomes.map {β : Type} {states : state → state' → Prop} {left : Outcome α state σ}
    {right : Outcome α state' τ} (outcomes : comparison.Outcomes states left right)
    (f : α → β) : comparison.Outcomes states (left.map f) (right.map f) := by
  refine ⟨?_, outcomes.states, outcomes.sinks⟩
  cases outcomes.results with
  | ok value passed passed' =>
      exact .ok (f value) (congrArg (Except.map f) passed) (congrArg (Except.map f) passed')
  | error fault fault' instruction instruction' failed failed' last last' faults =>
      exact .error fault fault' instruction instruction' (congrArg (Except.map f) failed)
        (congrArg (Except.map f) failed') last last' faults

/-! ## Calls, turns and runs -/

namespace Lockstep

variable [Sink σ] [Sink τ] {pairs : Instruction → Instruction → Prop} {left right : Code}

theorem sizes (lockstep : comparison.Lockstep pairs left right) :
    left.program.size = right.program.size := by
  rw [Program.size_eq_length, Program.size_eq_length, lockstep.programs.length_eq]

theorem fetches (lockstep : comparison.Lockstep pairs left right) (address : Nat)
    (first : Instruction) (fetched : left.program.get? address = some first) :
    ∃ second, right.program.get? address = some second ∧ pairs first second := by
  rw [Program.get?_eq_getElem?] at fetched
  obtain ⟨inside, rfl⟩ := List.getElem?_eq_some_iff.mp fetched
  have inside' : address < right.program.toList.length := lockstep.programs.length_eq ▸ inside
  refine ⟨right.program.toList[address], ?_, lockstep.programs.get inside inside'⟩
  rw [Program.get?_eq_getElem?, List.getElem?_eq_getElem inside']

theorem call (lockstep : comparison.Lockstep pairs left right) {bank bank' : Bank}
    (banks : comparison.banks bank bank') {sink : σ} {sink' : τ}
    (sinks : comparison.sinks sink sink') (callsLeft : Nat) (first second : Instruction)
    (paired : pairs first second) :
    comparison.Outcomes comparison.banks (left.call bank sink callsLeft first)
      (right.call bank' sink' callsLeft second) := by
  have calling := left.calling_call bank sink callsLeft first
  generalize left.call bank sink callsLeft first = outcome at calling ⊢
  induction calling generalizing second with
  | performed callsLeft first effect performed =>
      obtain ⟨effect', performed', outcomes⟩ :=
        lockstep.performs paired banks sinks effect performed
      rw [Code.call_of_perform right bank' sink' callsLeft second effect' performed']
      exact outcomes
  | notTaken callsLeft label source target zero =>
      obtain ⟨label', source', target', rfl, along⟩ := lockstep.jumps paired
      rw [Code.call_jnz_of_zero right bank' sink' callsLeft label' source' target'
        ((along.taken banks).mp zero)]
      exact ⟨.ok () rfl rfl, banks, sinks⟩
  | unresolved callsLeft label source target nonzero missing =>
      obtain ⟨label', source', target', rfl, along⟩ := lockstep.jumps paired
      rw [Code.call_jnz_of_unresolved right bank' sink' callsLeft label' source' target'
        (mt (along.taken banks).mpr nonzero) (along.missing missing)]
      exact ⟨.error _ _ _ _ rfl rfl rfl rfl along.undefined, banks, sinks⟩
  | tooDeep label source target callee nonzero called =>
      obtain ⟨label', source', target', rfl, along⟩ := lockstep.jumps paired
      obtain ⟨callee', called', -⟩ := along.called called
      rw [Code.call_jnz_of_no_calls_left right bank' sink' label' source' target' callee'
        (mt (along.taken banks).mpr nonzero) called']
      exact ⟨.error _ _ _ _ rfl rfl rfl rfl along.tooDeep, banks, sinks⟩
  | called callsLeft label source target callee outcome nonzero called rest ih =>
      obtain ⟨label', source', target', rfl, along⟩ := lockstep.jumps paired
      obtain ⟨callee', called', calleesPaired⟩ := along.called called
      rw [Code.call_jnz_of_resolved right bank' sink' callsLeft label' source' target' callee'
        (mt (along.taken banks).mpr nonzero) called']
      exact (ih callee' calleesPaired).after _ _

omit [Sink σ] [Sink τ] in
theorem isFinished_eq (sizes : left.program.size = right.program.size) {bank bank' : Bank}
    {pc pc' : Nat} (same : pc = pc') :
    Machine.isFinished ⟨left, bank, pc⟩ = Machine.isFinished ⟨right, bank', pc'⟩ := by
  rw [Bool.eq_iff_iff, Machine.isFinished_iff, Machine.isFinished_iff]
  change left.program.size ≤ pc ↔ right.program.size ≤ pc'
  rw [sizes, same]

theorem step_unlabelled (sizes : left.program.size = right.program.size) {first second : Machine}
    (machines : comparison.Machines left right first second) (sink : σ) (sink' : τ)
    (instruction instruction' : Instruction)
    (fetched : left.program.get? first.pc = some instruction)
    (fetched' : right.program.get? second.pc = some instruction')
    (unlabelled : instruction.isLabelled = false) (unlabelled' : instruction'.isLabelled = false)
    (outcomes : comparison.Outcomes comparison.banks (left.execute instruction first.bank sink)
      (right.execute instruction' second.bank sink')) :
    comparison.Outcomes (comparison.Machines left right) (first.step sink)
      (second.step sink') := by
  obtain ⟨rfl, rfl, pc, banks⟩ := machines
  cases outcomes.results with
  | ok value passed passed' =>
      rw [first.step_of_executed sink instruction fetched unlabelled passed,
        second.step_of_executed sink' instruction' fetched' unlabelled' passed']
      refine ⟨.ok _ rfl ?_, ⟨rfl, rfl, congrArg (· + 1) pc, outcomes.states⟩, outcomes.sinks⟩
      exact congrArg (Except.ok ∘ not) (isFinished_eq sizes (congrArg (· + 1) pc)).symm
  | error fault fault' last last' failed failed' logged logged' faults =>
      rw [first.step_of_failed sink instruction fault fetched unlabelled failed,
        second.step_of_failed sink' instruction' fault' fetched' unlabelled' failed']
      exact ⟨.error fault fault' last last' rfl rfl logged logged' faults,
        ⟨rfl, rfl, pc, outcomes.states⟩, outcomes.sinks⟩

theorem step (lockstep : comparison.Lockstep pairs left right) {first second : Machine}
    (machines : comparison.Machines left right first second) {sink : σ} {sink' : τ}
    (sinks : comparison.sinks sink sink') :
    comparison.Outcomes (comparison.Machines left right) (first.step sink)
      (second.step sink') := by
  have sizes := lockstep.sizes
  obtain ⟨rfl, rfl, pc, banks⟩ := machines
  cases fetched : first.code.program.get? first.pc with
  | none =>
      have past : first.size ≤ first.pc := (Program.get?_eq_none_iff _ _).mp fetched
      have past' : second.size ≤ second.pc := by
        rw [← pc, Machine.size, ← sizes]
        exact past
      rw [first.step_of_finished sink past, second.step_of_finished sink' past']
      exact ⟨.ok false rfl rfl, ⟨rfl, rfl, pc, banks⟩, sinks⟩
  | some instruction =>
      obtain ⟨instruction', fetched', paired⟩ := lockstep.fetches first.pc instruction fetched
      rw [pc] at fetched'
      cases labelled : instruction.isLabelled with
      | true =>
          have labelled' := (lockstep.labelled paired).symm.trans labelled
          rw [first.step_of_labelled sink instruction fetched labelled,
            second.step_of_labelled sink' instruction' fetched' labelled']
          refine ⟨.ok _ rfl ?_, ⟨rfl, rfl, congrArg (· + 1) pc, banks⟩, sinks⟩
          exact congrArg (Except.ok ∘ not) (isFinished_eq sizes (congrArg (· + 1) pc)).symm
      | false =>
          exact step_unlabelled sizes ⟨rfl, rfl, pc, banks⟩ sink sink' instruction instruction'
            fetched fetched' labelled ((lockstep.labelled paired).symm.trans labelled)
            (lockstep.call banks sinks maxCalls instruction instruction' paired)

theorem steps (lockstep : comparison.Lockstep pairs left right) (count : Nat)
    {first second : Machine} (machines : comparison.Machines left right first second) {sink : σ}
    {sink' : τ} (sinks : comparison.sinks sink sink') :
    List.Forall₂ (comparison.Outcomes (comparison.Machines left right)) (first.steps count sink)
      (second.steps count sink') := by
  induction count generalizing first second sink sink' with
  | zero => exact .nil
  | succ count ih =>
      have outcomes := lockstep.step machines sinks
      exact .cons outcomes (ih outcomes.states outcomes.sinks)

theorem turns (lockstep : comparison.Lockstep pairs left right) (count : Nat)
    {first second : Machine} (machines : comparison.Machines left right first second) {sink : σ}
    {sink' : τ} (sinks : comparison.sinks sink sink') :
    comparison.Outcomes (comparison.Machines left right) (Machine.turns count first sink)
      (Machine.turns count second sink') := by
  induction count generalizing first second sink sink' with
  | zero => exact ⟨.ok true rfl rfl, machines, sinks⟩
  | succ count ih =>
      have outcomes := lockstep.step machines sinks
      by_cases going : (first.step sink).result = .ok true
      · have going' : (second.step sink').result = .ok true := by
          cases outcomes.results with
          | ok value passed passed' => rw [passed', ← passed, going]
          | error fault fault' last last' failed =>
              rw [failed] at going
              contradiction
        rw [Machine.turns_succ_of_going count first sink going,
          Machine.turns_succ_of_going count second sink' going']
        exact (ih outcomes.states outcomes.sinks).after _ _
      · have stopped' : (second.step sink').result ≠ .ok true := by
          cases outcomes.results with
          | ok value passed passed' => rwa [passed', ← passed]
          | error fault fault' last last' failed failed' =>
              rw [failed']
              exact nofun
        rw [Machine.turns_succ_of_stopped count first sink going,
          Machine.turns_succ_of_stopped count second sink' stopped']
        exact outcomes

/-- Runs do what compares, whatever the registers of the machines were. -/
theorem run (lockstep : comparison.Lockstep pairs left right)
    (zeros : comparison.banks Bank.zero Bank.zero) (first second : Machine)
    (code : first.code = left) (code' : second.code = right) {sink : σ} {sink' : τ}
    (sinks : comparison.sinks sink sink') :
    comparison.Outcomes (comparison.Machines left right) (first.run sink)
      (second.run sink') := by
  have sizes : first.size = second.size := by
    rw [Machine.size, Machine.size, code, code', lockstep.sizes]
  have machines : comparison.Machines left right first.reset second.reset :=
    ⟨code, code', rfl, zeros⟩
  rw [Machine.run, Machine.run, sizes]
  exact (lockstep.turns _ machines sinks).map _

end Lockstep

end Comparison

end RegisterMachine
