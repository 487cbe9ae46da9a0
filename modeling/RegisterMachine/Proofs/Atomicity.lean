import Mathlib.Data.List.Basic
import RegisterMachine.Machine
import RegisterMachine.Proofs.CallChain

/-!
# Acts that fail

An act on a machine that fails leaves the machine as it was.  Only the sink may have changed, and
only when it was the sink that refused: it then holds a part of the line that was being printed.
A fault that is not the sink's comes again whenever the act is tried again.
-/

set_option autoImplicit false

namespace RegisterMachine

variable {σ : Type} [Sink σ]

namespace Code

/-- How an execution fails, and what it leaves of the sink. -/
inductive Failure (code : Code) (bank : Bank) (sink : σ) (first : Instruction) :
    Fault → σ → Prop
  /-- The sink refused the line that the end of the chain was printing. -/
  | refused (calls : Nat) (label : Option String) (source : Register) (reason : String)
      (after : σ) (reached : code.chain bank first calls = some ⟨label, .out source⟩)
      (refusal : Sink.write sink (bank.line source) = (.error reason, after)) :
      Failure code bank sink first (.outputFailed reason) after
  /-- The fault has nothing to do with the sink, and comes with every sink. -/
  | faulted (fault : Fault) (other : ∀ reason, fault ≠ .outputFailed reason)
      (always : ∀ {τ : Type} [Sink τ] (sink : τ),
        (code.execute first bank sink).effect = ⟨.error fault, bank, sink⟩) :
      Failure code bank sink first fault sink

/-- What a failed execution may have written: nothing, unless it was the writing that failed.  Then
it is the beginning, and not the whole, of the line that the end of the chain was printing. -/
inductive WrittenAtFailure (code : Code) (bank : Bank) (first : Instruction) (before : Output) :
    Fault → Output → Prop
  | nothing (fault : Fault) (other : ∀ reason, fault ≠ .outputFailed reason) :
      WrittenAtFailure code bank first before fault before
  | part (calls : Nat) (label : Option String) (source : Register) (reason : String)
      (after : Output) (written : List Char)
      (reached : code.chain bank first calls = some ⟨label, .out source⟩)
      (begins : written <+: (bank.line source).toList)
      (unfinished : written ≠ (bank.line source).toList)
      (appended : after.text = before.text ++ String.ofList written) :
      WrittenAtFailure code bank first before (.outputFailed reason) after

/-! ## Failing executions -/

theorem perform?_error (instruction : Instruction) (bank : Bank) (sink : σ)
    (effect : Effect Unit Bank σ) (fault : Fault)
    (performed : instruction.perform? bank sink = some effect)
    (failed : effect.result = .error fault) :
    effect.state = bank ∧
      ((∃ label source reason, instruction = ⟨label, .out source⟩ ∧
          fault = .outputFailed reason ∧
          Sink.write sink (bank.line source) = (.error reason, effect.sink)) ∨
        (∀ reason, fault ≠ .outputFailed reason) ∧ effect.sink = sink ∧
          ∀ {τ : Type} [Sink τ] (sink : τ),
            instruction.perform? bank sink = some ⟨.error fault, bank, sink⟩) := by
  obtain ⟨label, operation⟩ := instruction
  cases operation with
  | arithmetic kind result source =>
      simp only [Instruction.perform?] at performed ⊢
      cases value : kind.apply (bank.get result) (bank.get source) with
      | some found =>
          rw [value] at performed
          cases performed
          contradiction
      | none =>
          rw [value] at performed
          cases performed
          cases failed
          exact ⟨rfl, Or.inr ⟨by simp, rfl, fun _ => rfl⟩⟩
  | mov result value =>
      cases performed
      contradiction
  | out source =>
      simp only [Instruction.perform?] at performed
      split at performed
      · cases performed
        contradiction
      · next reason after refusal =>
          cases performed
          cases failed
          exact ⟨rfl, Or.inl ⟨label, source, reason, rfl, rfl, refusal⟩⟩
  | jnz source target => contradiction

theorem execute_error (code : Code) (bank : Bank) (sink : σ) (first : Instruction)
    (fault : Fault) (failed : (code.execute first bank sink).result = .error fault) :
    (code.execute first bank sink).state = bank ∧
      code.Failure bank sink first fault (code.execute first bank sink).sink := by
  obtain ⟨effect, said⟩ := exists_chainEffect code bank sink first
  have executed := said.sound
  have result : effect.result = .error fault := by rw [← executed]; exact failed
  have state : (code.execute first bank sink).state = effect.state :=
    congrArg Effect.state executed
  have after : (code.execute first bank sink).sink = effect.sink :=
    congrArg Effect.sink executed
  rw [state, after]
  cases said with
  | performed calls last _ few reached performed =>
      obtain ⟨kept, ⟨label, source, reason, rfl, rfl, refusal⟩ | ⟨other, same, always⟩⟩ :=
        perform?_error last bank sink effect fault performed result
      · exact ⟨kept, .refused calls label source reason _ reached refusal⟩
      · rw [same]
        exact ⟨kept, .faulted fault other fun sink =>
          (ChainEffect.performed calls last _ few reached (always sink)).sound⟩
  | notTaken => contradiction
  | unresolved calls label source target few reached nonzero unresolved =>
      cases result
      exact ⟨rfl, .faulted _ (by simp) fun sink =>
        (ChainEffect.unresolved calls label source target few reached nonzero unresolved).sound⟩
  | tooDeep last next reached further =>
      cases result
      exact ⟨rfl, .faulted _ (by simp) fun sink =>
        (ChainEffect.tooDeep last next reached further).sound⟩

end Code

/-- A sink that refuses a piece has taken the beginning of it, and not the whole. -/
theorem Output.write_error (before after : Output) (piece reason : String)
    (refusal : before.write piece = (.error reason, after)) :
    ∃ written, written <+: piece.toList ∧ written ≠ piece.toList ∧
      after.text = before.text ++ String.ofList written := by
  unfold Output.write at refusal
  split at refusal
  · exact nomatch (Prod.mk.inj refusal).1
  · next limit bounded =>
      split at refusal
      · exact nomatch (Prod.mk.inj refusal).1
      · next short =>
          obtain ⟨-, rfl⟩ := Prod.mk.inj refusal
          refine ⟨piece.toList.take limit.room, List.take_prefix _ _, ?_, rfl⟩
          intro whole
          have length := congrArg List.length whole
          rw [List.length_take, String.length_toList] at length
          omega

namespace Code

theorem Failure.again {code : Code} {bank : Bank} {before after : σ} {first : Instruction}
    {fault : Fault} (failure : code.Failure bank before first fault after)
    (other : ∀ reason, fault ≠ .outputFailed reason) {τ : Type} [Sink τ] (another : τ) :
    (code.execute first bank another).result = .error fault := by
  cases failure with
  | refused => exact absurd rfl (other _)
  | faulted _ _ always => exact congrArg Effect.result (always another)

theorem Failure.written {code : Code} {bank : Bank} {before after : Output} {first : Instruction}
    {fault : Fault} (failure : code.Failure bank before first fault after) :
    code.WrittenAtFailure bank first before fault after := by
  cases failure with
  | refused calls label source reason _ reached refusal =>
      obtain ⟨written, begins, unfinished, appended⟩ :=
        Output.write_error before after _ reason refusal
      exact .part calls label source reason after written reached begins unfinished appended
  | faulted _ other always => exact .nothing fault other

theorem WrittenAtFailure.keeps {code : Code} {bank : Bank} {first : Instruction}
    {before after : Output} {fault : Fault}
    (written : code.WrittenAtFailure bank first before fault after) :
    before.text.toList <+: after.text.toList := by
  cases written with
  | nothing other => exact List.prefix_rfl
  | part calls label source reason _ written reached begins unfinished appended =>
      rw [appended, String.toList_append]
      exact List.prefix_append _ _

end Code

namespace Machine

/-! ## Failing turns -/

theorem loadText_error (machine : Machine) (text : String) (located : SourceFault)
    (failed : (machine.loadText text).1.result = .error located) :
    (machine.loadText text).2 = machine := by
  rcases machine.loadText_cases text with ⟨_, -, done, -⟩ | ⟨_, -, -, kept⟩
  · rw [done] at failed
    contradiction
  · exact kept

theorem execute_error (machine : Machine) (instruction : Instruction) (sink : σ) (fault : Fault)
    (failed : (machine.execute instruction sink).result = .error fault) :
    (machine.execute instruction sink).state = machine ∧
      machine.code.Failure machine.bank sink instruction fault
        (machine.execute instruction sink).sink := by
  obtain ⟨kept, failure⟩ :=
    Code.execute_error machine.code machine.bank sink instruction fault failed
  refine ⟨?_, failure⟩
  change { machine with bank := (machine.code.execute instruction machine.bank sink).state } =
    machine
  rw [kept]

theorem step_error (machine : Machine) (sink : σ) (fault : Fault)
    (failed : (machine.step sink).result = .error fault) :
    ∃ instruction, machine.code.program.get? machine.pc = some instruction ∧
      instruction.isLabelled = false ∧
      (machine.step sink).state = machine ∧
      machine.code.Failure machine.bank sink instruction fault (machine.step sink).sink := by
  have turn := machine.turn_step sink
  generalize machine.step sink = outcome at turn failed ⊢
  cases turn with
  | finished => contradiction
  | skipped => contradiction
  | executed => contradiction
  | failed instruction found bank after log fetched unlabelled ended =>
      cases failed
      obtain ⟨kept, failure⟩ := Code.execute_error machine.code machine.bank sink instruction fault
        (congrArg Outcome.result ended)
      rw [ended] at kept failure
      cases kept
      exact ⟨instruction, fetched, unlabelled, rfl, failure⟩

theorem step_error_again (machine : Machine) (sink : σ) (fault : Fault)
    (failed : (machine.step sink).result = .error fault)
    (other : ∀ reason, fault ≠ .outputFailed reason) {τ : Type} [Sink τ] (another : τ) :
    (machine.step another).result = .error fault := by
  obtain ⟨instruction, fetched, unlabelled, -, failure⟩ := machine.step_error sink fault failed
  have result : (machine.execute instruction another).result = .error fault :=
    failure.again other another
  rw [step_of_failed machine another instruction fault fetched unlabelled result]

theorem turns_error (count : Nat) (machine : Machine) (sink : σ) (fault : Fault)
    (failed : (turns count machine sink).result = .error fault) :
    ∃ earlier before printed, earlier < count ∧
      (turns earlier machine sink).effect = ⟨.ok true, before, printed⟩ ∧
      (before.step printed).effect = (turns count machine sink).effect := by
  induction count generalizing machine sink with
  | zero => contradiction
  | succ count ih =>
      by_cases going : (machine.step sink).result = .ok true
      · rw [turns_succ_of_going count machine sink going] at failed ⊢
        obtain ⟨earlier, before, printed, fewer, made, stepped⟩ := ih _ _ failed
        refine ⟨earlier + 1, before, printed, by omega, ?_, stepped⟩
        rw [turns_succ_of_going earlier machine sink going]
        exact made
      · rw [turns_succ_of_stopped count machine sink going]
        exact ⟨0, machine, sink, by omega, rfl, rfl⟩

theorem turns_error_of_run (machine : Machine) (sink : σ) (fault : Fault)
    (failed : (machine.run sink).result = .error fault) :
    (turns (max 1 machine.size) machine.reset sink).result = .error fault :=
  (Outcome.map_result_eq_error_iff _ _ fault).mp failed

/-! ## All acts -/

/-- A run stops with a fault after this many turns, which left this machine and printed this. -/
structure StopsAfter (machine : Machine) (sink : Output) (fault : Fault) (earlier : Nat)
    (before : Machine) (printed : Output) : Prop where
  going : (turns earlier machine.reset sink).effect = ⟨.ok true, before, printed⟩
  failing : (before.step printed).effect = ⟨.error fault, before, (machine.run sink).sink⟩
  left_alone : (machine.run sink).state = before
  kept : printed.text.toList <+: (machine.run sink).sink.text.toList
  again : (∀ reason, fault ≠ .outputFailed reason) → ∀ {τ : Type} [Sink τ] (another : τ),
    ((machine.run sink).state.step another).result = .error fault

theorem exists_stopsAfter (machine : Machine) (sink : Output) (fault : Fault)
    (failed : (machine.run sink).result = .error fault) :
    ∃ earlier before printed, machine.StopsAfter sink fault earlier before printed := by
  have result := machine.turns_error_of_run sink fault failed
  obtain ⟨earlier, before, printed, -, made, stepped⟩ := turns_error _ _ sink fault result
  have stepFailed : (before.step printed).result = .error fault :=
    (congrArg Effect.result stepped).trans result
  have runState : (machine.run sink).state = (before.step printed).state :=
    (congrArg Effect.state stepped).symm
  have runSink : (machine.run sink).sink = (before.step printed).sink :=
    (congrArg Effect.sink stepped).symm
  obtain ⟨instruction, -, -, alone, failure⟩ := before.step_error printed fault stepFailed
  refine ⟨earlier, before, printed, made, ?_, runState.trans alone, ?_, ?_⟩
  · rw [Outcome.effect, stepFailed, alone, runSink]
  · rw [runSink]
    exact failure.written.keeps
  · intro other τ _ another
    rw [runState, alone]
    exact before.step_error_again printed fault stepFailed other another

/-- An act that fails leaves the machine as it was: a text that has a fault, an instruction, a
turn, and the last turn of a run.  Nothing is written but a part of a line that was refused. -/
theorem failure_leaves_machine_alone (machine : Machine) (sink : Output) :
    (∀ text located, (machine.loadText text).1.result = .error located →
        (machine.loadText text).2 = machine) ∧
      (∀ instruction fault, (machine.execute instruction sink).result = .error fault →
        (machine.execute instruction sink).state = machine ∧
          machine.code.WrittenAtFailure machine.bank instruction sink fault
            (machine.execute instruction sink).sink) ∧
      (∀ fault, (machine.step sink).result = .error fault →
        (machine.step sink).state = machine ∧
          ∃ instruction, machine.code.program.get? machine.pc = some instruction ∧
            machine.code.WrittenAtFailure machine.bank instruction sink fault
              (machine.step sink).sink) ∧
      ∀ fault, (machine.run sink).result = .error fault →
        ∃ earlier before printed, machine.StopsAfter sink fault earlier before printed := by
  refine ⟨machine.loadText_error, ?_, ?_, machine.exists_stopsAfter sink⟩
  · intro instruction fault failed
    obtain ⟨kept, failure⟩ := machine.execute_error instruction sink fault failed
    exact ⟨kept, failure.written⟩
  · intro fault failed
    obtain ⟨instruction, fetched, -, kept, failure⟩ := machine.step_error sink fault failed
    exact ⟨kept, instruction, fetched, failure.written⟩

def printAndDivide : Machine where
  code := ⟨.ofList [⟨none, .mov .ebx 4⟩, ⟨none, .out .ebx⟩, ⟨none, .arithmetic .div .ebx .edx⟩],
    Labels.empty⟩
  bank := Bank.zero.set .ebx (-7)
  pc := 1

theorem failures_leave_printAndDivide_alone :
    (printAndDivide.loadText "out EBX\nmov EAX").2 = printAndDivide ∧
      (printAndDivide.execute ⟨none, .arithmetic .div .ebx .edx⟩
        Output.unlimited).state = printAndDivide ∧
      (printAndDivide.step (Output.limited 3 .broken)).state = printAndDivide ∧
      (printAndDivide.step (Output.limited 3 .broken)).sink.text = "EBX" ∧
      ∃ earlier before printed, printAndDivide.StopsAfter Output.unlimited
        (.divisionByZero "div EBX EDX") earlier before printed := by
  obtain ⟨loading, executing, -, running⟩ :=
    failure_leaves_machine_alone printAndDivide Output.unlimited
  obtain ⟨-, -, stepping, -⟩ :=
    failure_leaves_machine_alone printAndDivide (Output.limited 3 .broken)
  exact ⟨loading _ ⟨1, .invalidLiteral ""⟩ (by decide +kernel),
    (executing _ (.divisionByZero "div EBX EDX") (by decide +kernel)).1,
    (stepping (.outputFailed "broken pipe") (by decide +kernel)).1,
    by decide +kernel, running _ (by decide +kernel)⟩

end Machine

end RegisterMachine
