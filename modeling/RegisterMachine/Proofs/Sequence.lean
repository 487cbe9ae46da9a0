import RegisterMachine.Machine

/-!
# A run as a sequence of executions

A run is a loop of turns, and the result of a turn tells whether the loop goes on.  What the
loop amounts to needs no program counter: with all registers zero, the instructions without a
label are executed one after another, in the order of their addresses, up to the first fault.
-/

set_option autoImplicit false

namespace RegisterMachine

variable {σ : Type} [Sink σ]

def Program.unlabelledFrom (program : Program) (start : Nat) : List (Instruction × Nat) :=
  ((program.toList.drop start).zipIdx start).filter fun entry => !entry.1.isLabelled

def Program.unlabelled (program : Program) : List (Instruction × Nat) :=
  program.toList.zipIdx.filter fun entry => !entry.1.isLabelled

/-- How executions one after another went: the fault that stopped them, with its address, and
the bank and the sink that they left. -/
structure Passage (σ : Type) where
  failure : Option (Nat × Fault)
  bank : Bank
  sink : σ

def Passage.result (passage : Passage σ) : Except Fault Unit :=
  match passage.failure with
  | none => .ok ()
  | some (_, fault) => .error fault

/-- Executes instructions one after another, up to the first fault. -/
def Code.executeInOrder (code : Code) : List (Instruction × Nat) → Bank → σ → Passage σ
  | [], bank, sink => ⟨none, bank, sink⟩
  | (instruction, address) :: rest, bank, sink =>
      let outcome := code.execute instruction bank sink
      match outcome.result with
      | .ok () => code.executeInOrder rest outcome.state outcome.sink
      | .error fault => ⟨some (address, fault), outcome.state, outcome.sink⟩

/-- The unlabelled instructions of a machine's program in order, from registers that are zero. -/
def Machine.sequence (machine : Machine) (sink : σ) : Passage σ :=
  machine.code.executeInOrder machine.code.program.unlabelled Bank.zero sink

/-- Turns are taken, and counted, until one of them fails or says that it was the last. -/
inductive Machine.Loop : Machine → σ → Nat → Outcome Unit Machine σ → Prop
  | last (machine : Machine) (sink : σ) (finished : (machine.step sink).result = .ok false) :
      Loop machine sink 1 ((machine.step sink).map fun _ => ())
  | failed (machine : Machine) (sink : σ) (fault : Fault)
      (failure : (machine.step sink).result = .error fault) :
      Loop machine sink 1 ((machine.step sink).map fun _ => ())
  | again (machine : Machine) (sink : σ) (count : Nat) (rest : Outcome Unit Machine σ)
      (going : (machine.step sink).result = .ok true)
      (others : Loop (machine.step sink).state (machine.step sink).sink count rest) :
      Loop machine sink (count + 1) (rest.after (machine.step sink).log)

/-! ## The instructions that remain -/

namespace Program

theorem unlabelledFrom_of_end (program : Program) (start : Nat) (past : program.size ≤ start) :
    program.unlabelledFrom start = [] := by
  rw [size_eq_length] at past
  rw [unlabelledFrom, List.drop_eq_nil_of_le past]
  rfl

theorem unlabelledFrom_of_get? (program : Program) (start : Nat) (instruction : Instruction)
    (fetched : program.get? start = some instruction) :
    program.unlabelledFrom start =
      if instruction.isLabelled then program.unlabelledFrom (start + 1)
      else (instruction, start) :: program.unlabelledFrom (start + 1) := by
  rw [get?_eq_getElem?] at fetched
  obtain ⟨inside, found⟩ := List.getElem?_eq_some_iff.mp fetched
  rw [unlabelledFrom, List.drop_eq_getElem_cons inside, found, List.zipIdx_cons,
    List.filter_cons]
  cases labelled : instruction.isLabelled with
  | true => simp [unlabelledFrom]
  | false => simp [unlabelledFrom]

theorem mem_unlabelled (program : Program) (instruction : Instruction) (address : Nat) :
    (instruction, address) ∈ program.unlabelled ↔
      program.get? address = some instruction ∧ instruction.isLabelled = false := by
  rw [unlabelled, List.mem_filter, List.mk_mem_zipIdx_iff_getElem?, get?_eq_getElem?]
  simp

end Program

namespace Code

theorem executeInOrder_of_success (code : Code) (instruction : Instruction) (address : Nat)
    (rest : List (Instruction × Nat)) (bank : Bank) (sink : σ)
    (success : (code.execute instruction bank sink).result = .ok ()) :
    code.executeInOrder ((instruction, address) :: rest) bank sink =
      code.executeInOrder rest (code.execute instruction bank sink).state
        (code.execute instruction bank sink).sink := by
  simp only [executeInOrder, success]

theorem executeInOrder_of_failure (code : Code) (instruction : Instruction) (address : Nat)
    (rest : List (Instruction × Nat)) (bank : Bank) (sink : σ) (fault : Fault)
    (failure : (code.execute instruction bank sink).result = .error fault) :
    code.executeInOrder ((instruction, address) :: rest) bank sink =
      ⟨some (address, fault), (code.execute instruction bank sink).state,
        (code.execute instruction bank sink).sink⟩ := by
  simp only [executeInOrder, failure]

theorem mem_of_executeInOrder_failure (code : Code) (entries : List (Instruction × Nat))
    (bank : Bank) (sink : σ) (address : Nat) (fault : Fault)
    (failed : (code.executeInOrder entries bank sink).failure = some (address, fault)) :
    ∃ instruction, (instruction, address) ∈ entries := by
  induction entries generalizing bank sink with
  | nil => exact nomatch failed
  | cons entry rest ih =>
      obtain ⟨instruction, place⟩ := entry
      cases result : (code.execute instruction bank sink).result with
      | ok done =>
          rw [executeInOrder_of_success code instruction place rest bank sink result] at failed
          obtain ⟨later, member⟩ := ih _ _ failed
          exact ⟨later, List.mem_cons_of_mem _ member⟩
      | error other =>
          rw [executeInOrder_of_failure code instruction place rest bank sink other result]
            at failed
          have same : place = address := (Prod.mk.inj (Option.some.inj failed)).1
          exact ⟨instruction, by rw [same]; exact List.mem_cons_self⟩

end Code

namespace Machine

/-! ## The loop -/

theorem loop_of_turns (count : Nat) (machine : Machine) (sink : σ)
    (ended : (turns count machine sink).result ≠ .ok true) :
    ∃ used, used ≤ count ∧
      Loop machine sink used ((turns count machine sink).map fun _ => ()) := by
  induction count generalizing machine sink with
  | zero => exact absurd rfl ended
  | succ count ih =>
      cases first : (machine.step sink).result with
      | error fault =>
          refine ⟨1, by omega, ?_⟩
          rw [turns_succ_of_stopped count machine sink (by simp [first])]
          exact .failed machine sink fault first
      | ok going =>
          cases going with
          | false =>
              refine ⟨1, by omega, ?_⟩
              rw [turns_succ_of_stopped count machine sink (by simp [first])]
              exact .last machine sink first
          | true =>
              rw [turns_succ_of_going count machine sink first] at ended ⊢
              obtain ⟨used, fewer, others⟩ := ih _ _ ended
              exact ⟨used + 1, by omega, .again machine sink used _ first others⟩

/-- What a loop of turns leaves behind when it amounts to a passage. -/
structure Amounts (code : Code) (passage : Passage σ) (effect : Effect Bool Machine σ) :
    Prop where
  code_kept : effect.state.code = code
  bank_agrees : effect.state.bank = passage.bank
  sink_agrees : effect.sink = passage.sink
  ended : passage.failure = none →
    effect.result = .ok false ∧ effect.state.pc = code.program.size
  stopped : ∀ address fault, passage.failure = some (address, fault) →
    effect.result = .error fault ∧ effect.state.pc = address

omit [Sink σ] in
theorem Amounts.not_going {code : Code} {passage : Passage σ} {effect : Effect Bool Machine σ}
    (amounts : Amounts code passage effect) : effect.result ≠ .ok true := by
  cases failure : passage.failure with
  | none =>
      rw [(amounts.ended failure).1]
      simp
  | some failed =>
      rw [(amounts.stopped failed.1 failed.2 failure).1]
      intro going
      contradiction

theorem effect_turns_of_moved (left : Nat) (machine next : Machine) (sink sink' : σ)
    (log : List Event)
    (stepped : machine.step sink = ⟨.ok (!next.isFinished), next, sink', log⟩)
    (place : next.pc + left = next.size) :
    (turns (left + 1) machine sink).effect = (turns (max 1 left) next sink').effect := by
  cases left with
  | zero =>
      have finished : next.isFinished = true := (isFinished_iff next).mpr (by omega)
      have stop : (machine.step sink).result ≠ .ok true := by simp [stepped, finished]
      have stay : next.step sink' = ⟨.ok false, next, sink', []⟩ :=
        step_of_finished next sink' (by omega)
      rw [turns_succ_of_stopped 0 machine sink stop, Nat.max_eq_left (Nat.zero_le 1),
        turns_succ_of_stopped 0 next sink' (by simp [stay]), stepped, stay, finished]
      rfl
  | succ left =>
      have unfinished : next.isFinished = false := by
        rw [← Bool.not_eq_true, isFinished_iff]
        omega
      have going : (machine.step sink).result = .ok true := by simp [stepped, unfinished]
      rw [turns_succ_of_going (left + 1) machine sink going, Outcome.effect_after, stepped,
        Nat.max_eq_right (by omega)]

/-- The loop invariant: from any place on, the turns amount to the instructions that remain. -/
theorem amounts_turns (left : Nat) (machine : Machine) (sink : σ)
    (place : machine.pc + left = machine.size) :
    Amounts machine.code
      (machine.code.executeInOrder (machine.code.program.unlabelledFrom machine.pc)
        machine.bank sink)
      (turns (max 1 left) machine sink).effect := by
  induction left generalizing machine sink with
  | zero =>
      have past : machine.size ≤ machine.pc := by omega
      have stay : machine.step sink = ⟨.ok false, machine, sink, []⟩ :=
        step_of_finished machine sink past
      rw [Nat.max_eq_left (Nat.zero_le 1), turns_succ_of_stopped 0 machine sink (by simp [stay]),
        stay, Program.unlabelledFrom_of_end machine.code.program machine.pc past]
      exact ⟨rfl, rfl, rfl, fun _ => ⟨rfl, place⟩, fun _ _ failed => nomatch failed⟩
  | succ left ih =>
      have inside : ¬ machine.code.program.size ≤ machine.pc := by
        change ¬ machine.size ≤ machine.pc
        omega
      obtain ⟨instruction, fetched⟩ : ∃ instruction,
          machine.code.program.get? machine.pc = some instruction := by
        rw [← Option.ne_none_iff_exists', Ne, Program.get?_eq_none_iff]
        exact inside
      have remaining :=
        Program.unlabelledFrom_of_get? machine.code.program machine.pc instruction fetched
      rw [Nat.max_eq_right (by omega)]
      cases labelled : instruction.isLabelled with
      | true =>
          have stepped := step_of_labelled machine sink instruction fetched labelled
          have moved : machine.advance.pc + left = machine.advance.size := by
            change machine.pc + 1 + left = machine.size
            omega
          rw [effect_turns_of_moved left machine machine.advance sink sink _ stepped moved,
            remaining, if_pos labelled]
          exact ih machine.advance sink moved
      | false =>
          have unlabelled : ¬ instruction.isLabelled = true := by simp [labelled]
          rw [remaining, if_neg unlabelled]
          cases result : (machine.code.execute instruction machine.bank sink).result with
          | ok done =>
              have stepped := step_of_executed machine sink instruction fetched labelled result
              have moved : (machine.execute instruction sink).state.advance.pc + left =
                  (machine.execute instruction sink).state.advance.size := by
                change machine.pc + 1 + left = machine.size
                omega
              rw [effect_turns_of_moved left machine _ sink _ _ stepped moved,
                Code.executeInOrder_of_success _ _ _ _ _ _ result]
              exact ih (machine.execute instruction sink).state.advance _ moved
          | error fault =>
              have stepped :=
                step_of_failed machine sink instruction fault fetched labelled result
              rw [turns_succ_of_stopped left machine sink (by simp [stepped]), stepped,
                Code.executeInOrder_of_failure _ _ _ _ _ _ fault result]
              refine ⟨rfl, rfl, rfl, fun ended => (nomatch ended), ?_⟩
              intro address other failed
              obtain ⟨rfl, rfl⟩ := Prod.mk.inj (Option.some.inj failed)
              exact ⟨rfl, rfl⟩

theorem amounts_run (machine : Machine) (sink : σ) :
    Amounts machine.code (machine.sequence sink)
      (turns (max 1 machine.size) machine.reset sink).effect :=
  amounts_turns machine.size machine.reset sink (Nat.zero_add machine.size)

theorem run_code (machine : Machine) (sink : σ) : (machine.run sink).state.code = machine.code :=
  (machine.amounts_run sink).code_kept

theorem run_result (machine : Machine) (sink : σ) :
    (machine.run sink).result = (machine.sequence sink).result := by
  have amounts := machine.amounts_run sink
  change (turns (max 1 machine.size) machine.reset sink).effect.result.map (fun _ => ()) = _
  rw [Passage.result]
  split
  · next failure => rw [(amounts.ended failure).1]; rfl
  · next address fault failure => rw [(amounts.stopped address fault failure).1]; rfl

theorem run_bank (machine : Machine) (sink : σ) :
    (machine.run sink).state.bank = (machine.sequence sink).bank :=
  (machine.amounts_run sink).bank_agrees

theorem run_sink (machine : Machine) (sink : σ) :
    (machine.run sink).sink = (machine.sequence sink).sink :=
  (machine.amounts_run sink).sink_agrees

theorem run_pc_of_ok (machine : Machine) (sink : σ) (success : (machine.run sink).result = .ok ()) :
    (machine.run sink).state.pc = machine.size := by
  rw [run_result, Passage.result] at success
  split at success
  · next failure => exact ((machine.amounts_run sink).ended failure).2
  · contradiction

theorem run_isFinished_iff (machine : Machine) (sink : σ) :
    (machine.run sink).state.isFinished = true ↔ (machine.run sink).result = .ok () := by
  have amounts := machine.amounts_run sink
  rw [run_result, Passage.result, isFinished_iff, size, run_code]
  cases failure : (machine.sequence sink).failure with
  | none =>
      have place : (machine.run sink).state.pc = machine.code.program.size :=
        (amounts.ended failure).2
      simp [place]
  | some failed =>
      obtain ⟨address, fault⟩ := failed
      have place : (machine.run sink).state.pc = address :=
        (amounts.stopped address fault failure).2
      obtain ⟨instruction, member⟩ :=
        Code.mem_of_executeInOrder_failure _ _ _ _ address fault failure
      have inside := machine.code.program.lt_size_of_get? address instruction
        ((Program.mem_unlabelled _ instruction address).mp member).1
      simp [place, inside]

/-- A run is a loop that ends within one turn for each instruction, and it amounts to executing
the unlabelled instructions in order. -/
theorem run_amounts_to_sequence (machine : Machine) (sink : σ) :
    (∃ count, count ≤ max 1 machine.size ∧
        Loop machine.reset sink count (machine.run sink)) ∧
      (machine.run sink).state.code = machine.code ∧
      (machine.run sink).state.bank = (machine.sequence sink).bank ∧
      (machine.run sink).sink = (machine.sequence sink).sink ∧
      match (machine.sequence sink).failure with
      | none =>
          (machine.run sink).result = .ok () ∧ (machine.run sink).state.pc = machine.size ∧
            (machine.run sink).state.isFinished = true
      | some (address, fault) =>
          (machine.run sink).result = .error fault ∧ (machine.run sink).state.pc = address ∧
            ∃ instruction, machine.code.program.get? address = some instruction ∧
              instruction.isLabelled = false := by
  have amounts : Amounts machine.code (machine.sequence sink)
      (turns (max 1 machine.size) machine.reset sink).effect :=
    amounts_turns machine.size machine.reset sink (Nat.zero_add machine.size)
  refine ⟨loop_of_turns _ machine.reset sink amounts.not_going, amounts.code_kept,
    amounts.bank_agrees, amounts.sink_agrees, ?_⟩
  split
  · next failure =>
      obtain ⟨result, place⟩ := amounts.ended failure
      have result' : (turns (max 1 machine.size) machine.reset sink).result = .ok false := result
      have code_kept : (machine.run sink).state.code = machine.code := amounts.code_kept
      have place' : (machine.run sink).state.pc = machine.size := place
      refine ⟨by rw [run, Outcome.map, result']; rfl, place', ?_⟩
      rw [isFinished_iff, size, code_kept, place']
      exact Nat.le_refl _
  · next address fault failure =>
      obtain ⟨result, place⟩ := amounts.stopped address fault failure
      have result' : (turns (max 1 machine.size) machine.reset sink).result = .error fault :=
        result
      obtain ⟨instruction, member⟩ :=
        Code.mem_of_executeInOrder_failure _ _ _ _ address fault failure
      refine ⟨by rw [run, Outcome.map, result']; rfl, place, instruction, ?_⟩
      exact (Program.mem_unlabelled _ instruction address).mp member

end Machine

end RegisterMachine
