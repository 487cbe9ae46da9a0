import RegisterMachine.Proofs.CallChain
import RegisterMachine.Proofs.Listing
import RegisterMachine.Proofs.Sequence

/-!
# The log replays the run

A log reports every instruction before it takes effect, also those that are called.  Jumps have no
effect of their own, so the other operations of the log are what was done, in this order.  Written
one to a line they are a text without labels and jumps, and its run does the same once more.
-/

set_option autoImplicit false

namespace RegisterMachine

variable {σ : Type} [Sink σ] {α : Type}

/-! ## Operations one after another -/

namespace Operation

def jumps : Operation → Bool
  | .jnz _ _ => true
  | _ => false

/-- What the operation does on its own, without a label.  A jump does nothing. -/
def perform (operation : Operation) (bank : Bank) (sink : σ) : Effect Unit Bank σ :=
  (Instruction.perform? ⟨none, operation⟩ bank sink).getD ⟨.ok (), bank, sink⟩

def performAll : List Operation → Bank → σ → Effect Unit Bank σ
  | [], bank, sink => ⟨.ok (), bank, sink⟩
  | operation :: rest, bank, sink =>
      match operation.perform bank sink with
      | ⟨.ok (), bank, sink⟩ => performAll rest bank sink
      | ⟨.error fault, bank, sink⟩ => ⟨.error fault, bank, sink⟩

theorem performAll_cons_of_ok (operation : Operation) (rest : List Operation) (bank bank' : Bank)
    (sink sink' : σ) (success : operation.perform bank sink = ⟨.ok (), bank', sink'⟩) :
    performAll (operation :: rest) bank sink = performAll rest bank' sink' := by
  simp only [performAll, success]

theorem performAll_cons_of_error (operation : Operation) (rest : List Operation)
    (bank bank' : Bank) (sink sink' : σ) (fault : Fault)
    (failure : operation.perform bank sink = ⟨.error fault, bank', sink'⟩) :
    performAll (operation :: rest) bank sink = ⟨.error fault, bank', sink'⟩ := by
  simp only [performAll, failure]

theorem performAll_singleton (operation : Operation) (bank : Bank) (sink : σ) :
    performAll [operation] bank sink = operation.perform bank sink := by
  rcases performed : operation.perform bank sink with ⟨fault | done, bank', sink'⟩
  · exact performAll_cons_of_error operation [] bank bank' sink sink' fault performed
  · exact performAll_cons_of_ok operation [] bank bank' sink sink' performed

theorem performAll_append_of_ok (before rest : List Operation) (bank bank' : Bank)
    (sink sink' : σ) (success : performAll before bank sink = ⟨.ok (), bank', sink'⟩) :
    performAll (before ++ rest) bank sink = performAll rest bank' sink' := by
  induction before generalizing bank sink with
  | nil =>
      cases success
      rfl
  | cons operation before ih =>
      rcases performed : operation.perform bank sink with ⟨fault | done, next, after⟩
      · rw [performAll_cons_of_error operation before bank next sink after fault performed]
          at success
        cases success
      · rw [performAll_cons_of_ok operation before bank next sink after performed] at success
        rw [List.cons_append,
          performAll_cons_of_ok operation (before ++ rest) bank next sink after performed]
        exact ih next after success

end Operation

/-! ## What a log says was done -/

def Event.performed? : Event → Option Operation
  | .executing instruction =>
      if instruction.operation.jumps then none else some instruction.operation
  | _ => none

def Event.performed (log : List Event) : List Operation :=
  log.filterMap Event.performed?

/-- The operations that led to an outcome, one to a line. -/
def Outcome.replayText {state : Type} (outcome : Outcome α state σ) : String :=
  "\n".intercalate ((Event.performed outcome.log).map Operation.text)

theorem Event.jumps_of_mem_performed (log : List Event) (operation : Operation)
    (member : operation ∈ performed log) : operation.jumps = false := by
  obtain ⟨event, -, reported⟩ := List.mem_filterMap.mp member
  cases event with
  | executing instruction =>
      simp only [performed?] at reported
      split at reported
      · contradiction
      · next other =>
          cases reported
          exact Bool.eq_false_iff.mpr other
  | _ => contradiction

/-- How operations end that are performed once more.  Where a jump had failed nothing fails any
longer, and an operation that divides by zero is quoted without its label. -/
inductive Repeats : Except Fault α → Except Fault Unit → Prop
  | ok (value : α) : Repeats (.ok value) (.ok ())
  | undefinedLabel (name : String) : Repeats (.error (.undefinedLabel name)) (.ok ())
  | jumpTooDeep (limit : Nat) (text : String) :
      Repeats (.error (.jumpTooDeep limit text)) (.ok ())
  | divisionByZero (instruction : Instruction) :
      Repeats (.error (.divisionByZero instruction.text))
        (.error (.divisionByZero instruction.operation.text))
  | outputFailed (reason : String) :
      Repeats (.error (.outputFailed reason)) (.error (.outputFailed reason))

theorem Repeats.map {β : Type} {result : Except Fault α} {again : Except Fault Unit}
    (repeats : Repeats result again) (f : α → β) : Repeats (result.map f) again := by
  cases repeats with
  | ok value => exact .ok (f value)
  | undefinedLabel name => exact .undefinedLabel name
  | jumpTooDeep limit text => exact .jumpTooDeep limit text
  | divisionByZero instruction => exact .divisionByZero instruction
  | outputFailed reason => exact .outputFailed reason

def Outcome.Replays (outcome : Outcome α Bank σ) (bank : Bank) (sink : σ) : Prop :=
  ∃ again, Repeats outcome.result again ∧
    Operation.performAll (Event.performed outcome.log) bank sink =
      ⟨again, outcome.state, outcome.sink⟩

theorem Outcome.Replays.after {β : Type} {before : Outcome β Bank σ} {outcome : Outcome α Bank σ}
    {bank : Bank} {sink : σ} (replays : before.Replays bank sink) (value : β)
    (success : before.result = .ok value) (rest : outcome.Replays before.state before.sink) :
    (outcome.after before.log).Replays bank sink := by
  obtain ⟨again, repeats, performed⟩ := replays
  obtain ⟨later, repeats', performed'⟩ := rest
  rw [success] at repeats
  cases repeats with
  | ok value =>
      refine ⟨later, repeats', ?_⟩
      change Operation.performAll (Event.performed (before.log ++ outcome.log)) bank sink =
        ⟨later, outcome.state, outcome.sink⟩
      rw [← performed', Event.performed, List.filterMap_append]
      exact Operation.performAll_append_of_ok _ _ bank _ sink _ performed

/-! ## Calls, turns and runs -/

/-- Without its label an instruction does what it did with it, and its faults are quoted without
it. -/
theorem Instruction.repeats_perform (instruction : Instruction) (bank : Bank) (sink : σ)
    (effect : Effect Unit Bank σ) (performed : instruction.perform? bank sink = some effect) :
    instruction.operation.jumps = false ∧ ∃ again, Repeats effect.result again ∧
      instruction.operation.perform bank sink = ⟨again, effect.state, effect.sink⟩ := by
  obtain ⟨label, operation⟩ := instruction
  cases operation with
  | arithmetic kind result source =>
      simp only [Operation.perform, perform?] at performed ⊢
      cases combined : kind.apply (bank.get result) (bank.get source) with
      | some value =>
          rw [combined] at performed
          cases performed
          exact ⟨rfl, .ok (), .ok (), rfl⟩
      | none =>
          rw [combined] at performed
          cases performed
          exact ⟨rfl, _, .divisionByZero _, rfl⟩
  | mov result value =>
      cases performed
      exact ⟨rfl, .ok (), .ok (), rfl⟩
  | out source =>
      simp only [Operation.perform, perform?] at performed ⊢
      rcases answer : Sink.write sink (bank.line source) with ⟨reason | done, after⟩
      · rw [answer] at performed
        cases performed
        exact ⟨rfl, _, .outputFailed reason, rfl⟩
      · rw [answer] at performed
        cases performed
        exact ⟨rfl, .ok (), .ok (), rfl⟩
  | jnz source target => contradiction

namespace Code

theorem replays_of_perform (instruction : Instruction) (bank : Bank) (sink : σ)
    (effect : Effect Unit Bank σ) (performed : instruction.perform? bank sink = some effect) :
    (instruction.outcome effect).Replays bank sink := by
  obtain ⟨other, again, repeats, once⟩ := instruction.repeats_perform bank sink effect performed
  have reported : Event.performed [.executing instruction] = [instruction.operation] := by
    simp [Event.performed, Event.performed?, other]
  refine ⟨again, repeats, ?_⟩
  rw [Instruction.outcome, reported, Operation.performAll_singleton, once]

theorem call_replays (code : Code) (bank : Bank) (sink : σ) (callsLeft : Nat)
    (instruction : Instruction) :
    (code.call bank sink callsLeft instruction).Replays bank sink := by
  have calling := code.calling_call bank sink callsLeft instruction
  generalize code.call bank sink callsLeft instruction = outcome at calling ⊢
  induction calling with
  | performed callsLeft instruction effect performed =>
      exact replays_of_perform instruction bank sink effect performed
  | notTaken callsLeft label source target zero => exact ⟨.ok (), .ok (), rfl⟩
  | unresolved callsLeft label source target nonzero unresolved =>
      exact ⟨.ok (), .undefinedLabel target, rfl⟩
  | tooDeep label source target callee nonzero resolved =>
      exact ⟨.ok (), .jumpTooDeep maxCalls _, rfl⟩
  | called callsLeft label source target callee outcome nonzero resolved rest ih => exact ih

end Code

namespace Machine

theorem step_replays (machine : Machine) (sink : σ) :
    ((machine.step sink).mapState Machine.bank).Replays machine.bank sink := by
  have turn := machine.turn_step sink
  have replays (instruction : Instruction) :=
    machine.code.call_replays machine.bank sink maxCalls instruction
  generalize machine.step sink = outcome at turn ⊢
  cases turn with
  | finished past => exact ⟨.ok (), .ok false, rfl⟩
  | skipped instruction fetched labelled => exact ⟨.ok (), .ok _, rfl⟩
  | executed instruction bank after log fetched unlabelled success =>
      obtain ⟨again, repeats, performed⟩ := replays instruction
      rw [← Code.execute, success] at repeats performed
      exact ⟨again, repeats.map fun _ => !machine.advance.isFinished, performed⟩
  | failed instruction fault bank after log fetched unlabelled failure =>
      obtain ⟨again, repeats, performed⟩ := replays instruction
      rw [← Code.execute, failure] at repeats performed
      exact ⟨again, repeats.map fun _ => false, performed⟩

theorem turns_replays (count : Nat) (machine : Machine) (sink : σ) :
    ((turns count machine sink).mapState Machine.bank).Replays machine.bank sink := by
  induction count generalizing machine sink with
  | zero => exact ⟨.ok (), .ok true, rfl⟩
  | succ count ih =>
      by_cases going : (machine.step sink).result = .ok true
      · rw [turns_succ_of_going count machine sink going]
        exact (machine.step_replays sink).after true going (ih _ _)
      · rw [turns_succ_of_stopped count machine sink going]
        exact machine.step_replays sink

theorem run_replays (machine : Machine) (sink : σ) :
    ((machine.run sink).mapState Machine.bank).Replays Bank.zero sink := by
  obtain ⟨again, repeats, performed⟩ := turns_replays (max 1 machine.size) machine.reset sink
  exact ⟨again, repeats.map _, performed⟩

end Machine

/-! ## Texts of operations -/

def Program.ofOperations (operations : List Operation) : Program :=
  .ofList (operations.map (Instruction.mk none))

theorem Program.text_ofOperations (operations : List Operation) :
    (ofOperations operations).text = "\n".intercalate (operations.map Operation.text) := by
  rw [text, ofOperations, toList_ofList, List.map_map]
  rfl

theorem Program.readable_ofOperations (operations : List Operation)
    (others : ∀ operation ∈ operations, operation.jumps = false) :
    (ofOperations operations).Readable := by
  have plain : ∀ instruction ∈ (ofOperations operations).toList,
      instruction.label = none ∧ instruction.operation.jumps = false := by
    intro instruction member
    obtain ⟨operation, found, rfl⟩ := List.mem_map.mp member
    exact ⟨rfl, others operation found⟩
  constructor
  · intro instruction member
    obtain ⟨unlabelled, other⟩ := plain instruction member
    refine ⟨fun label labelled => ?_, fun source target jump => ?_⟩
    · rw [unlabelled] at labelled
      contradiction
    · rw [jump] at other
      contradiction
  · intro label first second carries
    obtain ⟨instruction, fetched, labelled⟩ := carries
    rw [get?_eq_getElem?] at fetched
    rw [(plain instruction (List.mem_of_getElem? fetched)).1] at labelled
    contradiction

theorem Program.unlabelled_ofOperations (operations : List Operation) :
    (ofOperations operations).unlabelled = (operations.map (Instruction.mk none)).zipIdx := by
  rw [unlabelled, ofOperations, toList_ofList, List.filter_eq_self]
  intro entry member
  obtain ⟨operation, -, same⟩ := List.mem_map.mp (List.fst_mem_of_mem_zipIdx member)
  rw [← same]
  rfl

def Passage.effect (passage : Passage σ) : Effect Unit Bank σ :=
  ⟨passage.result, passage.bank, passage.sink⟩

namespace Code

theorem effect_execute_plain (code : Code) (operation : Operation)
    (other : operation.jumps = false) (bank : Bank) (sink : σ) :
    (code.execute ⟨none, operation⟩ bank sink).effect = operation.perform bank sink := by
  have performs : ∃ effect, Instruction.perform? ⟨none, operation⟩ bank sink = some effect := by
    cases performed : Instruction.perform? ⟨none, operation⟩ bank sink with
    | some effect => exact ⟨effect, rfl⟩
    | none =>
        obtain ⟨label, source, target, jump⟩ :=
          Instruction.eq_jnz_of_perform? ⟨none, operation⟩ bank sink performed
        cases jump
        contradiction
  obtain ⟨effect, performed⟩ := performs
  rw [Operation.perform, performed]
  exact code.effect_call_of_perform bank sink maxCalls ⟨none, operation⟩ effect performed

theorem executeInOrder_plain (code : Code) (operations : List Operation)
    (others : ∀ operation ∈ operations, operation.jumps = false) (start : Nat) (bank : Bank)
    (sink : σ) :
    (code.executeInOrder ((operations.map (Instruction.mk none)).zipIdx start) bank sink).effect =
      Operation.performAll operations bank sink := by
  induction operations generalizing start bank sink with
  | nil => rfl
  | cons operation rest ih =>
      obtain ⟨other, others⟩ := List.forall_mem_cons.mp others
      have once := code.effect_execute_plain operation other bank sink
      rw [List.map_cons, List.zipIdx_cons]
      rcases ended : code.execute ⟨none, operation⟩ bank sink with ⟨fault | done, next, after, log⟩
      · rw [ended] at once
        rw [Operation.performAll_cons_of_error operation rest bank next sink after fault once.symm]
        simp only [executeInOrder, ended]
        rfl
      · rw [ended] at once
        rw [Operation.performAll_cons_of_ok operation rest bank next sink after once.symm,
          ← ih others (start + 1) next after]
        simp only [executeInOrder, ended]

end Code

namespace Machine

/-- A run of operations without jumps performs them one after another. -/
theorem run_of_operations (machine : Machine) (operations : List Operation)
    (others : ∀ operation ∈ operations, operation.jumps = false)
    (program : machine.code.program = .ofOperations operations) (sink : σ) :
    ((machine.run sink).mapState Machine.bank).effect =
      Operation.performAll operations Bank.zero sink := by
  rw [← machine.code.executeInOrder_plain operations others 0, ← Program.unlabelled_ofOperations,
    ← program]
  apply Effect.ext
  · exact machine.run_result sink
  · exact machine.run_bank sink
  · exact machine.run_sink sink

theorem loadText_of_operations (machine : Machine) (operations : List Operation)
    (others : ∀ operation ∈ operations, operation.jumps = false) :
    (machine.loadText ("\n".intercalate (operations.map Operation.text))).1.result = .ok () ∧
      (machine.loadText ("\n".intercalate (operations.map Operation.text))).2.code.program =
        .ofOperations operations := by
  obtain ⟨labels, assembled⟩ := Code.ofText_text_of_readable (.ofOperations operations)
    (Program.readable_ofOperations operations others)
  rw [Program.text_ofOperations] at assembled
  obtain ⟨done, loaded⟩ := machine.loadText_of_ofText _ _ assembled
  exact ⟨done, by rw [loaded, load]⟩

/-- The second run does what the first one did, as far as that can be told from operations alone. -/
structure Reproduces (original replay : Outcome Unit Machine σ) : Prop where
  sinks : replay.sink = original.sink
  banks : replay.state.bank = original.state.bank
  ok_iff : replay.result = .ok () ↔ original.result = .ok () ∨
    (∃ name, original.result = .error (.undefinedLabel name)) ∨
      ∃ limit text, original.result = .error (.jumpTooDeep limit text)
  outputFailed_iff : ∀ reason,
    replay.result = .error (.outputFailed reason) ↔ original.result = .error (.outputFailed reason)
  divides_again : ∀ text, original.result = .error (.divisionByZero text) →
    ∃ instruction : Instruction, instruction.text = text ∧
      replay.result = .error (.divisionByZero instruction.operation.text)
  divided_before : ∀ text, replay.result = .error (.divisionByZero text) →
    ∃ instruction : Instruction, instruction.operation.text = text ∧
      original.result = .error (.divisionByZero instruction.text)

omit [Sink σ] in
theorem reproduces_of_repeats {original replay : Outcome Unit Machine σ}
    (repeats : Repeats original.result replay.result) (sinks : replay.sink = original.sink)
    (banks : replay.state.bank = original.state.bank) : Reproduces original replay := by
  obtain ⟨result, state, after, log⟩ := original
  obtain ⟨result', state', after', log'⟩ := replay
  change Repeats result result' at repeats
  cases repeats with
  | ok value => exact ⟨sinks, banks, by simp, by simp, nofun, nofun⟩
  | undefinedLabel name => exact ⟨sinks, banks, by simp, by simp, nofun, nofun⟩
  | jumpTooDeep limit text => exact ⟨sinks, banks, by simp, by simp, nofun, nofun⟩
  | outputFailed reason => exact ⟨sinks, banks, by simp, by simp, nofun, nofun⟩
  | divisionByZero instruction =>
      refine ⟨sinks, banks, by simp, by simp, ?_, ?_⟩
      · rintro text failed
        cases failed
        exact ⟨instruction, rfl, rfl⟩
      · rintro text failed
        cases failed
        exact ⟨instruction, rfl, rfl⟩

/-- The operations in the log of a run are a text that any machine can be loaded with, and the run
of that text into the same sink does the same. -/
theorem log_replays_run (machine other : Machine) (sink : σ) :
    (other.loadText (machine.run sink).replayText).1.result = .ok () ∧
      Reproduces (machine.run sink)
        ((other.loadText (machine.run sink).replayText).2.run sink) := by
  have others := Event.jumps_of_mem_performed (machine.run sink).log
  obtain ⟨again, repeats, performed⟩ := machine.run_replays sink
  rw [Outcome.replayText]
  obtain ⟨loaded, program⟩ := other.loadText_of_operations _ others
  generalize (other.loadText _).2 = replaying at program ⊢
  have replay := (run_of_operations replaying _ others program sink).trans performed
  obtain ⟨result, bank, after⟩ := Effect.mk.inj replay
  refine ⟨loaded, reproduces_of_repeats ?_ after bank⟩
  rw [← result] at repeats
  exact repeats

def stray : Machine where
  code :=
    { program := .ofList
        [⟨none, .mov .eax 8⟩, ⟨some "show", .out .eax⟩, ⟨none, .jnz .eax "show"⟩,
          ⟨none, .jnz .eax "nowhere"⟩]
      labels := ⟨[("show", 1)], by simp, by simp⟩ }
  bank := Bank.zero
  pc := 0

theorem log_replays_stray :
    (stray.run Output.unlimited).replayText = "mov EAX 8\nout EAX" ∧
      (stray.run Output.unlimited).result = .error (.undefinedLabel "nowhere") ∧
      ((stray.loadText "mov EAX 8\nout EAX").2.run Output.unlimited).result = .ok () ∧
      ((stray.loadText "mov EAX 8\nout EAX").2.run Output.unlimited).sink =
        (stray.run Output.unlimited).sink := by
  have text : (stray.run Output.unlimited).replayText = "mov EAX 8\nout EAX" := by
    decide +kernel
  have failed : (stray.run Output.unlimited).result = .error (.undefinedLabel "nowhere") := by
    decide +kernel
  obtain ⟨-, replay⟩ := log_replays_run stray stray Output.unlimited
  rw [text] at replay
  exact ⟨text, failed, replay.ok_iff.mpr (.inr (.inl ⟨_, failed⟩)), replay.sinks⟩

end Machine

end RegisterMachine
