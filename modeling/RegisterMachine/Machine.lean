import RegisterMachine.Assembly
import RegisterMachine.Execution

/-!
# Machines

A machine holds code, a bank and a program counter.  A turn takes it over one instruction:
a labelled instruction is stepped over, any other is executed.  A turn that fails leaves the
machine at the instruction that failed.  Every other turn moves the program counter on by
one, so a run takes at most as many turns as the program has instructions.
-/

set_option autoImplicit false

namespace RegisterMachine

structure Machine where
  code : Code
  bank : Bank
  pc : Nat
  deriving DecidableEq

namespace Machine

/-- A machine with these registers and no program. -/
def ofBank (bank : Bank) : Machine := ⟨Code.empty, bank, 0⟩

def load (machine : Machine) (code : Code) : Machine := ⟨code, machine.bank, 0⟩

/-- Loads the code of a text, or leaves the machine alone if the text has a fault. -/
def loadText (machine : Machine) (text : String) : Assembly × Machine :=
  let assembly := Code.empty.refill text
  match assembly.result with
  | .ok () => (assembly, machine.load assembly.code)
  | .error _ => (assembly, machine)

def setRegister (machine : Machine) (register : Register) (value : Int32) : Machine :=
  { machine with bank := machine.bank.set register value }

def clearRegisters (machine : Machine) : Machine :=
  { machine with bank := Bank.zero }

def size (machine : Machine) : Nat := machine.code.program.size

def isFinished (machine : Machine) : Bool := machine.size ≤ machine.pc

def advance (machine : Machine) : Machine :=
  { machine with pc := machine.pc + 1 }

def same (left right : Machine) : Bool :=
  left.code.same right.code && left.bank == right.bank && left.pc == right.pc

variable {σ : Type} [Sink σ]

def execute (machine : Machine) (instruction : Instruction) (sink : σ) :
    Outcome Unit Machine σ :=
  (machine.code.execute instruction machine.bank sink).mapState fun bank =>
    { machine with bank := bank }

/-- One turn.  The result tells whether there is an instruction left for the next one. -/
def step (machine : Machine) (sink : σ) : Outcome Bool Machine σ :=
  match machine.code.program.get? machine.pc with
  | none => ⟨.ok false, machine, sink, []⟩
  | some instruction =>
      if instruction.isLabelled then
        ⟨.ok (!machine.advance.isFinished), machine.advance, sink,
          [.skipped machine.pc instruction]⟩
      else
        let outcome := machine.execute instruction sink
        match outcome.result with
        | .ok () =>
            ⟨.ok (!outcome.state.advance.isFinished), outcome.state.advance, outcome.sink,
              outcome.log⟩
        | .error fault => ⟨.error fault, outcome.state, outcome.sink, outcome.log⟩

/-- At most this many turns: fewer if the program ends or a turn fails.  The result tells
whether the machine would go on. -/
def turns : Nat → Machine → σ → Outcome Bool Machine σ
  | 0, machine, sink => ⟨.ok true, machine, sink, []⟩
  | count + 1, machine, sink =>
      let first := machine.step sink
      match first.result with
      | .ok true => (turns count first.state first.sink).after first.log
      | _ => first

def reset (machine : Machine) : Machine := ⟨machine.code, Bank.zero, 0⟩

/-- Runs the program from its start, with all registers zero, until it ends or fails. -/
def run (machine : Machine) (sink : σ) : Outcome Unit Machine σ :=
  (turns (max 1 machine.size) machine.reset sink).map fun _ => ()

/-! ## First facts -/

theorem isFinished_iff (machine : Machine) :
    machine.isFinished = true ↔ machine.size ≤ machine.pc := by
  simp [isFinished]

theorem isFinished_eq_false_iff (machine : Machine) :
    machine.isFinished = false ↔ machine.pc < machine.size := by
  simp [isFinished]

/-- A text is loaded whole or not at all. -/
theorem loadText_cases (machine : Machine) (text : String) :
    (∃ code, Code.ofText text = .ok code ∧ (machine.loadText text).1.result = .ok () ∧
        (machine.loadText text).2 = machine.load code) ∨
      ∃ located, Code.ofText text = .error located ∧
        (machine.loadText text).1.result = .error located ∧
        (machine.loadText text).2 = machine := by
  simp only [Code.ofText_eq_ok_iff, Code.ofText_eq_error_iff, loadText]
  cases result : (Code.empty.refill text).result with
  | ok done => exact Or.inl ⟨_, ⟨rfl, rfl⟩, result, rfl⟩
  | error located => exact Or.inr ⟨located, rfl, result, rfl⟩

theorem loadText_ok_iff (machine : Machine) (text : String) :
    (machine.loadText text).1.result = .ok () ↔ ∃ code, Code.ofText text = .ok code := by
  rcases machine.loadText_cases text with
    ⟨code, assembled, done, -⟩ | ⟨located, failed, undone, -⟩
  · simp [assembled, done]
  · simp [failed, undone]

theorem loadText_of_ofText (machine : Machine) (text : String) (code : Code)
    (assembled : Code.ofText text = .ok code) :
    (machine.loadText text).1.result = .ok () ∧
      (machine.loadText text).2 = machine.load code := by
  rcases machine.loadText_cases text with ⟨found, assembled', done, loaded⟩ | ⟨_, failed, -, -⟩
  · rw [assembled] at assembled'
    cases assembled'
    exact ⟨done, loaded⟩
  · rw [assembled] at failed
    contradiction

theorem ofText_of_loadText (machine : Machine) (text : String)
    (success : (machine.loadText text).1.result = .ok ()) :
    Code.ofText text = .ok (machine.loadText text).2.code := by
  rcases machine.loadText_cases text with ⟨code, assembled, -, loaded⟩ | ⟨_, -, undone, -⟩
  · rw [loaded]
    exact assembled
  · rw [undone] at success
    contradiction

theorem step_of_finished (machine : Machine) (sink : σ) (finished : machine.size ≤ machine.pc) :
    machine.step sink = ⟨.ok false, machine, sink, []⟩ := by
  have past : machine.code.program.get? machine.pc = none :=
    (Program.get?_eq_none_iff machine.code.program machine.pc).mpr finished
  simp [step, past]

theorem step_of_labelled (machine : Machine) (sink : σ) (instruction : Instruction)
    (fetched : machine.code.program.get? machine.pc = some instruction)
    (labelled : instruction.isLabelled = true) :
    machine.step sink =
      ⟨.ok (!machine.advance.isFinished), machine.advance, sink,
        [.skipped machine.pc instruction]⟩ := by
  simp [step, fetched, labelled]

theorem step_of_executed (machine : Machine) (sink : σ) (instruction : Instruction)
    (fetched : machine.code.program.get? machine.pc = some instruction)
    (unlabelled : instruction.isLabelled = false)
    (success : (machine.execute instruction sink).result = .ok ()) :
    machine.step sink =
      ⟨.ok (!(machine.execute instruction sink).state.advance.isFinished),
        (machine.execute instruction sink).state.advance,
        (machine.execute instruction sink).sink,
        (machine.execute instruction sink).log⟩ := by
  simp [step, fetched, unlabelled, success]

theorem step_of_failed (machine : Machine) (sink : σ) (instruction : Instruction) (fault : Fault)
    (fetched : machine.code.program.get? machine.pc = some instruction)
    (unlabelled : instruction.isLabelled = false)
    (failure : (machine.execute instruction sink).result = .error fault) :
    machine.step sink =
      ⟨.error fault, (machine.execute instruction sink).state,
        (machine.execute instruction sink).sink,
        (machine.execute instruction sink).log⟩ := by
  simp [step, fetched, unlabelled, failure]

/-- The four ways in which a turn can go. -/
inductive Turn (machine : Machine) (sink : σ) : Outcome Bool Machine σ → Prop
  | finished (past : machine.size ≤ machine.pc) :
      Turn machine sink ⟨.ok false, machine, sink, []⟩
  | skipped (instruction : Instruction)
      (fetched : machine.code.program.get? machine.pc = some instruction)
      (labelled : instruction.isLabelled = true) :
      Turn machine sink
        ⟨.ok (!machine.advance.isFinished), machine.advance, sink,
          [.skipped machine.pc instruction]⟩
  | executed (instruction : Instruction) (bank : Bank) (after : σ) (log : List Event)
      (fetched : machine.code.program.get? machine.pc = some instruction)
      (unlabelled : instruction.isLabelled = false)
      (success : machine.code.execute instruction machine.bank sink = ⟨.ok (), bank, after, log⟩) :
      Turn machine sink
        ⟨.ok (!machine.advance.isFinished), { machine.advance with bank := bank }, after, log⟩
  | failed (instruction : Instruction) (fault : Fault) (bank : Bank) (after : σ) (log : List Event)
      (fetched : machine.code.program.get? machine.pc = some instruction)
      (unlabelled : instruction.isLabelled = false)
      (failure : machine.code.execute instruction machine.bank sink =
        ⟨.error fault, bank, after, log⟩) :
      Turn machine sink ⟨.error fault, { machine with bank := bank }, after, log⟩

theorem turn_step (machine : Machine) (sink : σ) : Turn machine sink (machine.step sink) := by
  cases fetched : machine.code.program.get? machine.pc with
  | none =>
      have past := (Program.get?_eq_none_iff machine.code.program machine.pc).mp fetched
      rw [step_of_finished machine sink past]
      exact .finished past
  | some instruction =>
      cases labelled : instruction.isLabelled with
      | true =>
          rw [step_of_labelled machine sink instruction fetched labelled]
          exact .skipped instruction fetched labelled
      | false =>
          rcases ended : machine.code.execute instruction machine.bank sink with
            ⟨fault | done, bank, after, log⟩
          · have executed : machine.execute instruction sink =
                ⟨.error fault, { machine with bank := bank }, after, log⟩ :=
              congrArg (Outcome.mapState · _) ended
            rw [step_of_failed machine sink instruction fault fetched labelled (by rw [executed]),
              executed]
            exact .failed instruction fault bank after log fetched labelled ended
          · have executed : machine.execute instruction sink =
                ⟨.ok (), { machine with bank := bank }, after, log⟩ :=
              congrArg (Outcome.mapState · _) ended
            rw [step_of_executed machine sink instruction fetched labelled (by rw [executed]),
              executed]
            exact .executed instruction bank after log fetched labelled ended

theorem Turn.step_eq {machine : Machine} {sink : σ} {outcome : Outcome Bool Machine σ}
    (turn : Turn machine sink outcome) : machine.step sink = outcome := by
  cases turn with
  | finished past => exact step_of_finished machine sink past
  | skipped instruction fetched labelled =>
      exact step_of_labelled machine sink instruction fetched labelled
  | executed instruction bank after log fetched unlabelled success =>
      have executed : machine.execute instruction sink =
          ⟨.ok (), { machine with bank := bank }, after, log⟩ :=
        congrArg (Outcome.mapState · _) success
      rw [step_of_executed machine sink instruction fetched unlabelled (by rw [executed]),
        executed]
      rfl
  | failed instruction fault bank after log fetched unlabelled failure =>
      have executed : machine.execute instruction sink =
          ⟨.error fault, { machine with bank := bank }, after, log⟩ :=
        congrArg (Outcome.mapState · _) failure
      rw [step_of_failed machine sink instruction fault fetched unlabelled (by rw [executed]),
        executed]

/-- A turn inside the program that does not fail moves on by one, and says whether the program
goes on there. -/
theorem step_moves (machine : Machine) (sink : σ) (inside : machine.pc < machine.size)
    (going : Bool) (moved : (machine.step sink).result = .ok going) :
    (machine.step sink).state.code = machine.code ∧
      (machine.step sink).state.pc = machine.pc + 1 ∧
      going = !(machine.step sink).state.isFinished := by
  have turn := machine.turn_step sink
  generalize machine.step sink = outcome at turn moved ⊢
  cases turn with
  | finished past => exact absurd past (Nat.not_le.mpr inside)
  | skipped instruction fetched labelled => exact ⟨rfl, rfl, (Except.ok.inj moved).symm⟩
  | executed instruction bank after log fetched unlabelled success =>
      exact ⟨rfl, rfl, (Except.ok.inj moved).symm⟩
  | failed instruction fault bank after log fetched unlabelled failure => contradiction

theorem turns_succ_of_going (count : Nat) (machine : Machine) (sink : σ)
    (going : (machine.step sink).result = .ok true) :
    turns (count + 1) machine sink =
      (turns count (machine.step sink).state (machine.step sink).sink).after
        (machine.step sink).log := by
  simp [turns, going]

theorem turns_succ_of_step (count : Nat) (machine next : Machine) (sink sink' : σ)
    (log : List Event) (stepped : machine.step sink = ⟨.ok true, next, sink', log⟩) :
    turns (count + 1) machine sink = (turns count next sink').after log := by
  rw [turns_succ_of_going count machine sink (by rw [stepped]), stepped]

theorem turns_succ_of_stopped (count : Nat) (machine : Machine) (sink : σ)
    (stopped : (machine.step sink).result ≠ .ok true) :
    turns (count + 1) machine sink = machine.step sink := by
  simp only [turns]

theorem turns_add_of_going (count more : Nat) (machine : Machine) (sink : σ)
    (going : (turns count machine sink).result = .ok true) :
    turns (count + more) machine sink =
      (turns more (turns count machine sink).state (turns count machine sink).sink).after
        (turns count machine sink).log := by
  induction count generalizing machine sink with
  | zero => rw [Nat.zero_add, turns, Outcome.after_nil]
  | succ count ih =>
      rw [Nat.add_right_comm]
      by_cases first : (machine.step sink).result = .ok true
      · rw [turns_succ_of_going count machine sink first] at going ⊢
        rw [turns_succ_of_going (count + more) machine sink first, ih _ _ going,
          Outcome.after_after]
        rfl
      · rw [turns_succ_of_stopped count machine sink first] at going
        contradiction

theorem turns_add_of_stopped (count more : Nat) (machine : Machine) (sink : σ)
    (stopped : (turns count machine sink).result ≠ .ok true) :
    turns (count + more) machine sink = turns count machine sink := by
  induction count generalizing machine sink with
  | zero => exact absurd rfl stopped
  | succ count ih =>
      rw [Nat.add_right_comm]
      by_cases going : (machine.step sink).result = .ok true
      · rw [turns_succ_of_going count machine sink going] at stopped ⊢
        rw [turns_succ_of_going (count + more) machine sink going, ih _ _ stopped]
      · rw [turns_succ_of_stopped count machine sink going,
          turns_succ_of_stopped (count + more) machine sink going]

theorem turns_one (machine : Machine) (sink : σ) :
    (turns 1 machine sink).result = (machine.step sink).result ∧
      (turns 1 machine sink).state = (machine.step sink).state ∧
      (turns 1 machine sink).sink = (machine.step sink).sink := by
  by_cases going : (machine.step sink).result = .ok true
  · rw [turns_succ_of_going 0 machine sink going]
    exact ⟨going.symm, rfl, rfl⟩
  · rw [turns_succ_of_stopped 0 machine sink going]
    exact ⟨rfl, rfl, rfl⟩

/-- What every turn keeps, any number of turns keeps. -/
theorem turns_keep (holds : Machine → σ → Prop)
    (kept : ∀ machine sink, holds machine sink →
      holds (machine.step sink).state (machine.step sink).sink)
    (count : Nat) (machine : Machine) (sink : σ) (start : holds machine sink) :
    holds (turns count machine sink).state (turns count machine sink).sink := by
  induction count generalizing machine sink with
  | zero => exact start
  | succ count ih =>
      by_cases going : (machine.step sink).result = .ok true
      · rw [turns_succ_of_going count machine sink going]
        exact ih _ _ (kept machine sink start)
      · rw [turns_succ_of_stopped count machine sink going]
        exact kept machine sink start

theorem run_of_turns (machine last : Machine) (sink after : σ) (result : Except Fault Bool)
    (ended : (turns (max 1 machine.size) machine.reset sink).effect = ⟨result, last, after⟩) :
    (machine.run sink).result = result.map (fun _ => ()) ∧ (machine.run sink).state = last ∧
      (machine.run sink).sink = after := by
  obtain ⟨found, state, written⟩ := Effect.mk.inj ended
  exact ⟨congrArg (Except.map fun _ => ()) found, state, written⟩

theorem run_of_stopped_turns (machine : Machine) (sink : σ) (count : Nat)
    (few : count ≤ max 1 machine.size)
    (stopped : (turns count machine.reset sink).result ≠ .ok true) :
    machine.run sink = (turns count machine.reset sink).map fun _ => () := by
  obtain ⟨more, total⟩ := Nat.exists_eq_add_of_le few
  rw [run, total, turns_add_of_stopped count more machine.reset sink stopped]

/-- A run has one turn for each instruction.  The run of an empty program has one as well, which
does nothing. -/
theorem run_of_size_turns (machine : Machine) (sink : σ) :
    (machine.run sink).result =
        (turns machine.size machine.reset sink).result.map (fun _ => ()) ∧
      (machine.run sink).state = (turns machine.size machine.reset sink).state ∧
      (machine.run sink).sink = (turns machine.size machine.reset sink).sink := by
  rcases Nat.eq_zero_or_pos machine.size with empty | inhabited
  · have stay := machine.reset.step_of_finished sink (Nat.le_of_eq empty)
    obtain ⟨result, state, after⟩ := turns_one machine.reset sink
    rw [stay] at result state after
    have ended := congrArg (Except.map fun _ => ()) result
    rw [run, empty]
    exact ⟨ended, state, after⟩
  · rw [run, Nat.max_eq_right inhabited]
    exact ⟨rfl, rfl, rfl⟩

end Machine

end RegisterMachine
