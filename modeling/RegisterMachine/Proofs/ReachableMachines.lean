import Mathlib.Data.List.Basic
import RegisterMachine.Proofs.Atomicity
import RegisterMachine.Proofs.FirstFault

/-!
# Machines that can be reached

Whatever is done to a machine, its program counter stays inside its program or at its end.  If
all its code comes from texts, its labels are those of its program as well, and a jump misses
only names that no instruction carries.  Both follow from what a single act keeps.
-/

set_option autoImplicit false

namespace RegisterMachine

/-! ## Acts -/

/-- What can be done to a machine.  Each act that may print has a sink of its own. -/
inductive Command : Type 1
  | load (code : Code)
  | loadText (text : String)
  | setRegister (register : Register) (value : Int32)
  | clearRegisters
  | step {σ : Type} [Sink σ] (sink : σ)
  | run {σ : Type} [Sink σ] (sink : σ)
  | execute {σ : Type} [Sink σ] (instruction : Instruction) (sink : σ)
  | save
  | restore (place : Nat)

/-- A machine and the copies that were saved of it. -/
structure Bench where
  machine : Machine
  copies : List Machine

namespace Bench

def fresh (bank : Bank) : Bench := ⟨Machine.ofBank bank, []⟩

def machines (bench : Bench) : List Machine := bench.machine :: bench.copies

def obey (bench : Bench) : Command → Bench
  | .load code => { bench with machine := bench.machine.load code }
  | .loadText text => { bench with machine := (bench.machine.loadText text).2 }
  | .setRegister register value =>
      { bench with machine := bench.machine.setRegister register value }
  | .clearRegisters => { bench with machine := bench.machine.clearRegisters }
  | @Command.step _ _ sink => { bench with machine := (bench.machine.step sink).state }
  | @Command.run _ _ sink => { bench with machine := (bench.machine.run sink).state }
  | @Command.execute _ _ instruction sink =>
      { bench with machine := (bench.machine.execute instruction sink).state }
  | .save => { bench with copies := bench.machine :: bench.copies }
  | .restore place => { bench with machine := bench.copies[place]?.getD bench.machine }

def obeyAll (bench : Bench) (commands : List Command) : Bench :=
  commands.foldl obey bench

end Bench

/-! ## What every act keeps -/

namespace Machine

/-- The property does not depend on registers, and it is kept by loading a text, by going back to
the start and by a turn. -/
structure Kept (holds : Machine → Prop) : Prop where
  bank : ∀ machine bank, holds machine → holds { machine with bank := bank }
  text : ∀ machine text code, Code.ofText text = .ok code → holds machine →
    holds (machine.load code)
  reset : ∀ machine, holds machine → holds machine.reset
  step : ∀ {σ : Type} [Sink σ] (machine : Machine) (sink : σ), holds machine →
    holds (machine.step sink).state

theorem Kept.turns {holds : Machine → Prop} (kept : Kept holds) {σ : Type} [Sink σ] (count : Nat)
    (machine : Machine) (sink : σ) (start : holds machine) :
    holds (turns count machine sink).state :=
  turns_keep (fun next _ => holds next) (fun next after held => kept.step next after held) count
    machine sink start

theorem Kept.loadText {holds : Machine → Prop} (kept : Kept holds) (machine : Machine)
    (text : String) (start : holds machine) : holds (machine.loadText text).2 := by
  rcases machine.loadText_cases text with ⟨code, assembled, -, loaded⟩ | ⟨_, -, -, loaded⟩
  · rw [loaded]
    exact kept.text machine text code assembled start
  · rwa [loaded]

end Machine

open Machine

/-- What every act on a machine keeps holds of the machine and its copies after a command.  Code
that a command loads as it is has to keep it as well. -/
theorem Bench.obey_keeps {holds : Machine → Prop} (kept : Kept holds) (bench : Bench)
    (command : Command)
    (loads : ∀ code, command = .load code → ∀ machine, holds machine → holds (machine.load code))
    (start : ∀ machine ∈ bench.machines, holds machine) :
    ∀ machine ∈ (bench.obey command).machines, holds machine := by
  obtain ⟨here, saved⟩ := List.forall_mem_cons.mp start
  have change (next : Machine) (held : holds next) :
      ∀ machine ∈ ({ bench with machine := next } : Bench).machines, holds machine :=
    List.forall_mem_cons.mpr ⟨held, saved⟩
  cases command with
  | load code => exact change _ (loads code rfl bench.machine here)
  | loadText text => exact change _ (kept.loadText bench.machine text here)
  | setRegister register value => exact change _ (kept.bank bench.machine _ here)
  | clearRegisters => exact change _ (kept.bank bench.machine _ here)
  | step sink => exact change _ (kept.step bench.machine sink here)
  | run sink => exact change _ (kept.turns _ _ sink (kept.reset bench.machine here))
  | execute instruction sink => exact change _ (kept.bank bench.machine _ here)
  | save => exact List.forall_mem_cons.mpr ⟨here, start⟩
  | restore place =>
      apply change
      cases found : bench.copies[place]? with
      | none => exact here
      | some copy => exact saved copy (List.mem_of_getElem? found)

theorem Bench.obeyAll_keeps {holds : Machine → Prop} (kept : Kept holds) (commands : List Command)
    (loads : ∀ code, Command.load code ∈ commands →
      ∀ machine, holds machine → holds (machine.load code))
    (bench : Bench) (start : ∀ machine ∈ bench.machines, holds machine) :
    ∀ machine ∈ (bench.obeyAll commands).machines, holds machine := by
  induction commands generalizing bench with
  | nil => exact start
  | cons command rest ih =>
      apply ih fun code member => loads code (List.mem_cons_of_mem _ member)
      refine bench.obey_keeps kept command (fun code same => ?_) start
      exact loads code (by rw [same]; exact List.mem_cons_self)

/-! ## Program counters -/

namespace Machine

theorem step_code {σ : Type} [Sink σ] (machine : Machine) (sink : σ) :
    (machine.step sink).state.code = machine.code := by
  have turn := machine.turn_step sink
  generalize machine.step sink = outcome at turn ⊢
  cases turn with
  | finished => rfl
  | skipped => rfl
  | executed => rfl
  | failed => rfl

theorem step_pc_le {σ : Type} [Sink σ] (machine : Machine) (sink : σ)
    (placed : machine.pc ≤ machine.size) :
    (machine.step sink).state.pc ≤ machine.size := by
  have turn := machine.turn_step sink
  generalize machine.step sink = outcome at turn ⊢
  cases turn with
  | finished => exact placed
  | skipped instruction fetched => exact machine.code.program.lt_size_of_get? _ instruction fetched
  | executed instruction bank after log fetched =>
      exact machine.code.program.lt_size_of_get? _ instruction fetched
  | failed => exact placed

theorem kept_pc_le : Kept fun machine => machine.pc ≤ machine.size where
  bank := fun _ _ placed => placed
  text := fun _ _ _ _ _ => Nat.zero_le _
  reset := fun _ _ => Nat.zero_le _
  step := by
    intro σ _ machine sink placed
    rw [size, machine.step_code sink]
    exact machine.step_pc_le sink placed

/-- The program counter stands at an instruction or at the end, and turns move it one by one to
the end, where it stays. -/
structure InRange (machine : Machine) : Prop where
  pc_le : machine.pc ≤ machine.size
  finished_iff : machine.isFinished = true ↔ machine.pc = machine.size
  moves : ∀ {σ : Type} [Sink σ] (sink : σ) (going : Bool), machine.pc < machine.size →
    (machine.step sink).result = .ok going →
      (machine.step sink).state.pc = machine.pc + 1 ∧
        (going = true ↔ (machine.step sink).state.pc < machine.size)
  stays : ∀ {σ : Type} [Sink σ] (sink : σ), machine.pc = machine.size →
    machine.step sink = ⟨.ok false, machine, sink, []⟩
  no_overflow : ∀ width, (BitVec.ofNat width machine.size).toNat = machine.size →
    machine.pc < machine.size → (BitVec.ofNat width machine.pc + 1).toNat = machine.pc + 1

theorem inRange_of_pc_le (machine : Machine) (placed : machine.pc ≤ machine.size) :
    machine.InRange where
  pc_le := placed
  finished_iff := by
    rw [isFinished_iff]
    omega
  moves := by
    intro σ _ sink going inside moved
    obtain ⟨code, pc, rfl⟩ := machine.step_moves sink inside going moved
    refine ⟨pc, ?_⟩
    rw [Bool.not_eq_true', isFinished_eq_false_iff, size, code]
    rfl
  stays := fun sink atEnd => machine.step_of_finished sink (Nat.le_of_eq atEnd.symm)
  no_overflow := by
    intro width fits inside
    have small := Nat.lt_of_le_of_lt inside (fits ▸ (BitVec.ofNat width machine.size).isLt)
    rw [show (1 : BitVec width) = BitVec.ofNat width 1 from rfl, ← BitVec.ofNat_add,
      BitVec.toNat_ofNat, Nat.mod_eq_of_lt small]

/-! ## Names -/

/-- The labels of the program and the table of names say the same, and a name is reported as
undefined only if no instruction carries it. -/
structure NamesAgree (machine : Machine) : Prop where
  agree : ∀ name address, machine.code.labels.address name = .ok address ↔
    machine.code.program.Carries address name
  none_past : ∀ name address, machine.code.labels.address name = .ok address →
    machine.code.program.get? address ≠ none
  looked_up : ∀ name fault, machine.code.labels.address name = .error fault →
    fault = .undefinedLabel name ∧ ∀ address, ¬ machine.code.program.Carries address name
  executed : ∀ {σ : Type} [Sink σ] (instruction : Instruction) (sink : σ) name,
    (machine.execute instruction sink).result = .error (.undefinedLabel name) →
      ∀ address, ¬ machine.code.program.Carries address name
  stepped : ∀ {σ : Type} [Sink σ] (sink : σ) name,
    (machine.step sink).result = .error (.undefinedLabel name) →
      ∀ address, ¬ machine.code.program.Carries address name
  run : ∀ {σ : Type} [Sink σ] (sink : σ) name,
    (machine.run sink).result = .error (.undefinedLabel name) →
      ∀ address, ¬ machine.code.program.Carries address name

theorem execute_of_step_error {σ : Type} [Sink σ] (machine : Machine) (sink : σ) (fault : Fault)
    (failed : (machine.step sink).result = .error fault) :
    ∃ instruction, machine.code.program.get? machine.pc = some instruction ∧
      (machine.execute instruction sink).result = .error fault := by
  have turn := machine.turn_step sink
  generalize machine.step sink = outcome at turn failed
  cases turn with
  | finished => contradiction
  | skipped => contradiction
  | executed => contradiction
  | failed instruction found bank after log fetched unlabelled failure =>
      cases failed
      exact ⟨instruction, fetched, congrArg Outcome.result failure⟩

theorem not_carries_of_unresolved {code : Code} (coherent : code.Coherent) (name : String)
    (unresolved : code.Unresolved name) (address : Nat) : ¬ code.program.Carries address name := by
  intro carries
  have bound := (coherent.address?_iff name address).mpr carries
  have inside := Program.carries_lt_size code.program address name carries
  exact absurd (unresolved address bound) (Nat.not_le.mpr inside)

theorem not_carries_of_execute {σ : Type} [Sink σ] (machine : Machine)
    (coherent : machine.code.Coherent) (instruction : Instruction) (sink : σ) (name : String)
    (failed : (machine.execute instruction sink).result = .error (.undefinedLabel name)) :
    ∀ address, ¬ machine.code.program.Carries address name :=
  not_carries_of_unresolved coherent name
    (machine.code.unresolved_of_execute machine.bank sink instruction name failed)

theorem not_carries_of_step {σ : Type} [Sink σ] (machine : Machine)
    (coherent : machine.code.Coherent) (sink : σ) (name : String)
    (failed : (machine.step sink).result = .error (.undefinedLabel name)) :
    ∀ address, ¬ machine.code.program.Carries address name := by
  obtain ⟨instruction, -, failure⟩ := machine.execute_of_step_error sink _ failed
  exact not_carries_of_execute machine coherent instruction sink name failure

theorem step_of_run_error {σ : Type} [Sink σ] (holds : Machine → σ → Prop)
    (kept : ∀ machine sink, holds machine sink →
      holds (machine.step sink).state (machine.step sink).sink)
    (machine : Machine) (sink : σ) (fault : Fault) (start : holds machine.reset sink)
    (failed : (machine.run sink).result = .error fault) :
    ∃ before printed, holds before printed ∧ (before.step printed).result = .error fault := by
  have ended := machine.turns_error_of_run sink fault failed
  obtain ⟨earlier, before, printed, -, made, stepped⟩ := turns_error _ _ sink fault ended
  refine ⟨before, printed, ?_, (congrArg Effect.result stepped).trans ended⟩
  have reached := turns_keep holds kept earlier machine.reset sink start
  obtain ⟨-, rfl, rfl⟩ := Effect.mk.inj made
  exact reached

theorem namesAgree_of_coherent (machine : Machine) (coherent : machine.code.Coherent) :
    machine.NamesAgree where
  agree := coherent.address_iff
  none_past := by
    intro name address bound past
    have inside := Program.carries_lt_size _ _ _ ((coherent.address_iff name address).mp bound)
    exact absurd ((Program.get?_eq_none_iff _ address).mp past) (Nat.not_le.mpr inside)
  looked_up := by
    intro name fault missing
    constructor
    · unfold Labels.address at missing
      split at missing
      · contradiction
      · exact (Except.error.inj missing).symm
    · intro address carries
      rw [(coherent.address_iff name address).mpr carries] at missing
      contradiction
  executed := fun instruction sink name =>
    not_carries_of_execute machine coherent instruction sink name
  stepped := fun sink name => not_carries_of_step machine coherent sink name
  run := by
    intro σ _ sink name failed
    obtain ⟨before, printed, same, failure⟩ :=
      step_of_run_error (fun next _ => next.code = machine.code)
        (fun next after same => (next.step_code after).trans same) machine sink _ rfl failed
    rw [← same] at coherent ⊢
    exact not_carries_of_step before coherent printed name failure

/-! ## All machines that can be reached -/

theorem kept_of_ofText (holds : Code → Prop)
    (assembled : ∀ text code, Code.ofText text = .ok code → holds code) :
    Kept fun machine => holds machine.code where
  bank := fun _ _ held => held
  text := fun _ text code success _ => assembled text code success
  reset := fun _ held => held
  step := by
    intro σ _ machine sink held
    rwa [machine.step_code sink]

theorem kept_coherent : Kept fun machine => machine.code.Coherent :=
  kept_of_ofText Code.Coherent fun text code success =>
    (Code.holds_of_ofText text code success).coherent

end Machine

/-- Whatever acts a machine and its copies have gone through, their program counters are in
range, at every turn of a run as well; and if their code comes from texts, their names agree. -/
theorem Bench.machines_stay_sound (bank : Bank) (commands : List Command) (machine : Machine)
    (reached : machine ∈ ((Bench.fresh bank).obeyAll commands).machines) :
    machine.InRange ∧
      (∀ {σ : Type} [Sink σ] (count : Nat) (sink : σ),
        (turns count machine.reset sink).state.InRange) ∧
      ((∀ code, Command.load code ∉ commands) → machine.NamesAgree) := by
  have start (holds : Machine → Prop) (empty : holds (Machine.ofBank bank)) :
      ∀ machine ∈ (Bench.fresh bank).machines, holds machine := by
    intro machine member
    rwa [List.mem_singleton.mp member]
  have placed : machine.pc ≤ machine.size :=
    Bench.obeyAll_keeps kept_pc_le commands (fun _ _ _ _ => Nat.zero_le _) (Bench.fresh bank)
      (start (fun machine => machine.pc ≤ machine.size) (Nat.zero_le _)) machine reached
  refine ⟨machine.inRange_of_pc_le placed, ?_, ?_⟩
  · intro σ _ count sink
    exact inRange_of_pc_le _ (kept_pc_le.turns count machine.reset sink (Nat.zero_le _))
  · intro noLoad
    apply machine.namesAgree_of_coherent
    exact Bench.obeyAll_keeps kept_coherent commands
      (fun code member => absurd member (noLoad code)) (Bench.fresh bank)
      (start (fun machine => machine.code.Coherent) Code.coherent_empty) machine reached

def reloads : List Command :=
  [.loadText "f: jnz EBX g\nmov EBX 1\njnz EBX f", .save, .run (Output.limited 4 .idle),
    .loadText "f: out EAX\nf: out EBX", .step Output.unlimited, .setRegister .ecx 7,
    .loadText "out ECX", .run Output.unlimited, .loadText "halt", .restore 0,
    .execute ⟨some "h", .mov .eax 3⟩ Output.unlimited, .step Output.unlimited]

theorem machines_stay_sound_through_reloads :
    ((Bench.fresh (Bank.zero.set .edi 5)).obeyAll reloads).machine.pc = 1 ∧
      ((Bench.fresh (Bank.zero.set .edi 5)).obeyAll reloads).machine.InRange ∧
      (((Bench.fresh (Bank.zero.set .edi 5)).obeyAll reloads).machine.run
        Output.unlimited).result = .error (.undefinedLabel "g") ∧
      ∀ address, ¬ ((Bench.fresh (Bank.zero.set .edi 5)).obeyAll
        reloads).machine.code.program.Carries address "g" := by
  obtain ⟨inRange, -, names⟩ := Bench.machines_stay_sound (Bank.zero.set .edi 5) reloads
    ((Bench.fresh (Bank.zero.set .edi 5)).obeyAll reloads).machine List.mem_cons_self
  have failure : (((Bench.fresh (Bank.zero.set .edi 5)).obeyAll reloads).machine.run
      Output.unlimited).result = .error (.undefinedLabel "g") := by decide +kernel
  have texts : ∀ code, Command.load code ∉ reloads := by
    intro code member
    simp [reloads] at member
  exact ⟨by decide +kernel, inRange, failure, (names texts).run _ _ failure⟩

end RegisterMachine
