import Mathlib.Data.Int.ModEq
import RegisterMachine.Proofs.Replay
import RegisterMachine.Proofs.StaticChecks

/-!
# Exact arithmetic

Where nothing divides or jumps, registers may as well hold integers of any size: reduced to 32 bits
with sign, the exact values are those that the machine has and prints.  Reducing them at the end is
the same as reducing them in every turn, because sums, differences and products of integers go over
into those of their residues.
-/

set_option autoImplicit false

namespace RegisterMachine

/-! ## Evaluation over the integers -/

/-- What registers hold and what has been printed so far when integers have no bounds. -/
structure Exact where
  registers : Register → Int
  printed : List (Register × Int)

namespace Exact

def zero : Exact := ⟨fun _ => 0, []⟩

def set (exact : Exact) (register : Register) (value : Int) : Exact :=
  ⟨fun other => if register = other then value else exact.registers other, exact.printed⟩

@[simp] theorem registers_set (exact : Exact) (written read : Register) (value : Int) :
    (exact.set written value).registers read =
      if written = read then value else exact.registers read := rfl

def perform (exact : Exact) : Operation → Exact
  | .arithmetic .add result source =>
      exact.set result (exact.registers result + exact.registers source)
  | .arithmetic .sub result source =>
      exact.set result (exact.registers result - exact.registers source)
  | .arithmetic .mul result source =>
      exact.set result (exact.registers result * exact.registers source)
  | .arithmetic .div _ _ => exact
  | .mov result value => exact.set result value.toInt
  | .out source => ⟨exact.registers, exact.printed ++ [(source, exact.registers source)]⟩
  | .jnz _ _ => exact

/-- Performs what instructions without a label do, one after another, from registers that are
zero. -/
def evaluate (instructions : List Instruction) : Exact :=
  instructions.foldl
    (fun exact instruction =>
      if instruction.isLabelled then exact else exact.perform instruction.operation)
    zero

end Exact

/-- Instructions without a label neither divide nor jump. -/
def Program.Plain (program : Program) : Prop :=
  ∀ instruction ∈ program.toList, instruction.isLabelled = false →
    instruction.divides = false ∧ instruction.operation.jumps = false

instance (program : Program) : Decidable program.Plain :=
  inferInstanceAs (Decidable (∀ instruction ∈ program.toList, instruction.isLabelled = false →
    instruction.divides = false ∧ instruction.operation.jumps = false))

/-- The value is the only integer of 32 bits with sign that is congruent to the exact one. -/
def Represents (value : Int32) (exact : Int) : Prop :=
  ∀ other : Int, -2 ^ 31 ≤ other ∧ other < 2 ^ 31 ∧ other ≡ exact [ZMOD 2 ^ 32] ↔
    other = value.toInt

def Sink.writeAll {σ : Type} [Sink σ] (sink : σ) (pieces : List String) : σ :=
  pieces.foldl (fun sink piece => (Sink.write sink piece).2) sink

def shownLine (entry : Register × Int32) : String :=
  entry.1.name ++ " - " ++ Literal.text entry.2 ++ "\n"

/-- The bank holds the representatives of what the registers would hold, and the lines that have
been printed into the sink show those of what would have been printed. -/
structure Exact.Wraps {σ : Type} [Sink σ] (exact : Exact) (sink : σ) (bank : Bank) (after : σ) :
    Prop where
  registers : ∀ register, Represents (bank.get register) (exact.registers register)
  printed : ∃ shown : List (Register × Int32),
    List.Forall₂ (fun entry line => line.1 = entry.1 ∧ Represents line.2 entry.2)
      exact.printed shown ∧
    after = Sink.writeAll sink (shown.map shownLine)

/-! ## Representatives -/

theorem represents_iff (value : Int32) (exact : Int) :
    Represents value exact ↔ value = Int32.ofInt exact := by
  have range := value.toInt_lt
  have range' := value.le_toInt
  constructor
  · intro represents
    obtain ⟨low, high, congruent⟩ := (represents value.toInt).mpr rfl
    rw [Int.ModEq] at congruent
    rw [eq_comm, Int32.ofInt_eq_iff_bmod_eq_toInt, Int.bmod_eq_iff (by decide)]
    omega
  · rintro rfl other
    have reduced : exact.bmod (2 ^ 32) = (Int32.ofInt exact).toInt := Int32.toInt_ofInt.symm
    rw [Int.bmod_eq_iff (by decide)] at reduced
    rw [Int.ModEq]
    omega

section Representatives

variable {left right : Int32} {x y : Int}

theorem represents_toInt (value : Int32) : Represents value value.toInt := by
  rw [represents_iff, Int32.ofInt_toInt]

theorem Represents.add (first : Represents left x) (second : Represents right y) :
    Represents (left + right) (x + y) := by
  rw [represents_iff] at first second ⊢
  rw [Int32.ofInt_add, first, second]

theorem Represents.sub (first : Represents left x) (second : Represents right y) :
    Represents (left - right) (x - y) := by
  rw [represents_iff] at first second ⊢
  rw [Int32.ofInt_sub, first, second]

theorem Represents.mul (first : Represents left x) (second : Represents right y) :
    Represents (left * right) (x * y) := by
  rw [represents_iff] at first second ⊢
  rw [Int32.ofInt_mul, first, second]

end Representatives

/-! ## One operation -/

section Performing

variable {σ : Type} [Sink σ] {exact : Exact} {sink after : σ} {bank : Bank}

theorem Sink.writeAll_concat (sink : σ) (pieces : List String) (piece : String) :
    writeAll sink (pieces ++ [piece]) = (Sink.write (writeAll sink pieces) piece).2 := by
  rw [writeAll, List.foldl_append]
  rfl

theorem Exact.wraps_zero (sink : σ) : Exact.zero.Wraps sink Bank.zero sink where
  registers register := by
    rw [Bank.get_zero]
    exact represents_toInt 0
  printed := ⟨[], .nil, rfl⟩

theorem Exact.Wraps.set (wraps : exact.Wraps sink bank after) (result : Register) (value : Int32)
    (x : Int) (represents : Represents value x) :
    (exact.set result x).Wraps sink (bank.set result value) after where
  registers register := by
    rw [Bank.get_set, Exact.registers_set]
    split
    · exact represents
    · exact wraps.registers register
  printed := wraps.printed

theorem Exact.Wraps.print (wraps : exact.Wraps sink bank after) (source : Register) :
    (exact.perform (.out source)).Wraps sink bank (Sink.write after (bank.line source)).2 where
  registers := wraps.registers
  printed := by
    obtain ⟨shown, represent, rfl⟩ := wraps.printed
    refine ⟨shown ++ [(source, bank.get source)], ?_, ?_⟩
    · exact List.rel_append represent (.cons ⟨rfl, wraps.registers source⟩ .nil)
    · rw [List.map_append, List.map_singleton, Sink.writeAll_concat]
      rfl

/-- An operation that neither divides nor jumps succeeds, and wraps what it does exactly. -/
theorem Exact.Wraps.perform (wraps : exact.Wraps sink bank after) (operation : Operation)
    (divides : Instruction.divides ⟨none, operation⟩ = false) (jumps : operation.jumps = false)
    (takes : σ → Prop) (endless : Sink.Endless takes) (held : takes after) :
    ∃ bank' after', operation.perform bank after = ⟨.ok (), bank', after'⟩ ∧ takes after' ∧
      (exact.perform operation).Wraps sink bank' after' := by
  cases operation with
  | arithmetic kind result source =>
      have first := wraps.registers result
      have second := wraps.registers source
      cases kind with
      | add => exact ⟨_, after, rfl, held, wraps.set result _ _ (first.add second)⟩
      | sub => exact ⟨_, after, rfl, held, wraps.set result _ _ (first.sub second)⟩
      | mul => exact ⟨_, after, rfl, held, wraps.set result _ _ (first.mul second)⟩
      | div => contradiction
  | mov result value =>
      exact ⟨_, after, rfl, held, wraps.set result value _ (represents_toInt value)⟩
  | out source =>
      obtain ⟨taken, still⟩ := endless after (bank.line source) held
      refine ⟨bank, _, ?_, still, wraps.print source⟩
      simp only [Operation.perform, Instruction.perform?]
      rcases answer : Sink.write after (bank.line source) with ⟨reason | done, printed⟩
      · rw [answer] at taken
        contradiction
      · rfl
  | jnz source target => contradiction

end Performing

/-! ## Turns and runs -/

theorem Exact.evaluate_take_succ (instructions : List Instruction) (count : Nat)
    (instruction : Instruction) (found : instructions[count]? = some instruction) :
    evaluate (instructions.take (count + 1)) =
      if instruction.isLabelled then evaluate (instructions.take count)
      else (evaluate (instructions.take count)).perform instruction.operation := by
  rw [List.take_add_one, found, evaluate, List.foldl_append]
  rfl

namespace Machine

variable {σ : Type} [Sink σ]

structure Keeps (start : Machine) (takes : σ → Prop) (sink : σ) (count : Nat) (machine : Machine)
    (after : σ) : Prop where
  code : machine.code = start.code
  pc : machine.pc = count
  held : takes after
  wraps : (Exact.evaluate (start.code.program.toList.take count)).Wraps sink machine.bank after

variable {start machine : Machine} {takes : σ → Prop} {sink after : σ} {count : Nat}

theorem Keeps.execute (keeps : start.Keeps takes sink count machine after)
    (plain : start.code.program.Plain) (endless : Sink.Endless takes) (instruction : Instruction)
    (found : start.code.program.toList[count]? = some instruction)
    (unlabelled : instruction.isLabelled = false) :
    ∃ bank printed log, machine.code.execute instruction machine.bank after =
        ⟨.ok (), bank, printed, log⟩ ∧ takes printed ∧
      (Exact.evaluate (start.code.program.toList.take (count + 1))).Wraps sink bank printed := by
  obtain ⟨divides, jumps⟩ := plain instruction (List.mem_of_getElem? found) unlabelled
  rw [Exact.evaluate_take_succ _ count instruction found, unlabelled]
  obtain ⟨label, operation⟩ := instruction
  obtain rfl : label = none := Option.not_isSome_iff_eq_none.mp (Bool.eq_false_iff.mp unlabelled)
  obtain ⟨bank, printed, performed, still, wraps⟩ :=
    keeps.wraps.perform operation divides jumps takes endless keeps.held
  have effect := machine.code.effect_execute_plain operation jumps machine.bank after
  rw [performed] at effect
  rcases executed : machine.code.execute ⟨none, operation⟩ machine.bank after with
    ⟨result, next, shown, log⟩
  rw [executed] at effect
  cases effect
  exact ⟨next, shown, log, rfl, still, wraps⟩

theorem Keeps.step (keeps : start.Keeps takes sink count machine after)
    (plain : start.code.program.Plain) (endless : Sink.Endless takes)
    (inside : count < start.size) :
    (machine.step after).result = .ok (decide (count + 1 < start.size)) ∧
      start.Keeps takes sink (count + 1) (machine.step after).state (machine.step after).sink := by
  have goesOn : (!machine.advance.isFinished) = decide (count + 1 < start.size) := by
    rw [isFinished, advance, size, keeps.code, keeps.pc, ← size, ← decide_not]
    exact decide_eq_decide.mpr Nat.not_le
  have moved : machine.advance.pc = count + 1 := congrArg (· + 1) keeps.pc
  obtain ⟨instruction, found⟩ : ∃ instruction,
      start.code.program.toList[count]? = some instruction := by
    rw [size, Program.size_eq_length] at inside
    exact ⟨_, List.getElem?_eq_getElem inside⟩
  have fetched : machine.code.program.get? machine.pc = some instruction := by
    rw [keeps.code, keeps.pc, Program.get?_eq_getElem?, found]
  cases labelled : instruction.isLabelled with
  | true =>
      rw [machine.step_of_labelled after instruction fetched labelled, goesOn]
      refine ⟨rfl, keeps.code, moved, keeps.held, ?_⟩
      rw [Exact.evaluate_take_succ _ count instruction found, labelled]
      exact keeps.wraps
  | false =>
      obtain ⟨bank, printed, log, executed, still, wraps⟩ :=
        keeps.execute plain endless instruction found labelled
      rw [(Turn.executed instruction bank printed log fetched labelled executed).step_eq, goesOn]
      exact ⟨rfl, keeps.code, moved, still, wraps⟩

theorem keeps_turns (plain : start.code.program.Plain) (endless : Sink.Endless takes)
    (held : takes sink) (within : count ≤ start.size) :
    (∃ going, (turns count start.reset sink).result = .ok going ∧
        (count < start.size → going = true)) ∧
      start.Keeps takes sink count (turns count start.reset sink).state
        (turns count start.reset sink).sink := by
  induction count with
  | zero => exact ⟨⟨true, rfl, fun _ => rfl⟩, rfl, rfl, held, Exact.wraps_zero sink⟩
  | succ count ih =>
      obtain ⟨⟨going, result, goes⟩, keeps⟩ := ih (Nat.le_of_succ_le within)
      rw [goes within] at result
      obtain ⟨moved, kept⟩ := keeps.step plain endless within
      obtain ⟨oneResult, oneState, oneSink⟩ :=
        turns_one (turns count start.reset sink).state (turns count start.reset sink).sink
      rw [← oneState, ← oneSink] at kept
      rw [← oneResult] at moved
      rw [turns_add_of_going count 1 start.reset sink result]
      exact ⟨⟨_, moved, decide_eq_true⟩, kept⟩

/-- A program in which instructions without a label neither divide nor jump runs to its end when
its sink takes everything.  After every turn, and at the end of the run, the registers and the
printed lines are those of exact arithmetic, reduced to 32 bits with sign. -/
theorem run_wraps_exact_arithmetic (machine : Machine) (plain : machine.code.program.Plain)
    (takes : σ → Prop) (endless : Sink.Endless takes) (sink : σ) (held : takes sink) :
    (machine.run sink).result = .ok () ∧
      (∀ count ≤ machine.size,
        (turns count machine.reset sink).state.pc = count ∧
          (Exact.evaluate (machine.code.program.toList.take count)).Wraps sink
            (turns count machine.reset sink).state.bank (turns count machine.reset sink).sink) ∧
      (Exact.evaluate machine.code.program.toList).Wraps sink
        (machine.run sink).state.bank (machine.run sink).sink := by
  obtain ⟨result, state, after⟩ := machine.run_of_size_turns sink
  obtain ⟨⟨going, ended, -⟩, keeps⟩ := keeps_turns plain endless held (Nat.le_refl machine.size)
  refine ⟨?_, ?_, ?_⟩
  · rw [result, ended]
    rfl
  · intro count within
    obtain ⟨-, reached⟩ := keeps_turns plain endless held within
    exact ⟨reached.pc, reached.wraps⟩
  · have whole : machine.code.program.toList.take machine.size = machine.code.program.toList := by
      rw [size, Program.size_eq_length, List.take_length]
    have wraps := keeps.wraps
    rw [whole] at wraps
    rw [state, after]
    exact wraps

def doubling : Machine where
  code :=
    { program := .ofList
        [⟨none, .mov .eax 2147483647⟩, ⟨none, .arithmetic .add .eax .eax⟩, ⟨none, .out .eax⟩,
          ⟨some "half", .arithmetic .div .eax .ebx⟩, ⟨none, .arithmetic .mul .eax .eax⟩,
          ⟨none, .out .eax⟩]
      labels := ⟨[("half", 3)], by simp, by simp⟩ }
  bank := Bank.zero
  pc := 0

theorem doubling_wraps :
    (doubling.run Output.unlimited).result = .ok () ∧
      (Exact.evaluate doubling.code.program.toList).Wraps Output.unlimited
        (doubling.run Output.unlimited).state.bank (doubling.run Output.unlimited).sink ∧
      (Exact.evaluate doubling.code.program.toList).printed =
        [(.eax, 4294967294), (.eax, 18446744056529682436)] ∧
      (doubling.run Output.unlimited).sink.text = "EAX - -2\nEAX - 4\n" := by
  obtain ⟨success, -, wraps⟩ := run_wraps_exact_arithmetic doubling (by decide +kernel) _
    Output.endless_of_no_limit Output.unlimited rfl
  exact ⟨success, wraps, by decide +kernel, by decide +kernel⟩

end Machine

end RegisterMachine
