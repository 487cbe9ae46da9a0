import Mathlib.Data.Set.Basic
import RegisterMachine.Proofs.CallChain
import RegisterMachine.Proofs.Sequence

/-!
# What a program means

Two machines run alike when their unlabelled instructions are the same, in the same order, and
the names that their jumps can come to call the same instructions.  Where labelled instructions
stand, how many there are, and what the names that no jump comes to are bound to, makes no
difference.
-/

set_option autoImplicit false

namespace RegisterMachine

variable {σ : Type} [Sink σ]

def Instruction.JumpsInto (instruction : Instruction) (names : Set String) : Prop :=
  ∀ source target, instruction.operation = .jnz source target → target ∈ names

namespace Code

/-- By each of these names both codes call the same instruction, label included, or both call
none; and the instructions that are called jump to these names only. -/
structure CallAlike (left right : Code) (names : Set String) : Prop where
  callees : ∀ name ∈ names, left.callee? name = right.callee? name
  closed : ∀ name ∈ names, ∀ callee, left.callee? name = some callee → callee.JumpsInto names

/-- The names that the jumps of a run can come to. -/
inductive Reaches (code : Code) : String → Prop
  | inSequence (instruction : Instruction) (address : Nat) (source : Register) (target : String)
      (member : (instruction, address) ∈ code.program.unlabelled)
      (jumps : instruction.operation = .jnz source target) : Reaches code target
  | inCallee (name : String) (callee : Instruction) (source : Register) (target : String)
      (reached : Reaches code name) (called : code.callee? name = some callee)
      (jumps : callee.operation = .jnz source target) : Reaches code target

theorem callAlike_of_reaches (left right : Code)
    (same : ∀ name, left.Reaches name → left.callee? name = right.callee? name) :
    left.CallAlike right {name | left.Reaches name} where
  callees := same
  closed := fun name reached callee called source target jumps =>
    .inCallee name callee source target reached called jumps

/-! ## Calls -/

theorem link?_alike {left right : Code} {names : Set String} (alike : left.CallAlike right names)
    (bank : Bank) (instruction : Instruction) (inside : instruction.JumpsInto names) :
    left.link? bank instruction = right.link? bank instruction := by
  obtain ⟨label, operation⟩ := instruction
  cases operation with
  | jnz source target => simp only [link?, alike.callees target (inside source target rfl)]
  | arithmetic kind result source => rfl
  | mov result value => rfl
  | out source => rfl

/-- A call looks only at what the names on its way call. -/
theorem call_alike {left right : Code} {names : Set String} (alike : left.CallAlike right names)
    (bank : Bank) (sink : σ) (callsLeft : Nat) (instruction : Instruction)
    (inside : instruction.JumpsInto names) :
    left.call bank sink callsLeft instruction = right.call bank sink callsLeft instruction := by
  apply call_eq_of_links left right bank sink fun _ onTheWay => onTheWay.JumpsInto names
  · intro _ onTheWay inside
    exact link?_alike alike bank onTheWay inside
  · intro _ onTheWay callee inside linked
    obtain ⟨label, source, target, rfl, -, resolved⟩ :=
      link?_eq_some left bank onTheWay callee linked
    exact alike.closed target (inside source target rfl) callee resolved
  · exact inside

/-! ## Runs -/

structure PassagesAgree (first second : Passage σ) : Prop where
  results : first.result = second.result
  banks : first.bank = second.bank
  sinks : first.sink = second.sink

theorem executeInOrder_alike {left right : Code} {names : Set String}
    (alike : left.CallAlike right names) (entries entries' : List (Instruction × Nat))
    (bank : Bank) (sink : σ) (same : entries.map Prod.fst = entries'.map Prod.fst)
    (inside : ∀ instruction ∈ entries.map Prod.fst, instruction.JumpsInto names) :
    PassagesAgree (left.executeInOrder entries bank sink)
      (right.executeInOrder entries' bank sink) := by
  induction entries generalizing entries' bank sink with
  | nil =>
      have empty : entries' = [] := List.map_eq_nil_iff.mp same.symm
      subst empty
      exact ⟨rfl, rfl, rfl⟩
  | cons entry rest ih =>
      obtain ⟨⟨instruction, address'⟩, rest', rfl, same, restSame⟩ :=
        List.map_eq_cons_iff.mp same.symm
      obtain ⟨_, address⟩ := entry
      cases same
      rw [List.map_cons, List.forall_mem_cons] at inside
      have executed : left.execute instruction bank sink = right.execute instruction bank sink :=
        call_alike alike bank sink maxCalls instruction inside.1
      cases result : (left.execute instruction bank sink).result with
      | ok done =>
          have result' := executed ▸ result
          rw [executeInOrder_of_success left instruction address rest bank sink result,
            executeInOrder_of_success right instruction address' rest' bank sink result',
            ← executed]
          exact ih rest' _ _ restSame.symm inside.2
      | error fault =>
          have result' := executed ▸ result
          rw [executeInOrder_of_failure left instruction address rest bank sink fault result,
            executeInOrder_of_failure right instruction address' rest' bank sink fault result',
            ← executed]
          exact ⟨rfl, rfl, rfl⟩

end Code

namespace Machine

/-- Two runs that cannot be told apart by their result, by what they print or by the registers
that they leave. -/
structure RunAlike (left right : Machine) (sink : σ) : Prop where
  results : (left.run sink).result = (right.run sink).result
  sinks : (left.run sink).sink = (right.run sink).sink
  banks : (left.run sink).state.bank = (right.run sink).state.bank

theorem runAlike_of_callAlike (left right : Machine) (sink : σ) (names : Set String)
    (sequences : left.code.program.unlabelled.map Prod.fst =
      right.code.program.unlabelled.map Prod.fst)
    (inside : ∀ instruction ∈ left.code.program.unlabelled.map Prod.fst,
      instruction.JumpsInto names)
    (alike : left.code.CallAlike right.code names) : RunAlike left right sink := by
  have agree := Code.executeInOrder_alike alike _ _ Bank.zero sink sequences inside
  constructor
  · rw [run_result, run_result]
    exact agree.results
  · rw [run_sink, run_sink]
    exact agree.sinks
  · rw [run_bank, run_bank]
    exact agree.banks

/-- A run depends on the unlabelled instructions in their order and on what the names call that
its jumps can come to, and on nothing else. -/
theorem run_depends_on_sequence_and_calls (left right : Machine) (sink : σ)
    (sequences : left.code.program.unlabelled.map Prod.fst =
      right.code.program.unlabelled.map Prod.fst) :
    (∀ names : Set String,
        (∀ instruction ∈ left.code.program.unlabelled.map Prod.fst,
          instruction.JumpsInto names) →
        left.code.CallAlike right.code names → RunAlike left right sink) ∧
      ((∀ name, left.code.Reaches name → left.code.callee? name = right.code.callee? name) →
        RunAlike left right sink) := by
  refine ⟨fun names inside alike =>
    runAlike_of_callAlike left right sink names sequences inside alike, fun same => ?_⟩
  apply runAlike_of_callAlike left right sink _ sequences _
    (Code.callAlike_of_reaches left.code right.code same)
  intro instruction member source target jumps
  obtain ⟨⟨found, address⟩, unlabelled, same⟩ := List.mem_map.mp member
  cases same
  exact .inSequence found address source target unlabelled jumps

def division : Machine where
  code :=
    { program := .ofList
        [⟨some "f", .arithmetic .div .eax .ebx⟩, ⟨none, .mov .eax 8⟩, ⟨none, .out .eax⟩,
          ⟨none, .jnz .eax "f"⟩]
      labels := ⟨[("f", 0)], by simp, by simp⟩ }
  bank := Bank.zero
  pc := 0

def divisionElsewhere : Machine where
  code :=
    { program := .ofList
        [⟨none, .mov .eax 8⟩, ⟨some "unused", .jnz .eax "nowhere"⟩, ⟨none, .out .eax⟩,
          ⟨none, .jnz .eax "f"⟩, ⟨some "f", .arithmetic .div .eax .ebx⟩]
      labels := ⟨[("unused", 1), ("f", 4)], by simp, by simp⟩ }
  bank := Bank.zero.set .ecx 7
  pc := 3

theorem run_division_elsewhere :
    division.code.program.unlabelled.map Prod.fst =
        divisionElsewhere.code.program.unlabelled.map Prod.fst ∧
      division.code.CallAlike divisionElsewhere.code {name | name = "f"} ∧
      RunAlike division divisionElsewhere Output.unlimited ∧
      (divisionElsewhere.run Output.unlimited).result =
        .error (.divisionByZero "f: div EAX EBX") ∧
      (divisionElsewhere.run Output.unlimited).sink.text = "EAX - 8\n" := by
  have sequences : division.code.program.unlabelled.map Prod.fst =
      divisionElsewhere.code.program.unlabelled.map Prod.fst := by decide +kernel
  have inside : ∀ instruction ∈ division.code.program.unlabelled.map Prod.fst,
      instruction.JumpsInto {name | name = "f"} := by
    have entries : division.code.program.unlabelled.map Prod.fst =
        [⟨none, .mov .eax 8⟩, ⟨none, .out .eax⟩, ⟨none, .jnz .eax "f"⟩] := by decide +kernel
    rw [entries]
    simp [Instruction.JumpsInto]
  have callee : division.code.callee? "f" = some ⟨some "f", .arithmetic .div .eax .ebx⟩ := by
    decide +kernel
  have alike : division.code.CallAlike divisionElsewhere.code {name | name = "f"} := by
    constructor
    · rintro name rfl
      decide +kernel
    · rintro name rfl found called
      rw [callee] at called
      cases called
      simp [Instruction.JumpsInto]
  have same := (run_depends_on_sequence_and_calls division divisionElsewhere Output.unlimited
    sequences).1 _ inside alike
  refine ⟨sequences, alike, same, ?_, ?_⟩
  · rw [← same.results]
    decide +kernel
  · rw [← same.sinks]
    decide +kernel

end Machine

end RegisterMachine
