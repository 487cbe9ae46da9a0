import Mathlib.Data.Set.Function
import Mathlib.Logic.Equiv.Basic
import RegisterMachine.Proofs.LimitedSinks
import RegisterMachine.Proofs.Lockstep
import RegisterMachine.Proofs.Relevance
import RegisterMachine.Proofs.StaticChecks

/-!
# New names

Registers can be exchanged for one another, and labels can be given other names.  The machine then
does what it did, and says it with the new names: which registers and labels are used does not
matter, only where the same ones are used.
-/

set_option autoImplicit false

namespace RegisterMachine

/-- Registers in place of registers, and names in place of names. -/
structure Renaming where
  register : Equiv.Perm Register
  name : String → String

def Code.Mentions (code : Code) (name : String) : Prop :=
  name ∈ code.labels.names ∨ ∃ instruction ∈ code.program.toList, instruction.target? = some name

namespace Renaming

/-! ## Renamed code -/

def operation (naming : Renaming) : Operation → Operation
  | .arithmetic kind result source =>
      .arithmetic kind (naming.register result) (naming.register source)
  | .mov result value => .mov (naming.register result) value
  | .out source => .out (naming.register source)
  | .jnz source target => .jnz (naming.register source) (naming.name target)

def instruction (naming : Renaming) (old : Instruction) : Instruction :=
  ⟨old.label.map naming.name, naming.operation old.operation⟩

def program (naming : Renaming) (old : Program) : Program :=
  .ofList (old.toList.map naming.instruction)

/-- The new names of a code can be bound, and do not fall together. -/
structure Fits (naming : Renaming) (old : Code) : Prop where
  nonempty : ∀ name ∈ old.labels.names, naming.name name ≠ ""
  injective : Set.InjOn naming.name {name | old.Mentions name}

theorem Fits.injOn_names {naming : Renaming} {old : Code} (fits : naming.Fits old) :
    Set.InjOn naming.name {name | name ∈ old.labels.names} :=
  fits.injective.mono fun _ bound => Or.inl bound

def labels (naming : Renaming) (old : Labels)
    (nonempty : ∀ name ∈ old.names, naming.name name ≠ "")
    (injective : Set.InjOn naming.name {name | name ∈ old.names}) : Labels where
  bindings := old.bindings.map (Prod.map naming.name id)
  nonempty_names := by
    rintro binding member
    obtain ⟨⟨name, address⟩, bound, rfl⟩ := List.mem_map.mp member
    exact nonempty name (List.mem_map_of_mem bound)
  distinct_names := by
    have names : (old.bindings.map (Prod.map naming.name id)).map Prod.fst =
        old.names.map naming.name := by
      rw [Labels.names, List.map_map, List.map_map]
      rfl
    rw [names]
    exact List.Nodup.map_on
      (fun first bound second bound' same => injective bound bound' same) old.distinct_names

def code (naming : Renaming) (old : Code) (fits : naming.Fits old) : Code where
  program := naming.program old.program
  labels := naming.labels old.labels fits.nonempty fits.injOn_names

/-! ## What is the same up to new names -/

def Banks (naming : Renaming) (left right : Bank) : Prop :=
  ∀ register, right.get (naming.register register) = left.get register

def printed (entries : List (Register × Int32)) : String :=
  entries.foldl
    (fun text entry => text ++ (entry.1.name ++ " - " ++ Literal.text entry.2 ++ "\n")) ""

/-- Sinks without limit that were given lines with the same values, from the registers and from
their new registers. -/
def Sinks (naming : Renaming) (left right : Output) : Prop :=
  ∃ entries : List (Register × Int32), left = .boundless (printed entries) ∧
    right = .boundless (printed (entries.map (Prod.map naming.register id)))

inductive Faults (naming : Renaming) : Instruction → Fault → Instruction → Fault → Prop
  | undefinedLabel (old : Instruction) (target : String) :
      Faults naming old (.undefinedLabel target) (naming.instruction old)
        (.undefinedLabel (naming.name target))
  | divisionByZero (old : Instruction) :
      Faults naming old (.divisionByZero old.text) (naming.instruction old)
        (.divisionByZero (naming.instruction old).text)
  | jumpTooDeep (old : Instruction) (limit : Nat) :
      Faults naming old (.jumpTooDeep limit old.text) (naming.instruction old)
        (.jumpTooDeep limit (naming.instruction old).text)

/-- Machines are compared by what they do with the old names and with the new ones. -/
def comparison (naming : Renaming) : Comparison Output Output where
  banks := naming.Banks
  sinks := naming.Sinks
  faults := naming.Faults

variable {naming : Renaming}

theorem Banks.set {left right : Bank} (banks : naming.Banks left right) (register : Register)
    (value : Int32) :
    naming.Banks (left.set register value) (right.set (naming.register register) value) := by
  intro read
  rw [Bank.get_set, Bank.get_set, banks read]
  simp only [EmbeddingLike.apply_eq_iff_eq]

theorem banks_zero (naming : Renaming) : naming.Banks Bank.zero Bank.zero := by
  intro register
  rw [Bank.get_zero, Bank.get_zero]

theorem sinks_unlimited (naming : Renaming) :
    naming.Sinks Output.unlimited Output.unlimited :=
  ⟨[], rfl, rfl⟩

theorem Sinks.write {left right : Output} (sinks : naming.Sinks left right) {bank bank' : Bank}
    (banks : naming.Banks bank bank') (source : Register) :
    ∃ after after', Sink.write left (bank.line source) = (.ok (), after) ∧
      Sink.write right (bank'.line (naming.register source)) = (.ok (), after') ∧
      naming.Sinks after after' := by
  obtain ⟨entries, rfl, rfl⟩ := sinks
  refine ⟨_, _, Output.write_boundless _ _, Output.write_boundless _ _,
    entries ++ [(source, bank.get source)], ?_, ?_⟩
  · rw [printed, printed, List.foldl_append]
    rfl
  · rw [printed, printed, List.map_append, List.foldl_append, Bank.line, banks source]
    rfl

/-! ## The new code keeps in step with the old -/

theorem isLabelled_instruction (naming : Renaming) (old : Instruction) :
    (naming.instruction old).isLabelled = old.isLabelled :=
  Option.isSome_map

theorem performs (old : Instruction) {bank bank' : Bank} (banks : naming.Banks bank bank')
    {sink sink' : Output} (sinks : naming.Sinks sink sink') (effect : Effect Unit Bank Output)
    (performed : old.perform? bank sink = some effect) :
    ∃ effect', (naming.instruction old).perform? bank' sink' = some effect' ∧
      naming.comparison.Outcomes naming.Banks (old.outcome effect)
        ((naming.instruction old).outcome effect') := by
  obtain ⟨label, operation⟩ := old
  cases operation with
  | arithmetic kind result source =>
      simp only [Instruction.perform?, instruction, Renaming.operation, banks result,
        banks source] at performed ⊢
      cases combined : kind.apply (bank.get result) (bank.get source) with
      | none =>
          rw [combined] at performed
          cases performed
          exact ⟨_, rfl, .error _ _ _ _ rfl rfl rfl rfl (.divisionByZero _), banks, sinks⟩
      | some value =>
          rw [combined] at performed
          cases performed
          exact ⟨_, rfl, .ok () rfl rfl, banks.set result value, sinks⟩
  | mov result value =>
      cases performed
      exact ⟨_, rfl, .ok () rfl rfl, banks.set result value, sinks⟩
  | out source =>
      obtain ⟨after, after', written, written', sinks'⟩ := sinks.write banks source
      simp only [Instruction.perform?, instruction, Renaming.operation, written,
        written'] at performed ⊢
      cases performed
      exact ⟨_, rfl, .ok () rfl rfl, banks, sinks'⟩
  | jnz source target => contradiction

/-- A new name is bound as the old one was, if no other name in the table became the same. -/
theorem address?_labels (old : Labels) (nonempty : ∀ name ∈ old.names, naming.name name ≠ "")
    (injective : Set.InjOn naming.name {name | name ∈ old.names}) (asked : String)
    (alone : ∀ name ∈ old.names, naming.name name = naming.name asked → name = asked) :
    (naming.labels old nonempty injective).address? (naming.name asked) =
      old.address? asked := by
  apply Option.ext
  intro address
  rw [Labels.address?_eq_some_iff, Labels.address?_eq_some_iff]
  constructor
  · intro bound
    obtain ⟨⟨name, found⟩, member, same⟩ := List.mem_map.mp bound
    obtain ⟨names, rfl⟩ := Prod.mk.inj same
    rwa [← alone name (List.mem_map_of_mem member) names]
  · exact fun bound => List.mem_map.mpr ⟨(asked, address), bound, rfl⟩

theorem get?_program (naming : Renaming) (old : Program) (address : Nat) :
    (naming.program old).get? address = (old.get? address).map naming.instruction := by
  rw [Program.get?_eq_getElem?, Program.get?_eq_getElem?, program, Program.toList_ofList,
    List.getElem?_map]

theorem callee?_code (old : Code) (fits : naming.Fits old) (target : String)
    (mentioned : old.Mentions target) :
    (naming.code old fits).callee? (naming.name target) =
      (old.callee? target).map naming.instruction := by
  have address : (naming.code old fits).labels.address? (naming.name target) =
      old.labels.address? target :=
    address?_labels old.labels fits.nonempty fits.injOn_names target fun name bound same =>
      fits.injective (Or.inl bound) mentioned same
  unfold Code.callee?
  rw [address]
  cases old.labels.address? target with
  | none => rfl
  | some found => exact get?_program naming old.program found

theorem lockstep (old : Code) (fits : naming.Fits old) :
    naming.comparison.Lockstep
      (fun first second => second = naming.instruction first ∧ first ∈ old.program.toList)
      old (naming.code old fits) where
  programs := by
    change List.Forall₂ _ old.program.toList (old.program.toList.map naming.instruction)
    rw [List.forall₂_map_right_iff, List.forall₂_same]
    exact fun instruction member => ⟨rfl, member⟩
  labelled := by
    rintro first second ⟨rfl, -⟩
    exact (isLabelled_instruction naming first).symm
  performs := by
    rintro first second ⟨rfl, -⟩ bank bank' banks sink sink' sinks effect performed
    exact performs first banks sinks effect performed
  jumps := by
    rintro label source target second ⟨rfl, member⟩
    have callees := callee?_code old fits target (Or.inr ⟨_, member, rfl⟩)
    refine ⟨label.map naming.name, naming.register source, naming.name target, rfl, ?_, ?_, ?_,
      .undefinedLabel _ target, .jumpTooDeep _ maxCalls⟩
    · intro bank bank' banks
      rw [banks source]
    · intro missing
      rw [callees, missing, Option.map_none]
    · intro callee called
      rw [callees, called, Option.map_some]
      exact ⟨_, rfl, rfl, old.mem_of_callee? target callee called⟩

end Renaming

/-- A machine with new names does what the machine with the old names does.  Its runs, and its
turns from registers that hold the same under the new names, have the same results up to the names
in faults; they leave the same program counter, the same values in the new registers, and the same
lines under the new names. -/
theorem Machine.names_carry_no_meaning (naming : Renaming) (old : Code)
    (fits : naming.Fits old) (left right : Machine) (code : left.code = old)
    (code' : right.code = naming.code old fits) :
    naming.comparison.Outcomes (naming.comparison.Machines old (naming.code old fits))
        (left.run Output.unlimited) (right.run Output.unlimited) ∧
      (left.pc = right.pc → naming.Banks left.bank right.bank →
        ∀ {sink sink' : Output}, naming.Sinks sink sink' → ∀ count,
          List.Forall₂ (naming.comparison.Outcomes
              (naming.comparison.Machines old (naming.code old fits)))
            (left.steps count sink) (right.steps count sink')) := by
  have lockstep := Renaming.lockstep old fits
  constructor
  · exact lockstep.run naming.banks_zero left right code code' naming.sinks_unlimited
  · intro pc banks sink sink' sinks count
    exact lockstep.steps count ⟨code, code', pc, banks⟩ sinks

namespace Renaming

def exchange : Renaming := ⟨Equiv.swap .eax .edi, Equiv.swap "show" "halve"⟩

def showAndHalve : Code where
  program := .ofList
    [⟨some "show", .out .eax⟩, ⟨some "halve", .arithmetic .div .eax .ebx⟩, ⟨none, .mov .eax 8⟩,
      ⟨none, .jnz .eax "show"⟩, ⟨none, .jnz .eax "halve"⟩]
  labels := ⟨[("halve", 1), ("show", 0)], by simp, by simp⟩

theorem exchange_fits : exchange.Fits showAndHalve :=
  ⟨by decide +kernel, (Equiv.injective _).injOn⟩

def halveAndShow : Machine := ⟨exchange.code showAndHalve exchange_fits, .ofList [(.edi, 5)], 0⟩

theorem halveAndShow_does_as_showAndHalve :
    exchange.comparison.Outcomes (exchange.comparison.Machines showAndHalve halveAndShow.code)
        (Machine.run ⟨showAndHalve, .ofList [(.eax, 5)], 0⟩ Output.unlimited)
        (halveAndShow.run Output.unlimited) ∧
      List.Forall₂ (exchange.comparison.Outcomes
          (exchange.comparison.Machines showAndHalve halveAndShow.code))
        (Machine.steps 5 ⟨showAndHalve, .ofList [(.eax, 5)], 0⟩ Output.unlimited)
        (halveAndShow.steps 5 Output.unlimited) ∧
      (halveAndShow.run Output.unlimited).result =
        .error (.divisionByZero "show: div EDI EBX") ∧
      (halveAndShow.run Output.unlimited).sink.text = "EDI - 8\n" := by
  have banks : exchange.Banks (.ofList [(.eax, 5)]) (.ofList [(.edi, 5)]) := by
    intro register
    cases register <;> decide +kernel
  obtain ⟨runs, turns⟩ := Machine.names_carry_no_meaning exchange showAndHalve exchange_fits
    ⟨showAndHalve, .ofList [(.eax, 5)], 0⟩ halveAndShow rfl rfl
  exact ⟨runs, turns rfl banks exchange.sinks_unlimited 5, by decide +kernel, by decide +kernel⟩

end Renaming

end RegisterMachine
