import Mathlib.Data.List.Perm.Subperm
import Mathlib.Logic.Relation
import RegisterMachine.Proofs.EndlessChains
import RegisterMachine.Proofs.Printing
import RegisterMachine.Proofs.ReachableMachines
import RegisterMachine.Proofs.Sequence

/-!
# Programs that cannot fail

Some faults can be ruled out by looking at a program, whatever the registers will hold: a jump
finds its name if all names are labels, calls do not nest too deep if the labels do not call one
another in a circle and are few, and nothing is divided by zero where nothing is divided.  A
program that passes all three checks runs to its end.
-/

set_option autoImplicit false

namespace RegisterMachine

/-! ## Checks -/

namespace Instruction

def target? (instruction : Instruction) : Option String :=
  match instruction.operation with
  | .jnz _ target => some target
  | _ => none

def divides (instruction : Instruction) : Bool :=
  match instruction.operation with
  | .arithmetic .div _ _ => true
  | _ => false

end Instruction

namespace Program

/-- Every name that is jumped to is a label. -/
def Closed (program : Program) : Prop :=
  ∀ instruction ∈ program.toList, ∀ target ∈ instruction.target?,
    ∃ labelled ∈ program.toList, labelled.label = some target

/-- The instruction with the first label is a jump to the second. -/
def Leads (program : Program) (label target : String) : Prop :=
  ∃ instruction ∈ program.toList, instruction.label = some label ∧
    instruction.target? = some target

/-- No label leads to itself, directly or through others. -/
def Acyclic (program : Program) : Prop :=
  ∀ label, ¬ Relation.TransGen program.Leads label label

def FewLabels (program : Program) : Prop :=
  (program.toList.filter Instruction.isLabelled).length ≤ 1024

def DivisionFree (program : Program) : Prop :=
  ∀ instruction ∈ program.toList, instruction.divides = false

instance (program : Program) : Decidable program.Closed :=
  inferInstanceAs (Decidable (∀ instruction ∈ program.toList, ∀ target ∈ instruction.target?,
    ∃ labelled ∈ program.toList, labelled.label = some target))

instance (program : Program) : Decidable program.FewLabels :=
  inferInstanceAs (Decidable (_ ≤ _))

instance (program : Program) : Decidable program.DivisionFree :=
  inferInstanceAs (Decidable (∀ instruction ∈ program.toList, instruction.divides = false))

/-- Labels of which each leads to greater ones only do not lead back to themselves. -/
theorem acyclic_of_rank (program : Program) (rank : String → Nat)
    (ascends : ∀ instruction ∈ program.toList, ∀ label ∈ instruction.label,
      ∀ target ∈ instruction.target?, rank label < rank target) : program.Acyclic := by
  have climbs : ∀ label target, program.Leads label target → rank label < rank target := by
    intro label target leads
    obtain ⟨instruction, member, labelled, jumps⟩ := leads
    exact ascends instruction member label labelled target jumps
  have farther : ∀ label target, Relation.TransGen program.Leads label target →
      rank label < rank target := by
    intro label target path
    induction path with
    | single leads => exact climbs _ _ leads
    | tail _ leads ih => exact Nat.lt_trans ih (climbs _ _ leads)
  exact fun label circle => Nat.lt_irrefl _ (farther label label circle)

end Program

def Code.NeverFailsWith (code : Code) (fault : Fault) : Prop :=
  ∀ {σ : Type} [Sink σ] (instruction : Instruction) (bank : Bank) (sink : σ),
    instruction ∈ code.program.toList →
      (code.execute instruction bank sink).result ≠ .error fault

/-- Neither a turn nor a run fails with this fault, with any sink. -/
def Machine.NeverFailsWith (machine : Machine) (fault : Fault) : Prop :=
  ∀ {σ : Type} [Sink σ] (sink : σ),
    (machine.step sink).result ≠ .error fault ∧ (machine.run sink).result ≠ .error fault

/-- Sinks of this kind take every piece of text, and stay of this kind. -/
def Sink.Endless {σ : Type} [Sink σ] (takes : σ → Prop) : Prop :=
  ∀ (sink : σ) (piece : String), takes sink →
    (Sink.write sink piece).1 = .ok () ∧ takes (Sink.write sink piece).2

theorem Output.endless_of_no_limit : Sink.Endless fun output : Output => output.limit = none := by
  intro output piece free
  rw [Output.sink_write, Output.write_unlimited output piece free]
  exact ⟨rfl, rfl⟩

/-- The machine was loaded with the text.  Since then it has taken turns and runs, with any
sinks, and its registers have been written to. -/
inductive Machine.LoadedWith (text : String) : Machine → Prop
  | loaded (before : Machine) (success : (before.loadText text).1.result = .ok ()) :
      LoadedWith text (before.loadText text).2
  | stepped {σ : Type} [Sink σ] (machine : Machine) (sink : σ)
      (earlier : LoadedWith text machine) : LoadedWith text (machine.step sink).state
  | ran {σ : Type} [Sink σ] (machine : Machine) (sink : σ)
      (earlier : LoadedWith text machine) : LoadedWith text (machine.run sink).state
  | written (machine : Machine) (bank : Bank) (earlier : LoadedWith text machine) :
      LoadedWith text { machine with bank := bank }

/-! ## Chains inside a program -/

namespace Code

/-- The names that are called along a chain, the latest first: each leads to all that are called
after it. -/
theorem Coherent.exists_names_of_chain {code : Code} (coherent : code.Coherent) (bank : Bank)
    (first last : Instruction) (calls : Nat)
    (reached : code.chain bank first calls = some last) :
    ∃ names : List String, names.length = calls ∧ names ⊆ code.labels.names ∧
      names.Pairwise (fun later earlier => Relation.TransGen code.program.Leads earlier later) ∧
      ∀ name ∈ names.head?, last ∈ code.program.toList ∧ last.label = some name := by
  induction calls generalizing last with
  | zero => exact ⟨[], rfl, List.nil_subset _, .nil, nofun⟩
  | succ calls ih =>
      obtain ⟨caller, before, linked⟩ := Option.bind_eq_some_iff.mp reached
      obtain ⟨names, length, bound, paths, latest⟩ := ih caller before
      obtain ⟨label, source, target, rfl, -, called⟩ := link?_eq_some code bank caller last linked
      obtain ⟨member, labelled⟩ := (coherent.callee?_eq_some_iff target last).mp called
      have targetBound : target ∈ code.labels.names := by
        rw [coherent.mem_names_iff, Program.exists_carries_iff]
        exact ⟨last, member, labelled⟩
      refine ⟨target :: names, by rw [List.length_cons, length],
        List.cons_subset.mpr ⟨targetBound, bound⟩, List.pairwise_cons.mpr ⟨?_, paths⟩, ?_⟩
      · cases names with
        | nil => exact nofun
        | cons recent rest =>
            obtain ⟨callerMember, callerLabelled⟩ := latest recent rfl
            have leads : code.program.Leads recent target :=
              ⟨_, callerMember, callerLabelled, rfl⟩
            intro name earlier
            rcases List.mem_cons.mp earlier with rfl | older
            · exact .single leads
            · exact ((List.pairwise_cons.mp paths).1 name older).tail leads
      · rintro name ⟨⟩
        exact ⟨member, labelled⟩

/-- Where labels do not lead back to themselves, a chain calls no name twice. -/
theorem Coherent.calls_le_of_acyclic {code : Code} (coherent : code.Coherent)
    (acyclic : code.program.Acyclic) (bank : Bank) (first last : Instruction) (calls : Nat)
    (reached : code.chain bank first calls = some last) : calls ≤ code.labels.size := by
  obtain ⟨names, length, bound, paths, -⟩ :=
    coherent.exists_names_of_chain bank first last calls reached
  have distinct : names.Nodup := by
    refine paths.imp fun {later earlier} path same => ?_
    subst same
    exact acyclic later path
  have few := (distinct.subperm bound).length_le
  rwa [length, Labels.names, List.length_map] at few

/-! ## What the checks rule out -/

theorem Coherent.never_undefinedLabel {code : Code} (coherent : code.Coherent)
    (closed : code.program.Closed) (name : String) :
    code.NeverFailsWith (.undefinedLabel name) := by
  intro σ _ instruction bank sink member failed
  cases code.cause_of_execute bank sink instruction _ failed with
  | unresolved calls label source target reached unresolved =>
      have jump := code.mem_of_chain bank instruction _ calls member reached
      obtain ⟨labelled, found, carries⟩ := closed _ jump name rfl
      have called := (coherent.callee?_eq_some_iff name labelled).mpr ⟨found, carries⟩
      rw [(callee?_eq_none_iff code name).mpr unresolved] at called
      contradiction

theorem Coherent.never_jumpTooDeep {code : Code} (coherent : code.Coherent)
    (few : code.program.FewLabels) (acyclic : code.program.Acyclic) (limit : Nat)
    (text : String) : code.NeverFailsWith (.jumpTooDeep limit text) := by
  intro σ _ instruction bank sink member failed
  rw [Program.FewLabels, ← coherent.labels_size] at few
  cases code.cause_of_execute bank sink instruction _ failed with
  | tooDeep last next further =>
      have calls := coherent.calls_le_of_acyclic acyclic bank instruction next 1025 further
      omega

theorem never_divisionByZero (code : Code) (free : code.program.DivisionFree) (text : String) :
    code.NeverFailsWith (.divisionByZero text) := by
  intro σ _ instruction bank sink member failed
  cases code.cause_of_execute bank sink instruction _ failed with
  | divided calls last result source reached divides =>
      have kept := free last (code.mem_of_chain bank instruction last calls member reached)
      rw [Instruction.divides, divides] at kept
      contradiction

end Code

namespace Machine

/-! ## Turns and runs -/

variable {σ : Type} [Sink σ]

theorem LoadedWith.ofText_code {text : String} {machine : Machine}
    (loaded : machine.LoadedWith text) : Code.ofText text = .ok machine.code := by
  induction loaded with
  | loaded before success => exact before.ofText_of_loadText text success
  | stepped machine sink earlier ih => rwa [machine.step_code sink]
  | ran machine sink earlier ih => rwa [machine.run_code sink]
  | written machine bank earlier ih => exact ih

theorem run_ne_error_of_steps (holds : Machine → σ → Prop)
    (kept : ∀ machine sink, holds machine sink →
      holds (machine.step sink).state (machine.step sink).sink)
    (fault : Fault)
    (never : ∀ machine sink, holds machine sink → (machine.step sink).result ≠ .error fault)
    (machine : Machine) (sink : σ) (start : holds machine.reset sink) :
    (machine.run sink).result ≠ .error fault := by
  intro failed
  obtain ⟨before, printed, held, again⟩ :=
    step_of_run_error holds kept machine sink fault start failed
  exact never before printed held again

theorem neverFailsWith_of_code (machine : Machine) (fault : Fault)
    (never : machine.code.NeverFailsWith fault) : machine.NeverFailsWith fault := by
  intro σ _ sink
  have turn : ∀ (next : Machine) (printed : σ), next.code = machine.code →
      (next.step printed).result ≠ .error fault := by
    intro next printed same failed
    obtain ⟨instruction, fetched, failure⟩ := next.execute_of_step_error printed fault failed
    rw [← same] at never
    rw [Program.get?_eq_getElem?] at fetched
    exact never instruction next.bank printed (List.mem_of_getElem? fetched) failure
  exact ⟨turn machine sink rfl, run_ne_error_of_steps (fun next _ => next.code = machine.code)
    (fun next printed same => (next.step_code printed).trans same) fault turn machine sink rfl⟩

theorem step_ne_outputFailed (takes : σ → Prop) (endless : Sink.Endless takes)
    (machine : Machine) (sink : σ) (start : takes sink) (reason : String) :
    (machine.step sink).result ≠ .error (.outputFailed reason) := by
  intro failed
  obtain ⟨instruction, -, failure⟩ := machine.execute_of_step_error sink _ failed
  cases machine.code.cause_of_execute machine.bank sink instruction _ failure with
  | refused calls last source _ reached prints refusal =>
      rw [(endless sink _ start).1] at refusal
      contradiction

theorem run_ne_outputFailed (takes : σ → Prop) (endless : Sink.Endless takes)
    (machine : Machine) (sink : σ) (start : takes sink) (reason : String) :
    (machine.run sink).result ≠ .error (.outputFailed reason) :=
  run_ne_error_of_steps (fun _ printed => takes printed)
    (fun next printed held => next.step_keeps_sink takes
      (fun after _ _ still => (endless after _ still).2) printed held)
    _ (fun next printed held => next.step_ne_outputFailed takes endless printed held reason)
    machine sink start

theorem run_ok_of_never (machine : Machine) (sink : σ)
    (resolved : ∀ name, machine.NeverFailsWith (.undefinedLabel name))
    (shallow : ∀ limit text, machine.NeverFailsWith (.jumpTooDeep limit text))
    (divides : ∀ text, machine.NeverFailsWith (.divisionByZero text))
    (printed : ∀ reason, (machine.run sink).result ≠ .error (.outputFailed reason)) :
    (machine.run sink).result = .ok () := by
  cases ended : (machine.run sink).result with
  | ok done => rfl
  | error fault =>
      obtain ⟨before, after, -, failed⟩ :=
        step_of_run_error (fun _ _ => True) (fun _ _ _ => trivial) machine sink fault trivial ended
      obtain ⟨instruction, -, failure⟩ := before.execute_of_step_error after fault failed
      cases before.code.cause_of_execute before.bank after instruction fault failure with
      | divided => exact absurd ended ((divides _ sink).2)
      | refused => exact absurd ended (printed _)
      | unresolved => exact absurd ended ((resolved _ sink).2)
      | tooDeep => exact absurd ended ((shallow _ _ sink).2)

/-- What the checks of a program rule out, for all machines that are loaded with its text,
whatever their registers hold: jumps to names that are no labels, calls that nest too deep,
divisions by zero.  Where no printing fails either, a run comes to the end of the program. -/
theorem static_checks_rule_out_faults (text : String) (code : Code)
    (assembled : Code.ofText text = .ok code) (machine : Machine)
    (loaded : machine.LoadedWith text) :
    (code.program.Closed → ∀ name, machine.NeverFailsWith (.undefinedLabel name)) ∧
      (code.program.FewLabels → code.program.Acyclic →
        ∀ limit instruction, machine.NeverFailsWith (.jumpTooDeep limit instruction)) ∧
      (code.program.DivisionFree →
        ∀ instruction, machine.NeverFailsWith (.divisionByZero instruction)) ∧
      (code.program.Closed → code.program.FewLabels → code.program.Acyclic →
        code.program.DivisionFree →
        ∀ {σ : Type} [Sink σ] (takes : σ → Prop), Sink.Endless takes →
        ∀ sink, takes sink →
          (machine.run sink).result = .ok () ∧ (machine.run sink).state.isFinished = true) := by
  obtain rfl : code = machine.code := Except.ok.inj (assembled.symm.trans loaded.ofText_code)
  have coherent := (Code.holds_of_ofText text machine.code assembled).coherent
  have resolved (closed : machine.code.program.Closed) (name : String) :
      machine.NeverFailsWith (.undefinedLabel name) :=
    machine.neverFailsWith_of_code _ (coherent.never_undefinedLabel closed name)
  have shallow (few : machine.code.program.FewLabels) (acyclic : machine.code.program.Acyclic)
      (limit : Nat) (instruction : String) :
      machine.NeverFailsWith (.jumpTooDeep limit instruction) :=
    machine.neverFailsWith_of_code _ (coherent.never_jumpTooDeep few acyclic limit instruction)
  have divides (free : machine.code.program.DivisionFree) (instruction : String) :
      machine.NeverFailsWith (.divisionByZero instruction) :=
    machine.neverFailsWith_of_code _ (machine.code.never_divisionByZero free instruction)
  refine ⟨resolved, shallow, divides, ?_⟩
  intro closed few acyclic free σ _ takes endless sink start
  have success := machine.run_ok_of_never sink (resolved closed) (shallow few acyclic)
    (divides free) (machine.run_ne_outputFailed takes endless sink start)
  exact ⟨success, (machine.run_isFinished_iff sink).mpr success⟩

def relayText : String :=
  "a: jnz EAX b\nb: jnz EBX c\nc: out EBX\nmov EAX 1\nmov EBX 2\njnz EAX a"

def relay : Code where
  program := .ofList
    [⟨some "a", .jnz .eax "b"⟩, ⟨some "b", .jnz .ebx "c"⟩, ⟨some "c", .out .ebx⟩,
      ⟨none, .mov .eax 1⟩, ⟨none, .mov .ebx 2⟩, ⟨none, .jnz .eax "a"⟩]
  labels := ⟨[("c", 2), ("b", 1), ("a", 0)], by simp, by simp⟩

theorem relay_acyclic : relay.program.Acyclic :=
  Program.acyclic_of_rank _ (fun label => ["a", "b", "c"].idxOf label) (by decide +kernel)

def relayMachine : Machine :=
  { (((Machine.ofBank Bank.zero).loadText relayText).2.step Output.unlimited).state with
    bank := Bank.zero.set .ecx 7 }

theorem relay_never_fails :
    (∀ name, relayMachine.NeverFailsWith (.undefinedLabel name)) ∧
      (∀ limit instruction, relayMachine.NeverFailsWith (.jumpTooDeep limit instruction)) ∧
      (∀ instruction, relayMachine.NeverFailsWith (.divisionByZero instruction)) ∧
      (relayMachine.run Output.unlimited).result = .ok () ∧
      (relayMachine.run Output.unlimited).sink.text = "EBX - 2\n" := by
  have assembled : Code.ofText relayText = .ok relay := by decide +kernel
  have loaded : relayMachine.LoadedWith relayText :=
    .written _ _ (.stepped _ Output.unlimited (.loaded _ (by decide +kernel)))
  have closed : relay.program.Closed := by decide +kernel
  have few : relay.program.FewLabels := by decide +kernel
  have free : relay.program.DivisionFree := by decide +kernel
  obtain ⟨resolved, shallow, divides, completes⟩ :=
    static_checks_rule_out_faults relayText relay assembled relayMachine loaded
  exact ⟨resolved closed, shallow few relay_acyclic, divides free,
    (completes closed few relay_acyclic free _ Output.endless_of_no_limit Output.unlimited rfl).1,
    by decide +kernel⟩

end Machine

end RegisterMachine
