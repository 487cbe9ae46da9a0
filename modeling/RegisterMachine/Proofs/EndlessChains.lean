import Mathlib.Data.Finset.Card
import RegisterMachine.Proofs.CallChain
import RegisterMachine.Proofs.Coherence

/-!
# Chains of calls without end

A machine gives up on a chain after 1024 calls, although the chain might end later.  Where the
jumps of a code can reach at most 1024 addresses this never happens: a chain that makes one more
call has come to some instruction twice, and since no call changes the bank it will come there
again and again.  With 1025 addresses it can happen.
-/

set_option autoImplicit false

namespace RegisterMachine

variable {σ : Type} [Sink σ]

namespace Code

/-- The addresses that the jumps of a code can reach. -/
def boundAddresses (code : Code) : Finset Nat :=
  (code.labels.bindings.map Prod.snd).toFinset.filter fun address => address < code.program.size

/-- There is always one more call to make. -/
def Endless (code : Code) (bank : Bank) (first : Instruction) : Prop :=
  ∀ calls, ∃ last, code.chain bank first calls = some last

/-- Execution by a machine that may nest any number of calls.  It gives nothing for a chain
without end. -/
inductive Evaluates (code : Code) (bank : Bank) (sink : σ) :
    Instruction → Outcome Unit Bank σ → Prop
  | performed (instruction : Instruction) (effect : Effect Unit Bank σ)
      (performed : instruction.perform? bank sink = some effect) :
      Evaluates code bank sink instruction
        ⟨effect.result, effect.state, effect.sink, [.executing instruction]⟩
  | notTaken (label : Option String) (source : Register) (target : String)
      (zero : bank.get source = 0) :
      Evaluates code bank sink ⟨label, .jnz source target⟩
        ⟨.ok (), bank, sink,
          [.executing ⟨label, .jnz source target⟩,
            .notTaken ⟨label, .jnz source target⟩ source]⟩
  | unresolved (label : Option String) (source : Register) (target : String)
      (nonzero : bank.get source ≠ 0) (unresolved : code.Unresolved target) :
      Evaluates code bank sink ⟨label, .jnz source target⟩
        ⟨.error (.undefinedLabel target), bank, sink, [.executing ⟨label, .jnz source target⟩]⟩
  | called (label : Option String) (source : Register) (target : String) (callee : Instruction)
      (outcome : Outcome Unit Bank σ) (nonzero : bank.get source ≠ 0)
      (resolved : code.callee? target = some callee)
      (evaluated : Evaluates code bank sink callee outcome) :
      Evaluates code bank sink ⟨label, .jnz source target⟩
        (outcome.after [.executing ⟨label, .jnz source target⟩])

/-! ## Chains in two parts -/

theorem chain_add (code : Code) (bank : Bank) (first : Instruction) (calls more : Nat) :
    code.chain bank first (calls + more) =
      (code.chain bank first calls).bind fun middle => code.chain bank middle more := by
  induction more with
  | zero =>
      cases code.chain bank first calls with
      | none => rfl
      | some middle => rfl
  | succ more ih =>
      rw [← Nat.add_assoc, chain, ih, Option.bind_assoc]
      rfl

theorem chain_of_link (code : Code) (bank : Bank) (first callee : Instruction) (calls : Nat)
    (linked : code.link? bank first = some callee) :
    code.chain bank first (calls + 1) = code.chain bank callee calls := by
  have one : code.chain bank first 1 = some callee := linked
  rw [Nat.add_comm, chain_add, one, Option.bind_some]

theorem chain_of_le (code : Code) (bank : Bank) (first last : Instruction) (calls fewer : Nat)
    (reached : code.chain bank first calls = some last) (le : fewer ≤ calls) :
    ∃ middle, code.chain bank first fewer = some middle := by
  rw [← Nat.add_sub_cancel' le, chain_add] at reached
  obtain ⟨middle, before, -⟩ := Option.bind_eq_some_iff.mp reached
  exact ⟨middle, before⟩

theorem not_endless_of_unlinked (code : Code) (bank : Bank) (first last : Instruction)
    (calls : Nat) (reached : code.chain bank first calls = some last)
    (unlinked : code.link? bank last = none) : ¬ code.Endless bank first := by
  intro endless
  obtain ⟨next, further⟩ := endless (calls + 1)
  rw [chain, reached, Option.bind_some, unlinked] at further
  contradiction

theorem endless_of_repeated (code : Code) (bank : Bank) (first again : Instruction)
    (calls period : Nat) (reached : code.chain bank first calls = some again)
    (repeated : code.chain bank first (calls + period) = some again) (positive : 0 < period) :
    code.Endless bank first := by
  have round : code.chain bank again period = some again := by
    rwa [chain_add, reached, Option.bind_some] at repeated
  have rounds : ∀ count, code.chain bank again (count * period) = some again := by
    intro count
    induction count with
    | zero => rw [Nat.zero_mul]; rfl
    | succ count ih => rw [Nat.succ_mul, chain_add, ih, Option.bind_some, round]
  intro asked
  have far : code.chain bank first (calls + asked * period) = some again := by
    rw [chain_add, reached, Option.bind_some, rounds]
  have enough : asked ≤ asked * period := Nat.le_mul_of_pos_right asked positive
  exact chain_of_le code bank first again _ asked far (by omega)

/-! ## Few addresses -/

theorem link?_mem_boundAddresses (code : Code) (bank : Bank) (instruction callee : Instruction)
    (linked : code.link? bank instruction = some callee) :
    ∃ address ∈ code.boundAddresses, code.program.get? address = some callee := by
  obtain ⟨-, -, target, -, -, resolved⟩ := link?_eq_some code bank instruction callee linked
  unfold callee? at resolved
  split at resolved
  · next address bound =>
      have inside := code.program.lt_size_of_get? address callee resolved
      have member := (Labels.address?_eq_some_iff code.labels target address).mp bound
      refine ⟨address, ?_, resolved⟩
      rw [boundAddresses, Finset.mem_filter, List.mem_toFinset, List.mem_map]
      exact ⟨⟨(target, address), member, rfl⟩, inside⟩
  · contradiction

/-- One call more than there are addresses to reach, and the chain has come to some instruction
twice. -/
theorem endless_of_more_calls (code : Code) (bank : Bank) (first last : Instruction)
    (calls : Nat) (few : code.boundAddresses.card ≤ calls)
    (further : code.chain bank first (calls + 1) = some last) : code.Endless bank first := by
  have maps : ∀ place ∈ Finset.range (calls + 1), code.chain bank first (place + 1) ∈
      code.boundAddresses.image code.program.get? := by
    intro place inside
    rw [Finset.mem_range] at inside
    obtain ⟨called, reached⟩ :=
      chain_of_le code bank first last (calls + 1) (place + 1) further (by omega)
    obtain ⟨caller, -, linked⟩ := Option.bind_eq_some_iff.mp reached
    obtain ⟨address, member, fetched⟩ := link?_mem_boundAddresses code bank caller called linked
    rw [reached]
    exact Finset.mem_image.mpr ⟨address, member, fetched⟩
  have crowded : (code.boundAddresses.image code.program.get?).card <
      (Finset.range (calls + 1)).card := by
    rw [Finset.card_range]
    exact Nat.lt_succ_of_le (Finset.card_image_le.trans few)
  obtain ⟨earlier, earlierInside, later, laterInside, different, same⟩ :=
    Finset.exists_ne_map_eq_of_card_lt_of_maps_to crowded maps
  wlog ordered : earlier < later generalizing earlier later
  · exact this later laterInside earlier earlierInside different.symm same.symm (by omega)
  rw [Finset.mem_range] at earlierInside
  obtain ⟨again, reached⟩ :=
    chain_of_le code bank first last (calls + 1) (earlier + 1) further (by omega)
  have repeated : code.chain bank first (earlier + 1 + (later - earlier)) = some again := by
    rw [show earlier + 1 + (later - earlier) = later + 1 by omega, ← same, reached]
  exact endless_of_repeated code bank first again _ _ reached repeated (by omega)

/-! ## Execution with and without a bound -/

/-- Execution gives up exactly on chains of more than 1024 calls. -/
theorem execute_tooDeep_iff (code : Code) (bank : Bank) (sink : σ) (first : Instruction) :
    (∃ limit text, (code.execute first bank sink).result = .error (.jumpTooDeep limit text)) ↔
      ∃ next, code.chain bank first 1025 = some next := by
  constructor
  · intro failed
    obtain ⟨limit, text, failed⟩ := failed
    cases code.cause_of_execute bank sink first _ failed with
    | tooDeep last next further => exact ⟨next, further⟩
  · intro further
    obtain ⟨next, further⟩ := further
    obtain ⟨last, reached, -⟩ := Option.bind_eq_some_iff.mp further
    have said : ChainEffect code bank sink first _ := .tooDeep last next reached further
    exact ⟨1024, last.text, congrArg Effect.result said.sound⟩

theorem Evaluates.call {code : Code} {bank : Bank} {sink : σ} {first : Instruction}
    {outcome : Outcome Unit Bank σ} (evaluated : Evaluates code bank sink first outcome) :
    ∃ calls last, code.chain bank first calls = some last ∧ code.link? bank last = none ∧
      ∀ callsLeft, calls ≤ callsLeft → code.call bank sink callsLeft first = outcome := by
  induction evaluated with
  | performed instruction effect performed =>
      refine ⟨0, instruction, rfl, ?_, fun callsLeft _ =>
        call_of_perform code bank sink callsLeft instruction effect performed⟩
      obtain ⟨label, operation⟩ := instruction
      cases operation with
      | jnz source target => contradiction
      | arithmetic kind result source => rfl
      | mov result value => rfl
      | out source => rfl
  | notTaken label source target zero =>
      exact ⟨0, _, rfl, if_pos zero, fun callsLeft _ =>
        call_jnz_of_zero code bank sink callsLeft label source target zero⟩
  | unresolved label source target nonzero unresolved =>
      have nothing := (callee?_eq_none_iff code target).mpr unresolved
      exact ⟨0, _, rfl, (link?_jnz code bank label source target nonzero).trans nothing,
        fun callsLeft _ =>
          call_jnz_of_unresolved code bank sink callsLeft label source target nonzero nothing⟩
  | called label source target callee outcome nonzero resolved _ ih =>
      obtain ⟨calls, last, reached, unlinked, called⟩ := ih
      have linked := (link?_jnz code bank label source target nonzero).trans resolved
      refine ⟨calls + 1, last, ?_, unlinked, ?_⟩
      · rw [chain_of_link code bank _ callee calls linked, reached]
      · intro callsLeft enough
        obtain ⟨left, rfl⟩ : ∃ left, callsLeft = left + 1 := ⟨callsLeft - 1, by omega⟩
        rw [call_jnz_of_resolved code bank sink left label source target callee nonzero resolved,
          called left (by omega)]

theorem exists_evaluates (code : Code) (bank : Bank) (sink : σ) (first last : Instruction)
    (calls : Nat) (reached : code.chain bank first calls = some last)
    (unlinked : code.link? bank last = none) :
    ∃ outcome, Evaluates code bank sink first outcome := by
  induction calls generalizing first with
  | zero =>
      cases Option.some.inj reached
      rcases link?_eq_none code bank sink last unlinked with
        ⟨effect, performed⟩ | ⟨label, source, target, rfl, zero | ⟨nonzero, unresolved⟩⟩
      · exact ⟨_, .performed last effect performed⟩
      · exact ⟨_, .notTaken label source target zero⟩
      · exact ⟨_, .unresolved label source target nonzero unresolved⟩
  | succ calls ih =>
      cases linked : code.link? bank first with
      | none =>
          have stopped : code.chain bank first 1 = none := linked
          rw [Nat.add_comm, chain_add, stopped] at reached
          contradiction
      | some callee =>
          rw [chain_of_link code bank first callee calls linked] at reached
          obtain ⟨outcome, evaluated⟩ := ih callee reached
          obtain ⟨label, source, target, rfl, nonzero, resolved⟩ :=
            link?_eq_some code bank first callee linked
          exact ⟨_, .called label source target callee outcome nonzero resolved evaluated⟩

theorem exists_last_of_not_endless (code : Code) (bank : Bank) (first : Instruction)
    (ends : ¬ code.Endless bank first) :
    ∃ calls last, code.chain bank first calls = some last ∧ code.link? bank last = none := by
  unfold Endless at ends
  push Not at ends
  obtain ⟨calls, nothing⟩ := ends
  rcases chain_ends_or_continues code bank first calls with
    ⟨made, last, -, reached, unlinked⟩ | ⟨next, reached⟩
  · exact ⟨made, last, reached, unlinked⟩
  · exact absurd reached (nothing next)

theorem execute_tooDeep_iff_of_few (code : Code) (bank : Bank) (sink : σ) (first : Instruction)
    (few : code.boundAddresses.card ≤ 1024) :
    (∃ limit text, (code.execute first bank sink).result = .error (.jumpTooDeep limit text)) ↔
      code.Endless bank first := by
  rw [execute_tooDeep_iff]
  constructor
  · intro further
    obtain ⟨next, further⟩ := further
    exact endless_of_more_calls code bank first next 1024 few further
  · intro endless
    exact endless 1025

theorem evaluates_iff_of_few (code : Code) (bank : Bank) (sink : σ) (first : Instruction)
    (few : code.boundAddresses.card ≤ 1024) (outcome : Outcome Unit Bank σ) :
    Evaluates code bank sink first outcome ↔
      ¬ code.Endless bank first ∧ code.execute first bank sink = outcome := by
  have sound : ∀ found, Evaluates code bank sink first found →
      ¬ code.Endless bank first ∧ code.execute first bank sink = found := by
    intro found evaluated
    obtain ⟨calls, last, reached, unlinked, called⟩ := evaluated.call
    have ends := not_endless_of_unlinked code bank first last calls reached unlinked
    have bounded : calls ≤ 1024 := by
      apply Nat.le_of_not_lt
      intro more
      obtain ⟨next, further⟩ := chain_of_le code bank first last calls 1025 reached more
      exact ends (endless_of_more_calls code bank first next 1024 few further)
    exact ⟨ends, called 1024 bounded⟩
  constructor
  · exact sound outcome
  · intro ended
    obtain ⟨ends, executed⟩ := ended
    obtain ⟨calls, last, reached, unlinked⟩ := exists_last_of_not_endless code bank first ends
    obtain ⟨found, evaluated⟩ :=
      exists_evaluates code bank sink first last calls reached unlinked
    rwa [← executed, (sound found evaluated).2]

/-! ## A ladder of jumps -/

/-- One of this many instructions: each jumps to the next, and the last one moves a number. -/
def rung (rungs place : Nat) : Instruction :=
  ⟨some (Text.decimal place),
    if place + 1 < rungs then .jnz .eax (Text.decimal (place + 1)) else .mov .ebx 1⟩

def ladderProgram (rungs : Nat) : Program :=
  .ofList ((List.range rungs).map (rung rungs))

theorem ladderProgram_get? (rungs place : Nat) (inside : place < rungs) :
    (ladderProgram rungs).get? place = some (rung rungs place) := by
  rw [Program.get?_eq_getElem?, ladderProgram, Program.toList_ofList, List.getElem?_map,
    List.getElem?_range inside, Option.map_some]

theorem ladderProgram_bindings (rungs : Nat) :
    (ladderProgram rungs).bindings =
      (List.range rungs).map fun place => (Text.decimal place, place) := by
  have places : ((List.range rungs).map (rung rungs)).zipIdx =
      (List.range rungs).map fun place => (rung rungs place, place) := by
    apply List.ext_getElem <;> simp
  rw [Program.bindings, ladderProgram, Program.toList_ofList, places, List.filterMap_map,
    ← List.filterMap_eq_map]
  rfl

def ladder (rungs : Nat) : Code where
  program := ladderProgram rungs
  labels :=
    { bindings := (ladderProgram rungs).bindings.reverse
      nonempty_names := by
        intro binding member
        rw [List.mem_reverse, ladderProgram_bindings] at member
        obtain ⟨place, -, rfl⟩ := List.mem_map.mp member
        exact Text.decimal_ne_empty place
      distinct_names := by
        rw [List.map_reverse, List.nodup_reverse, ladderProgram_bindings, List.map_map]
        exact List.Nodup.map Text.decimal_injective List.nodup_range }

theorem coherent_ladder (rungs : Nat) : (ladder rungs).Coherent := rfl

theorem ladder_labels_size (rungs : Nat) : (ladder rungs).labels.size = rungs := by
  change (ladderProgram rungs).bindings.reverse.length = rungs
  rw [List.length_reverse, ladderProgram_bindings, List.length_map, List.length_range]

theorem ladder_callee? (rungs place : Nat) (inside : place < rungs) :
    (ladder rungs).callee? (Text.decimal place) = some (rung rungs place) := by
  have fetched := ladderProgram_get? rungs place inside
  have bound := ((coherent_ladder rungs).address?_iff _ place).mpr ⟨_, fetched, rfl⟩
  simp only [callee?, bound]
  exact fetched

theorem ladder_chain (rungs place : Nat) (bank : Bank) (nonzero : bank.get .eax ≠ 0)
    (inside : place < rungs) :
    (ladder rungs).chain bank ⟨none, .jnz .eax (Text.decimal 0)⟩ (place + 1) =
      some (rung rungs place) := by
  induction place with
  | zero =>
      rw [chain, chain, Option.bind_some, link?_jnz _ _ _ _ _ nonzero,
        ladder_callee? rungs 0 inside]
  | succ place ih =>
      rw [chain, ih (by omega), Option.bind_some, rung, if_pos inside,
        link?_jnz _ _ _ _ _ nonzero, ladder_callee? rungs (place + 1) inside]

theorem ladder_ends (rungs : Nat) (bank : Bank) (nonzero : bank.get .eax ≠ 0) :
    ∃ last, (ladder (rungs + 1)).chain bank ⟨none, .jnz .eax (Text.decimal 0)⟩ (rungs + 1) =
        some last ∧ (ladder (rungs + 1)).link? bank last = none := by
  refine ⟨_, ladder_chain (rungs + 1) rungs bank nonzero (Nat.lt_succ_self rungs), ?_⟩
  rw [rung, if_neg (Nat.lt_irrefl _)]
  rfl

/-! ## The bound is right -/

/-- With at most 1024 addresses to reach, a machine gives up exactly on endless chains, and does
on all others what a machine without a bound does.  With 1025 labels it may give up on a chain
that ends. -/
theorem execute_gives_up_exactly_on_endless :
    (∀ {τ : Type} [Sink τ] (code : Code) (bank : Bank) (sink : τ) (first : Instruction),
        code.boundAddresses.card ≤ 1024 →
          ((∃ limit text,
              (code.execute first bank sink).result = .error (.jumpTooDeep limit text)) ↔
            code.Endless bank first) ∧
          ∀ outcome, Evaluates code bank sink first outcome ↔
            ¬ code.Endless bank first ∧ code.execute first bank sink = outcome) ∧
      ∃ (code : Code) (bank : Bank) (first : Instruction),
        code.Coherent ∧ code.labels.size = 1025 ∧ ¬ code.Endless bank first ∧
          ∀ {τ : Type} [Sink τ] (sink : τ),
            (∃ outcome, Evaluates code bank sink first outcome) ∧
              ∃ limit text,
                (code.execute first bank sink).result = .error (.jumpTooDeep limit text) := by
  constructor
  · intro τ _ code bank sink first few
    exact ⟨execute_tooDeep_iff_of_few code bank sink first few,
      evaluates_iff_of_few code bank sink first few⟩
  · have nonzero : (Bank.zero.set .eax 1).get .eax ≠ 0 := by decide
    obtain ⟨last, reached, unlinked⟩ := ladder_ends 1024 _ nonzero
    refine ⟨ladder 1025, _, _, coherent_ladder 1025, ladder_labels_size 1025,
      not_endless_of_unlinked _ _ _ last 1025 reached unlinked, ?_⟩
    intro τ _ sink
    exact ⟨exists_evaluates _ _ sink _ last 1025 reached unlinked,
      (execute_tooDeep_iff _ _ sink _).mpr ⟨last, reached⟩⟩

def spinner : Code where
  program := .ofList [⟨some "spin", .jnz .eax "spin"⟩, ⟨some "leave", .mov .ebx 2⟩]
  labels := ⟨[("leave", 1), ("spin", 0)], by simp, by simp⟩

theorem execute_gives_up_on_self_jump :
    spinner.boundAddresses.card ≤ 1024 ∧
      spinner.Endless (Bank.zero.set .eax 1) ⟨none, .jnz .eax "spin"⟩ ∧
      (∃ limit text, (spinner.execute ⟨none, .jnz .eax "spin"⟩ (Bank.zero.set .eax 1)
        Output.unlimited).result = .error (.jumpTooDeep limit text)) ∧
      ¬ spinner.Endless (Bank.zero.set .eax 1) ⟨none, .jnz .eax "leave"⟩ ∧
      spinner.execute ⟨none, .jnz .eax "leave"⟩ (Bank.zero.set .eax 1) Output.unlimited =
        ⟨.ok (), (Bank.zero.set .eax 1).set .ebx 2, Output.unlimited,
          [.executing ⟨none, .jnz .eax "leave"⟩, .executing ⟨some "leave", .mov .ebx 2⟩]⟩ := by
  have few : spinner.boundAddresses.card ≤ 1024 := by decide +kernel
  have endless : spinner.Endless (Bank.zero.set .eax 1) ⟨none, .jnz .eax "spin"⟩ :=
    endless_of_repeated spinner _ _ ⟨some "spin", .jnz .eax "spin"⟩ 1 1 rfl rfl Nat.one_pos
  have evaluated : Evaluates spinner (Bank.zero.set .eax 1) Output.unlimited
      ⟨none, .jnz .eax "leave"⟩ _ :=
    .called none .eax "leave" ⟨some "leave", .mov .ebx 2⟩ _ (by decide) rfl
      (.performed _ _ rfl)
  obtain ⟨bounded, -⟩ := execute_gives_up_exactly_on_endless
  have spinning :=
    bounded spinner (Bank.zero.set .eax 1) Output.unlimited ⟨none, .jnz .eax "spin"⟩ few
  have leaving :=
    bounded spinner (Bank.zero.set .eax 1) Output.unlimited ⟨none, .jnz .eax "leave"⟩ few
  exact ⟨few, endless, spinning.1.mpr endless, (leaving.2 _).mp evaluated⟩

end Code

end RegisterMachine
