import RegisterMachine.Execution

/-!
# Chains of calls

A jump that is taken calls an instruction, which may be a jump that is taken again.  No call
changes the bank before the last one, so the calls can be listed in advance, on the bank of the
start: they form a chain.  Executing an instruction is walking its chain and doing once what
stands at the end of it, unless the chain is too long to be walked.
-/

set_option autoImplicit false

namespace RegisterMachine

variable {σ : Type} [Sink σ]

def Instruction.perform? (instruction : Instruction) (bank : Bank) (sink : σ) :
    Option (Effect Unit Bank σ) :=
  match instruction.operation with
  | .arithmetic kind result source =>
      match kind.apply (bank.get result) (bank.get source) with
      | some value => some ⟨.ok (), bank.set result value, sink⟩
      | none => some ⟨.error (.divisionByZero instruction.text), bank, sink⟩
  | .mov result value => some ⟨.ok (), bank.set result value, sink⟩
  | .out source =>
      match Sink.write sink (bank.line source) with
      | (.ok (), sink) => some ⟨.ok (), bank, sink⟩
      | (.error reason, sink) => some ⟨.error (.outputFailed reason), bank, sink⟩
  | .jnz _ _ => none

theorem Instruction.perform?_fault (instruction : Instruction) (bank : Bank) (sink : σ)
    (effect : Effect Unit Bank σ) (fault : Fault)
    (performed : instruction.perform? bank sink = some effect)
    (failed : effect.result = .error fault) :
    (∃ result source, instruction.operation = .arithmetic .div result source ∧
        fault = .divisionByZero instruction.text) ∨
      ∃ source reason, instruction.operation = .out source ∧
        (Sink.write sink (bank.line source)).1 = .error reason ∧ fault = .outputFailed reason := by
  unfold perform? at performed
  split at performed
  · next kind result source operation =>
      split at performed
      · cases performed
        contradiction
      · next nothing =>
          obtain ⟨rfl, -⟩ := (kind.apply_eq_none_iff _ _).mp nothing
          cases performed
          cases failed
          exact Or.inl ⟨result, source, operation, rfl⟩
  · cases performed
    contradiction
  · next source operation =>
      split at performed
      · cases performed
        contradiction
      · next reason after refusal =>
          cases performed
          cases failed
          exact Or.inr ⟨source, reason, operation, congrArg Prod.fst refusal, rfl⟩
  · contradiction

def Instruction.outcome (instruction : Instruction) (effect : Effect Unit Bank σ) :
    Outcome Unit Bank σ :=
  ⟨effect.result, effect.state, effect.sink, [.executing instruction]⟩

theorem Instruction.eq_jnz_of_perform? (instruction : Instruction) (bank : Bank) (sink : σ)
    (none : instruction.perform? bank sink = none) :
    ∃ label source target, instruction = ⟨label, .jnz source target⟩ := by
  obtain ⟨label, operation⟩ := instruction
  cases operation with
  | jnz source target => exact ⟨label, source, target, rfl⟩
  | arithmetic kind result source =>
      simp only [perform?] at none
      split at none <;> contradiction
  | mov result value => contradiction
  | out source =>
      simp only [perform?] at none
      split at none <;> contradiction

namespace Code

/-- The name is bound to no address at which the program has an instruction. -/
def Unresolved (code : Code) (name : String) : Prop :=
  ∀ address, code.labels.address? name = some address → code.program.size ≤ address

theorem callee?_eq_none_iff (code : Code) (name : String) :
    code.callee? name = none ↔ code.Unresolved name := by
  unfold callee? Unresolved
  cases bound : code.labels.address? name with
  | none => simp
  | some address => simp [Program.get?_eq_none_iff]

theorem mem_of_callee? (code : Code) (name : String) (callee : Instruction)
    (called : code.callee? name = some callee) : callee ∈ code.program.toList := by
  unfold callee? at called
  split at called
  · next address bound =>
      rw [Program.get?_eq_getElem?] at called
      exact List.mem_of_getElem? called
  · contradiction

/-- The instruction that an instruction calls. -/
def link? (code : Code) (bank : Bank) (instruction : Instruction) : Option Instruction :=
  match instruction.operation with
  | .jnz source target => if bank.get source = 0 then none else code.callee? target
  | _ => none

/-- The instruction that is reached by this many calls, all of them decided on one bank. -/
def chain (code : Code) (bank : Bank) (first : Instruction) : (calls : Nat) → Option Instruction
  | 0 => some first
  | calls + 1 => (code.chain bank first calls).bind (code.link? bank)

/-- What the chain of an instruction says about executing it: at most 1024 calls are made, and
the state is that of the start until the last of them has been made. -/
inductive ChainEffect (code : Code) (bank : Bank) (sink : σ) (first : Instruction) :
    Effect Unit Bank σ → Prop
  /-- The chain ends in an instruction that is no jump. -/
  | performed (calls : Nat) (last : Instruction) (effect : Effect Unit Bank σ)
      (few : calls ≤ 1024) (reached : code.chain bank first calls = some last)
      (performed : last.perform? bank sink = some effect) :
      ChainEffect code bank sink first effect
  /-- The chain ends in a jump that is not taken. -/
  | notTaken (calls : Nat) (label : Option String) (source : Register) (target : String)
      (few : calls ≤ 1024)
      (reached : code.chain bank first calls = some ⟨label, .jnz source target⟩)
      (zero : bank.get source = 0) :
      ChainEffect code bank sink first ⟨.ok (), bank, sink⟩
  /-- The chain ends in a jump to a name that names no instruction. -/
  | unresolved (calls : Nat) (label : Option String) (source : Register) (target : String)
      (few : calls ≤ 1024)
      (reached : code.chain bank first calls = some ⟨label, .jnz source target⟩)
      (nonzero : bank.get source ≠ 0) (unresolved : code.Unresolved target) :
      ChainEffect code bank sink first ⟨.error (.undefinedLabel target), bank, sink⟩
  /-- The chain goes on after 1024 calls. -/
  | tooDeep (last next : Instruction) (reached : code.chain bank first 1024 = some last)
      (further : code.chain bank first 1025 = some next) :
      ChainEffect code bank sink first ⟨.error (.jumpTooDeep 1024 last.text), bank, sink⟩

/-! ## Links -/

theorem link?_jnz (code : Code) (bank : Bank) (label : Option String) (source : Register)
    (target : String) (nonzero : bank.get source ≠ 0) :
    code.link? bank ⟨label, .jnz source target⟩ = code.callee? target := by
  simp [link?, nonzero]

theorem link?_eq_some (code : Code) (bank : Bank) (instruction callee : Instruction)
    (linked : code.link? bank instruction = some callee) :
    ∃ label source target, instruction = ⟨label, .jnz source target⟩ ∧
      bank.get source ≠ 0 ∧ code.callee? target = some callee := by
  obtain ⟨label, operation⟩ := instruction
  cases operation with
  | jnz source target =>
      simp only [link?] at linked
      split at linked
      · contradiction
      · next nonzero => exact ⟨label, source, target, rfl, nonzero, linked⟩
  | arithmetic kind result source => simp [link?] at linked
  | mov result value => simp [link?] at linked
  | out source => simp [link?] at linked

theorem link?_eq_none (code : Code) (bank : Bank) (sink : σ) (instruction : Instruction)
    (unlinked : code.link? bank instruction = none) :
    (∃ effect, instruction.perform? bank sink = some effect) ∨
      ∃ label source target, instruction = ⟨label, .jnz source target⟩ ∧
        (bank.get source = 0 ∨ bank.get source ≠ 0 ∧ code.Unresolved target) := by
  obtain ⟨label, operation⟩ := instruction
  cases operation with
  | jnz source target =>
      refine Or.inr ⟨label, source, target, rfl, ?_⟩
      by_cases zero : bank.get source = 0
      · exact Or.inl zero
      · rw [link?_jnz code bank label source target zero] at unlinked
        exact Or.inr ⟨zero, (callee?_eq_none_iff code target).mp unlinked⟩
  | arithmetic kind result source =>
      refine Or.inl ?_
      simp only [Instruction.perform?]
      cases kind.apply (bank.get result) (bank.get source) with
      | some value => exact ⟨_, rfl⟩
      | none => exact ⟨_, rfl⟩
  | mov result value => exact Or.inl ⟨_, rfl⟩
  | out source =>
      refine Or.inl ?_
      simp only [Instruction.perform?]
      rcases Sink.write sink (bank.line source) with ⟨written | reason, sink⟩
      · exact ⟨_, rfl⟩
      · exact ⟨_, rfl⟩

theorem chain_ends_or_continues (code : Code) (bank : Bank) (first : Instruction) (calls : Nat) :
    (∃ made last, made < calls ∧ code.chain bank first made = some last ∧
        code.link? bank last = none) ∨
      ∃ next, code.chain bank first calls = some next := by
  induction calls with
  | zero => exact Or.inr ⟨first, rfl⟩
  | succ calls ih =>
      rcases ih with ⟨made, last, fewer, reached, unlinked⟩ | ⟨last, reached⟩
      · exact Or.inl ⟨made, last, by omega, reached, unlinked⟩
      · cases linked : code.link? bank last with
        | none => exact Or.inl ⟨calls, last, by omega, reached, linked⟩
        | some next => exact Or.inr ⟨next, by rw [chain, reached, Option.bind_some, linked]⟩

theorem mem_of_chain (code : Code) (bank : Bank) (first last : Instruction) (calls : Nat)
    (member : first ∈ code.program.toList)
    (reached : code.chain bank first calls = some last) : last ∈ code.program.toList := by
  cases calls with
  | zero => exact Option.some.inj reached ▸ member
  | succ calls =>
      obtain ⟨caller, -, linked⟩ := Option.bind_eq_some_iff.mp reached
      obtain ⟨-, -, target, -, -, called⟩ := link?_eq_some code bank caller last linked
      exact code.mem_of_callee? target last called

/-! ## Calls along a chain -/

theorem call_of_perform (code : Code) (bank : Bank) (sink : σ) (callsLeft : Nat)
    (instruction : Instruction) (effect : Effect Unit Bank σ)
    (performed : instruction.perform? bank sink = some effect) :
    code.call bank sink callsLeft instruction =
      ⟨effect.result, effect.state, effect.sink, [.executing instruction]⟩ := by
  obtain ⟨label, operation⟩ := instruction
  rw [call]
  cases operation with
  | arithmetic kind result source =>
      simp only [Instruction.perform?] at performed ⊢
      split at performed <;> cases Option.some.inj performed <;> simp_all
  | mov result value =>
      cases Option.some.inj performed
      rfl
  | out source =>
      simp only [Instruction.perform?] at performed ⊢
      split at performed <;> cases Option.some.inj performed <;> simp_all
  | jnz source target => simp [Instruction.perform?] at performed

/-- How a call can go that may still nest this many calls. -/
inductive Calling (code : Code) (bank : Bank) (sink : σ) :
    Nat → Instruction → Outcome Unit Bank σ → Prop
  /-- The instruction is no jump. -/
  | performed (callsLeft : Nat) (instruction : Instruction) (effect : Effect Unit Bank σ)
      (performed : instruction.perform? bank sink = some effect) :
      Calling code bank sink callsLeft instruction (instruction.outcome effect)
  | notTaken (callsLeft : Nat) (label : Option String) (source : Register) (target : String)
      (zero : bank.get source = 0) :
      Calling code bank sink callsLeft ⟨label, .jnz source target⟩
        ⟨.ok (), bank, sink,
          [.executing ⟨label, .jnz source target⟩, .notTaken ⟨label, .jnz source target⟩ source]⟩
  | unresolved (callsLeft : Nat) (label : Option String) (source : Register) (target : String)
      (nonzero : bank.get source ≠ 0) (unresolved : code.callee? target = none) :
      Calling code bank sink callsLeft ⟨label, .jnz source target⟩
        ⟨.error (.undefinedLabel target), bank, sink, [.executing ⟨label, .jnz source target⟩]⟩
  | tooDeep (label : Option String) (source : Register) (target : String) (callee : Instruction)
      (nonzero : bank.get source ≠ 0) (resolved : code.callee? target = some callee) :
      Calling code bank sink 0 ⟨label, .jnz source target⟩
        ⟨.error (.jumpTooDeep maxCalls (Instruction.text ⟨label, .jnz source target⟩)), bank, sink,
          [.executing ⟨label, .jnz source target⟩]⟩
  /-- The callee does what there is to do. -/
  | called (callsLeft : Nat) (label : Option String) (source : Register) (target : String)
      (callee : Instruction) (outcome : Outcome Unit Bank σ) (nonzero : bank.get source ≠ 0)
      (resolved : code.callee? target = some callee)
      (rest : Calling code bank sink callsLeft callee outcome) :
      Calling code bank sink (callsLeft + 1) ⟨label, .jnz source target⟩
        (outcome.after [.executing ⟨label, .jnz source target⟩])

theorem calling_call (code : Code) (bank : Bank) (sink : σ) (callsLeft : Nat)
    (instruction : Instruction) :
    Calling code bank sink callsLeft instruction
      (code.call bank sink callsLeft instruction) := by
  induction callsLeft using Nat.strongRecOn generalizing instruction with
  | ind callsLeft ih =>
      cases performed : instruction.perform? bank sink with
      | some effect =>
          rw [call_of_perform code bank sink callsLeft instruction effect performed]
          exact .performed callsLeft instruction effect performed
      | none =>
          obtain ⟨label, source, target, rfl⟩ := instruction.eq_jnz_of_perform? bank sink performed
          by_cases zero : bank.get source = 0
          · rw [call_jnz_of_zero code bank sink callsLeft label source target zero]
            exact .notTaken callsLeft label source target zero
          · cases resolved : code.callee? target with
            | none =>
                rw [call_jnz_of_unresolved code bank sink callsLeft label source target zero
                  resolved]
                exact .unresolved callsLeft label source target zero resolved
            | some callee =>
                cases callsLeft with
                | zero =>
                    rw [call_jnz_of_no_calls_left code bank sink label source target callee zero
                      resolved]
                    exact .tooDeep label source target callee zero resolved
                | succ fewer =>
                    rw [call_jnz_of_resolved code bank sink fewer label source target callee zero
                      resolved]
                    exact .called fewer label source target callee _ zero resolved
                      (ih fewer (Nat.lt_succ_self fewer) callee)

theorem effect_call_of_perform (code : Code) (bank : Bank) (sink : σ) (callsLeft : Nat)
    (instruction : Instruction) (effect : Effect Unit Bank σ)
    (performed : instruction.perform? bank sink = some effect) :
    (code.call bank sink callsLeft instruction).effect = effect := by
  rw [call_of_perform code bank sink callsLeft instruction effect performed]
  rfl

theorem effect_call_of_link (code : Code) (bank : Bank) (sink : σ) (callsLeft : Nat)
    (instruction callee : Instruction) (linked : code.link? bank instruction = some callee) :
    (code.call bank sink (callsLeft + 1) instruction).effect =
      (code.call bank sink callsLeft callee).effect := by
  obtain ⟨label, source, target, rfl, nonzero, resolved⟩ :=
    link?_eq_some code bank instruction callee linked
  rw [call_jnz_of_resolved code bank sink callsLeft label source target callee nonzero resolved,
    Outcome.effect_after]

theorem call_eq_of_unlinked (left right : Code) (bank : Bank) (sink : σ) (callsLeft : Nat)
    (instruction : Instruction) (unlinked : left.link? bank instruction = none)
    (unlinked' : right.link? bank instruction = none) :
    left.call bank sink callsLeft instruction = right.call bank sink callsLeft instruction := by
  rcases link?_eq_none left bank sink instruction unlinked with
    ⟨effect, performed⟩ | ⟨label, source, target, rfl, zero | ⟨nonzero, -⟩⟩
  · rw [call_of_perform left bank sink callsLeft instruction effect performed,
      call_of_perform right bank sink callsLeft instruction effect performed]
  · rw [call_jnz_of_zero left bank sink callsLeft label source target zero,
      call_jnz_of_zero right bank sink callsLeft label source target zero]
  · rw [link?_jnz left bank label source target nonzero] at unlinked
    rw [link?_jnz right bank label source target nonzero] at unlinked'
    rw [call_jnz_of_unresolved left bank sink callsLeft label source target nonzero unlinked,
      call_jnz_of_unresolved right bank sink callsLeft label source target nonzero unlinked']

/-- A call looks only at the links on its way: where two codes have the same links for as long
as the call goes on, they do the same. -/
theorem call_eq_of_links (left right : Code) (bank : Bank) (sink : σ)
    (onTheWay : Nat → Instruction → Prop)
    (links : ∀ callsLeft instruction, onTheWay callsLeft instruction →
      left.link? bank instruction = right.link? bank instruction)
    (next : ∀ callsLeft instruction callee, onTheWay (callsLeft + 1) instruction →
      left.link? bank instruction = some callee → onTheWay callsLeft callee)
    (callsLeft : Nat) (instruction : Instruction) (start : onTheWay callsLeft instruction) :
    left.call bank sink callsLeft instruction = right.call bank sink callsLeft instruction := by
  induction callsLeft generalizing instruction with
  | zero =>
      have same := links 0 instruction start
      cases linked : left.link? bank instruction with
      | none => exact call_eq_of_unlinked left right bank sink 0 instruction linked (same ▸ linked)
      | some callee =>
          obtain ⟨label, source, target, rfl, nonzero, resolved⟩ :=
            link?_eq_some left bank instruction callee linked
          have resolved' : right.callee? target = some callee := by
            rwa [← link?_jnz right bank label source target nonzero, ← same]
          rw [call_jnz_of_no_calls_left left bank sink label source target callee nonzero resolved,
            call_jnz_of_no_calls_left right bank sink label source target callee nonzero resolved']
  | succ callsLeft ih =>
      have same := links (callsLeft + 1) instruction start
      cases linked : left.link? bank instruction with
      | none => exact call_eq_of_unlinked left right bank sink _ instruction linked (same ▸ linked)
      | some callee =>
          obtain ⟨label, source, target, rfl, nonzero, resolved⟩ :=
            link?_eq_some left bank instruction callee linked
          have resolved' : right.callee? target = some callee := by
            rwa [← link?_jnz right bank label source target nonzero, ← same]
          rw [call_jnz_of_resolved left bank sink callsLeft label source target callee nonzero
              resolved,
            call_jnz_of_resolved right bank sink callsLeft label source target callee nonzero
              resolved',
            ih callee (next callsLeft _ callee start linked)]

theorem effect_call_of_chain (code : Code) (bank : Bank) (sink : σ) (first last : Instruction)
    (calls callsLeft : Nat) (reached : code.chain bank first calls = some last) :
    (code.call bank sink (callsLeft + calls) first).effect =
      (code.call bank sink callsLeft last).effect := by
  induction calls generalizing callsLeft last with
  | zero =>
      cases Option.some.inj reached
      rfl
  | succ calls ih =>
      obtain ⟨middle, before, linked⟩ := Option.bind_eq_some_iff.mp reached
      have shifted : callsLeft + (calls + 1) = callsLeft + 1 + calls := by omega
      rw [shifted, ih middle (callsLeft + 1) before,
        effect_call_of_link code bank sink callsLeft middle last linked]

theorem effect_execute_of_chain (code : Code) (bank : Bank) (sink : σ)
    (first last : Instruction) (calls : Nat) (few : calls ≤ 1024)
    (reached : code.chain bank first calls = some last) :
    (code.execute first bank sink).effect =
      (code.call bank sink (1024 - calls) last).effect := by
  rw [← effect_call_of_chain code bank sink first last calls (1024 - calls) reached,
    Nat.sub_add_cancel few]
  rfl

/-! ## Execution -/

theorem ChainEffect.sound {code : Code} {bank : Bank} {sink : σ} {first : Instruction}
    {effect : Effect Unit Bank σ} (said : ChainEffect code bank sink first effect) :
    (code.execute first bank sink).effect = effect := by
  cases said with
  | performed calls last _ few reached performed =>
      rw [effect_execute_of_chain code bank sink first last calls few reached]
      exact effect_call_of_perform code bank sink _ last effect performed
  | notTaken calls label source target few reached zero =>
      rw [effect_execute_of_chain code bank sink first _ calls few reached,
        call_jnz_of_zero code bank sink _ label source target zero]
      rfl
  | unresolved calls label source target few reached nonzero unresolved =>
      rw [effect_execute_of_chain code bank sink first _ calls few reached,
        call_jnz_of_unresolved code bank sink _ label source target nonzero
          ((callee?_eq_none_iff code target).mpr unresolved)]
      rfl
  | tooDeep last next reached further =>
      have linked : code.link? bank last = some next := by
        rwa [chain, reached, Option.bind_some] at further
      obtain ⟨label, source, target, rfl, nonzero, resolved⟩ :=
        link?_eq_some code bank last next linked
      rw [effect_execute_of_chain code bank sink first _ 1024 (Nat.le_refl 1024) reached,
        Nat.sub_self,
        call_jnz_of_no_calls_left code bank sink label source target next nonzero resolved]
      rfl

/-- Every chain says something: it ends within 1024 calls, or goes on after them. -/
theorem exists_chainEffect (code : Code) (bank : Bank) (sink : σ) (first : Instruction) :
    ∃ effect, ChainEffect code bank sink first effect := by
  rcases chain_ends_or_continues code bank first 1025 with
    ⟨calls, last, fewer, reached, unlinked⟩ | ⟨next, further⟩
  · have few : calls ≤ 1024 := by omega
    rcases link?_eq_none code bank sink last unlinked with
      ⟨effect, performed⟩ | ⟨label, source, target, rfl, zero | ⟨nonzero, unresolved⟩⟩
    · exact ⟨effect, .performed calls last effect few reached performed⟩
    · exact ⟨_, .notTaken calls label source target few reached zero⟩
    · exact ⟨_, .unresolved calls label source target few reached nonzero unresolved⟩
  · obtain ⟨last, reached, -⟩ := Option.bind_eq_some_iff.mp further
    exact ⟨_, .tooDeep last next reached further⟩

inductive Cause (code : Code) (bank : Bank) (sink : σ) (first : Instruction) : Fault → Prop
  | divided (calls : Nat) (last : Instruction) (result source : Register)
      (reached : code.chain bank first calls = some last)
      (divides : last.operation = .arithmetic .div result source) :
      Cause code bank sink first (.divisionByZero last.text)
  | refused (calls : Nat) (last : Instruction) (source : Register) (reason : String)
      (reached : code.chain bank first calls = some last)
      (prints : last.operation = .out source)
      (refusal : (Sink.write sink (bank.line source)).1 = .error reason) :
      Cause code bank sink first (.outputFailed reason)
  | unresolved (calls : Nat) (label : Option String) (source : Register) (target : String)
      (reached : code.chain bank first calls = some ⟨label, .jnz source target⟩)
      (unresolved : code.Unresolved target) :
      Cause code bank sink first (.undefinedLabel target)
  | tooDeep (last next : Instruction) (further : code.chain bank first 1025 = some next) :
      Cause code bank sink first (.jumpTooDeep 1024 last.text)

theorem cause_of_execute (code : Code) (bank : Bank) (sink : σ) (first : Instruction)
    (fault : Fault) (failed : (code.execute first bank sink).result = .error fault) :
    code.Cause bank sink first fault := by
  obtain ⟨effect, said⟩ := exists_chainEffect code bank sink first
  have result : effect.result = .error fault := by
    rw [← said.sound]
    exact failed
  cases said with
  | performed calls last _ few reached performed =>
      rcases last.perform?_fault bank sink effect fault performed result with
        ⟨register, source, divides, rfl⟩ | ⟨source, reason, prints, refusal, rfl⟩
      · exact .divided calls last register source reached divides
      · exact .refused calls last source reason reached prints refusal
  | notTaken => contradiction
  | unresolved calls label source target few reached nonzero unresolved =>
      cases result
      exact .unresolved calls label source target reached unresolved
  | tooDeep last next reached further =>
      cases result
      exact .tooDeep last next further

/-- A name is reported as undefined only if it names no instruction. -/
theorem unresolved_of_execute (code : Code) (bank : Bank) (sink : σ) (first : Instruction)
    (name : String)
    (failed : (code.execute first bank sink).result = .error (.undefinedLabel name)) :
    code.Unresolved name := by
  cases code.cause_of_execute bank sink first _ failed with
  | unresolved calls label source target reached unresolved => exact unresolved

/-- Executing an instruction has exactly the effect that its chain says. -/
theorem effect_execute_iff_chainEffect (code : Code) (bank : Bank) (sink : σ)
    (first : Instruction) (effect : Effect Unit Bank σ) :
    (code.execute first bank sink).effect = effect ↔
      ChainEffect code bank sink first effect := by
  constructor
  · intro executed
    obtain ⟨found, said⟩ := exists_chainEffect code bank sink first
    rwa [← executed, said.sound]
  · intro said
    exact said.sound

end Code

end RegisterMachine
