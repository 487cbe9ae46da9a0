import RegisterMachine.Proofs.CallChain
import RegisterMachine.Proofs.JoinedTexts
import RegisterMachine.Proofs.Printing
import RegisterMachine.Proofs.Sequence

/-!
# Programs that grow

A text that is put behind another adds instructions behind those of the other, and it binds
more names.  What a name called before, it calls still.  So the longer program does turn by turn
what the shorter one does, until the shorter one ends, or until it jumps to a name that only the
longer one binds.
-/

set_option autoImplicit false

namespace RegisterMachine

theorem Program.get?_of_begins (short long : Program) (begins : short.toList <+: long.toList)
    (address : Nat) (instruction : Instruction) (fetched : short.get? address = some instruction) :
    long.get? address = some instruction := by
  obtain ⟨rest, joined⟩ := begins
  have inside : address < short.toList.length := by
    rw [← size_eq_length]
    exact short.lt_size_of_get? address instruction fetched
  rw [get?_eq_getElem?] at fetched ⊢
  rwa [← joined, List.getElem?_append_left inside]

/-! ## Codes inside longer ones -/

namespace Code

/-- The short program is the beginning of the long one, and what a name calls in the short code,
it calls in the long one. -/
structure EmbedsIn (short long : Code) : Prop where
  begins : short.program.toList <+: long.program.toList
  callees : ∀ name callee, short.callee? name = some callee → long.callee? name = some callee

theorem EmbedsIn.size_le {short long : Code} (embeds : short.EmbedsIn long) :
    short.program.size ≤ long.program.size := by
  rw [Program.size_eq_length, Program.size_eq_length]
  exact embeds.begins.length_le

theorem embedsIn_append (left right : Code) (apart : left.labels.Apart right.labels) :
    left.EmbedsIn (left.append right apart) := by
  have begins : left.program.toList <+: (left.append right apart).program.toList :=
    List.prefix_append left.program.toList right.program.toList
  refine ⟨begins, fun name callee called => ?_⟩
  unfold callee? at called ⊢
  cases bound : left.labels.address? name with
  | none =>
      rw [bound] at called
      contradiction
  | some address =>
      rw [bound] at called
      have bound' : (left.append right apart).labels.address? name = some address :=
        (Labels.address?_union _ _ _ apart name address).mpr (Or.inl bound)
      rw [bound']
      exact Program.get?_of_begins _ _ begins address callee called

variable {σ : Type} [Sink σ]

/-- A call that finds all its names does the same in a longer code. -/
theorem EmbedsIn.call {short long : Code} (embeds : short.EmbedsIn long) (bank : Bank) (sink : σ)
    (callsLeft : Nat) (instruction : Instruction)
    (found : ∀ name,
      (short.call bank sink callsLeft instruction).result ≠ .error (.undefinedLabel name)) :
    short.call bank sink callsLeft instruction = long.call bank sink callsLeft instruction := by
  apply call_eq_of_links short long bank sink fun callsLeft onTheWay =>
    ∀ name, (short.call bank sink callsLeft onTheWay).result ≠ .error (.undefinedLabel name)
  · intro callsLeft ⟨label, operation⟩ found
    cases operation with
    | jnz source target =>
        by_cases zero : bank.get source = 0
        · simp only [link?, if_pos zero]
        · rw [link?_jnz short bank label source target zero,
            link?_jnz long bank label source target zero]
          cases called : short.callee? target with
          | some callee => exact (embeds.callees target callee called).symm
          | none =>
              refine absurd ?_ (found target)
              rw [call_jnz_of_unresolved short bank sink callsLeft label source target zero called]
    | arithmetic kind result source => rfl
    | mov result value => rfl
    | out source => rfl
  · intro callsLeft onTheWay callee found linked name
    obtain ⟨label, source, target, rfl, nonzero, resolved⟩ :=
      link?_eq_some short bank onTheWay callee linked
    have kept := found name
    rwa [call_jnz_of_resolved short bank sink callsLeft label source target callee nonzero
      resolved] at kept
  · exact found

end Code

/-! ## Turns in a longer code -/

namespace Machine

variable {σ : Type} [Sink σ]

def withCode (machine : Machine) (code : Code) : Machine :=
  { machine with code := code }

theorem isFinished_withCode (machine : Machine) (long : Code)
    (embeds : machine.code.EmbedsIn long) (goes : machine.isFinished = false) :
    (machine.withCode long).isFinished = false := by
  rw [isFinished_eq_false_iff] at goes ⊢
  exact Nat.lt_of_lt_of_le goes embeds.size_le

theorem step_withCode (machine : Machine) (long : Code) (embeds : machine.code.EmbedsIn long)
    (sink : σ) (inside : machine.pc < machine.size)
    (found : ∀ name, (machine.step sink).result ≠ .error (.undefinedLabel name)) :
    ((machine.withCode long).step sink).result = (machine.step sink).result.map (fun _ =>
        !((machine.step sink).state.withCode long).isFinished) ∧
      ((machine.withCode long).step sink).state = (machine.step sink).state.withCode long ∧
      ((machine.withCode long).step sink).sink = (machine.step sink).sink := by
  have turn := machine.turn_step sink
  generalize machine.step sink = outcome at turn found ⊢
  have fetch := Program.get?_of_begins _ _ embeds.begins machine.pc
  cases turn with
  | finished past => exact absurd past (Nat.not_le.mpr inside)
  | skipped instruction fetched labelled =>
      have longTurn : Turn (machine.withCode long) sink _ :=
        .skipped instruction (fetch instruction fetched) labelled
      rw [longTurn.step_eq]
      exact ⟨rfl, rfl, rfl⟩
  | executed instruction bank after log fetched unlabelled success =>
      have same : machine.code.execute instruction machine.bank sink =
          long.execute instruction machine.bank sink :=
        embeds.call machine.bank sink maxCalls instruction (by
          rw [← Code.execute, success]
          exact nofun)
      have longTurn : Turn (machine.withCode long) sink _ :=
        .executed instruction bank after log (fetch instruction fetched) unlabelled
          (same.symm.trans success)
      rw [longTurn.step_eq]
      exact ⟨rfl, rfl, rfl⟩
  | failed instruction fault bank after log fetched unlabelled failure =>
      have same : machine.code.execute instruction machine.bank sink =
          long.execute instruction machine.bank sink :=
        embeds.call machine.bank sink maxCalls instruction (by
          rw [← Code.execute, failure]
          exact fun name unbound => found name (congrArg Except.error (Except.error.inj unbound)))
      have longTurn : Turn (machine.withCode long) sink _ :=
        .failed instruction fault bank after log (fetch instruction fetched) unlabelled
          (same.symm.trans failure)
      rw [longTurn.step_eq]
      exact ⟨rfl, rfl, rfl⟩

theorem turns_withCode (count : Nat) (machine : Machine) (long : Code)
    (embeds : machine.code.EmbedsIn long) (sink : σ) (place : machine.pc + count = machine.size)
    (found : ∀ name, (turns count machine sink).result ≠ .error (.undefinedLabel name)) :
    ∃ going,
      (turns count (machine.withCode long) sink).result =
          (turns count machine sink).result.map (fun _ => going) ∧
        (turns count (machine.withCode long) sink).state =
          (turns count machine sink).state.withCode long ∧
        (turns count (machine.withCode long) sink).sink = (turns count machine sink).sink := by
  induction count generalizing machine sink with
  | zero => exact ⟨true, rfl, rfl, rfl⟩
  | succ count ih =>
      have inside : machine.pc < machine.size := by omega
      have stepFound : ∀ name, (machine.step sink).result ≠ .error (.undefinedLabel name) := by
        intro name unbound
        apply found name
        rw [turns_succ_of_stopped count machine sink (by rw [unbound]; exact nofun), unbound]
      obtain ⟨longResult, longState, longSink⟩ :=
        machine.step_withCode long embeds sink inside stepFound
      cases result : (machine.step sink).result with
      | error fault =>
          rw [result] at longResult
          rw [turns_succ_of_stopped count machine sink (by rw [result]; exact nofun),
            turns_succ_of_stopped count _ sink (by rw [longResult]; exact nofun), result]
          exact ⟨_, longResult, longState, longSink⟩
      | ok going =>
          obtain ⟨code, pc, unfinished⟩ := machine.step_moves sink inside going result
          rw [result] at longResult
          rcases Nat.eq_zero_or_pos count with rfl | more
          · obtain ⟨oneResult, oneState, oneSink⟩ := turns_one machine sink
            obtain ⟨longOneResult, longOneState, longOneSink⟩ :=
              turns_one (machine.withCode long) sink
            rw [oneResult, oneState, oneSink, longOneResult, longOneState, longOneSink, result]
            exact ⟨_, longResult, longState, longSink⟩
          · have size : (machine.step sink).state.size = machine.size :=
              congrArg (·.program.size) code
            have goes : (machine.step sink).state.isFinished = false := by
              rw [isFinished_eq_false_iff, pc, size]
              omega
            have stillEmbeds : (machine.step sink).state.code.EmbedsIn long := by rwa [code]
            rw [goes] at unfinished
            subst unfinished
            rw [isFinished_withCode _ long stillEmbeds goes] at longResult
            rw [turns_succ_of_going count machine sink result] at found ⊢
            rw [turns_succ_of_going count _ sink longResult, longState, longSink]
            exact ih _ stillEmbeds _ (by omega) found

/-! ## Runs of a longer program -/

/-- The run of the long machine does what the run of the short one does, which may be followed by
more. -/
structure Continues (short long : Machine) (sink : σ) : Prop where
  passes : (short.run sink).result = .ok () →
    (short.run sink).state.pc = short.size ∧
      ∃ going, (turns short.size long.reset sink).effect =
        ⟨.ok going, (short.run sink).state.withCode long.code, (short.run sink).sink⟩
  fails_alike : ∀ fault, (short.run sink).result = .error fault →
    (∀ name, fault ≠ .undefinedLabel name) →
      (long.run sink).effect =
        ⟨.error fault, (short.run sink).state.withCode long.code, (short.run sink).sink⟩

theorem continues_of_embedsIn (short long : Machine) (embeds : short.code.EmbedsIn long.code)
    (sink : σ) : Continues short long sink := by
  obtain ⟨result, state, after⟩ := short.run_of_size_turns sink
  have longTurns := turns_withCode short.size short.reset long.code embeds sink (Nat.zero_add _)
  have start : short.reset.withCode long.code = long.reset := rfl
  rw [start] at longTurns
  constructor
  · intro success
    refine ⟨short.run_pc_of_ok sink success, ?_⟩
    cases ended : (turns short.size short.reset sink).result with
    | error fault =>
        rw [result, ended] at success
        contradiction
    | ok more =>
        rw [ended] at longTurns
        obtain ⟨going, longResult, longState, longSink⟩ := longTurns nofun
        rw [state, after]
        exact ⟨going, Effect.ext longResult longState longSink⟩
  · intro fault failure defined
    have ended : (turns short.size short.reset sink).result = .error fault :=
      (Outcome.map_result_eq_error_iff _ _ fault).mp (result.symm.trans failure)
    rw [ended] at longTurns
    obtain ⟨going, longResult, longState, longSink⟩ :=
      longTurns fun name unbound => defined name (Except.error.inj unbound)
    have few : short.size ≤ max 1 long.size :=
      Nat.le_trans embeds.size_le (Nat.le_max_right 1 long.size)
    rw [long.run_of_stopped_turns sink short.size few (by rw [longResult]; exact nofun), state,
      after]
    exact Effect.ext (congrArg (Except.map fun _ => ()) longResult) longState longSink

theorem Continues.output_grows {short long : Machine} {output : Output}
    (continues : Continues short long output) (longer : short.size ≤ long.size)
    (success : (short.run output).result = .ok ()) :
    (short.run output).sink.text.toList <+: (long.run output).sink.text.toList := by
  obtain ⟨-, going, reached⟩ := continues.passes success
  obtain ⟨more, count⟩ := Nat.exists_eq_add_of_le (Nat.le_trans longer (Nat.le_max_right 1 _))
  have grown := turns_extends_add short.size more long.reset output
  rw [← count, ← Outcome.sink_effect, reached] at grown
  exact grown

/-- A text behind another changes what the other does only where the other alone jumps to a name
that it does not bind. -/
theorem run_of_longer_text (machine : Machine) (first second : String)
    (loaded : (machine.loadText (first ++ "\n" ++ second)).1.result = .ok ()) :
    (machine.loadText first).1.result = .ok () ∧
      (∀ {σ : Type} [Sink σ] (sink : σ),
        Continues (machine.loadText first).2 (machine.loadText (first ++ "\n" ++ second)).2 sink) ∧
      ∀ output : Output, ((machine.loadText first).2.run output).result = .ok () →
        ((machine.loadText first).2.run output).sink.text.toList <+:
          ((machine.loadText (first ++ "\n" ++ second)).2.run output).sink.text.toList := by
  rcases machine.loadText_cases (first ++ "\n" ++ second) with
    ⟨long, assembled, -, loadedLong⟩ | ⟨located, -, failed, -⟩
  case inr =>
    rw [failed] at loaded
    contradiction
  rcases machine.loadText_cases first with ⟨left, assembledFirst, done, loadedFirst⟩ |
    ⟨located, failed, -⟩
  case inr =>
    rw [Code.ofText_joined_of_error first second located failed] at assembled
    contradiction
  obtain ⟨right, apart, -, joined⟩ | ⟨located, -, failed⟩ :=
    Code.ofText_joined_cases first second left assembledFirst
  case inr =>
    rw [failed] at assembled
    contradiction
  cases Except.ok.inj (assembled.symm.trans joined)
  rw [loadedFirst, loadedLong]
  have embeds := Code.embedsIn_append left right apart
  have continues {σ : Type} [Sink σ] (sink : σ) :
      Continues (machine.load left) (machine.load (left.append right apart)) sink :=
    continues_of_embedsIn _ _ embeds sink
  exact ⟨done, continues, fun output => (continues output).output_grows embeds.size_le⟩

def printAndFail : String := "a: out EAX\nmov EAX 7\njnz EAX a\ndiv EAX EBX"

def printAndEnd : String := "mov ECX 2\nb: out ECX\njnz ECX b"

theorem run_printAndFail_with_more_behind :
    (((ofBank Bank.zero).loadText printAndFail).2.run Output.unlimited).result =
        .error (.divisionByZero "div EAX EBX") ∧
      (((ofBank Bank.zero).loadText (printAndFail ++ "\n" ++ printAndEnd)).2.run
          Output.unlimited).effect =
        ⟨.error (.divisionByZero "div EAX EBX"),
          (((ofBank Bank.zero).loadText printAndFail).2.run Output.unlimited).state.withCode
            ((ofBank Bank.zero).loadText (printAndFail ++ "\n" ++ printAndEnd)).2.code,
          ⟨none, "EAX - 7\n"⟩⟩ ∧
      (((ofBank Bank.zero).loadText printAndEnd).2.run Output.unlimited).sink.text = "ECX - 2\n" ∧
      "ECX - 2\n".toList <+: (((ofBank Bank.zero).loadText
        (printAndEnd ++ "\n" ++ printAndFail)).2.run Output.unlimited).sink.text.toList := by
  obtain ⟨-, continues, -⟩ :=
    run_of_longer_text (ofBank Bank.zero) printAndFail printAndEnd (by decide +kernel)
  obtain ⟨-, -, grows⟩ :=
    run_of_longer_text (ofBank Bank.zero) printAndEnd printAndFail (by decide +kernel)
  have failure : (((ofBank Bank.zero).loadText printAndFail).2.run Output.unlimited).result =
      .error (.divisionByZero "div EAX EBX") := by decide +kernel
  have printed : (((ofBank Bank.zero).loadText printAndFail).2.run Output.unlimited).sink =
      ⟨none, "EAX - 7\n"⟩ := by decide +kernel
  have ended : (((ofBank Bank.zero).loadText printAndEnd).2.run Output.unlimited).sink.text =
      "ECX - 2\n" := by decide +kernel
  have alike := (continues Output.unlimited).fails_alike _ failure nofun
  have longer := grows Output.unlimited (by decide +kernel)
  rw [printed] at alike
  rw [ended] at longer
  exact ⟨failure, alike, ended, longer⟩

end Machine

end RegisterMachine
