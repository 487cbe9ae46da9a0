import RegisterMachine.Machine
import RegisterMachine.Proofs.EndlessChains
import RegisterMachine.Proofs.Refilling

/-!
# What a log tells

The log of an assembly has one record for each instruction of the code that was reached, with the
address of the instruction, and none for a line that was kept out.  The log of a turn has one record
for each instruction of the chain that the turn walked, and one more where that chain ended in a
jump that was not taken.  So the log can be written down from the code and the bank without
assembling or executing anything.
-/

set_option autoImplicit false

namespace RegisterMachine

def Event.records (verbosity : Nat) (log : List Event) : List String :=
  (shown verbosity log).map text

theorem Event.records_trace (log : List Event) : records 3 log = log.map text := by
  have all : shown 3 log = log :=
    List.filter_eq_self.mpr fun event _ => by cases event <;> rfl
  rw [records, all]

/-! ## Single records -/

theorem Event.text_assembled (address : Nat) (instruction : Instruction) :
    text (.assembled address instruction) =
      "DEBUG smlvm::sml::asm " ++ Text.decimalIn 4 address ++ ": " ++ instruction.text := by
  have shown : text (.assembled address instruction) =
      "DEBUG smlvm::sml::asm " ++ (Text.decimalIn 4 address ++ ": " ++ instruction.text) := rfl
  rw [shown, ← String.append_assoc, ← String.append_assoc]

theorem Event.text_skipped (address : Nat) (instruction : Instruction) :
    text (.skipped address instruction) =
      "TRACE smlvm::sml::machine skip " ++ Text.decimal address ++ ": " ++ instruction.text := by
  have shown : text (.skipped address instruction) = "TRACE smlvm::sml::machine " ++
      ("skip " ++ Text.decimal address ++ ": " ++ instruction.text) := rfl
  have reporter : "TRACE smlvm::sml::machine " ++ "skip " = "TRACE smlvm::sml::machine skip " := rfl
  rw [shown, ← String.append_assoc, ← String.append_assoc, ← String.append_assoc, reporter]

theorem Event.text_executing (instruction : Instruction) :
    text (.executing instruction) = "TRACE smlvm::sml::exec exec " ++ instruction.text := by
  have shown : text (.executing instruction) =
      "TRACE smlvm::sml::exec " ++ ("exec " ++ instruction.text) := rfl
  have reporter : "TRACE smlvm::sml::exec " ++ "exec " = "TRACE smlvm::sml::exec exec " := rfl
  rw [shown, ← String.append_assoc, reporter]

theorem Event.text_notTaken (instruction : Instruction) (source : Register) :
    text (.notTaken instruction source) =
      "DEBUG smlvm::sml::exec did not execute `" ++ instruction.text ++ "` as " ++ source.name ++
        " = 0" := by
  have shown : text (.notTaken instruction source) = "DEBUG smlvm::sml::exec " ++
      ("did not execute `" ++ instruction.text ++ "` as " ++ source.name ++ " = 0") := rfl
  have reporter : "DEBUG smlvm::sml::exec " ++ "did not execute `" =
      "DEBUG smlvm::sml::exec did not execute `" := rfl
  rw [shown, ← String.append_assoc, ← String.append_assoc, ← String.append_assoc,
    ← String.append_assoc, reporter]

theorem Event.records_executing (instructions : List Instruction) (events : List Event) :
    records 3 (instructions.map executing ++ events) =
      (instructions.map fun instruction => "TRACE smlvm::sml::exec exec " ++ instruction.text) ++
        events.map text := by
  rw [records_trace, List.map_append, List.map_map]
  exact congrArg (· ++ events.map text)
    (List.map_congr_left fun instruction _ => text_executing instruction)

/-! ## Assembly -/

def Event.assembling (address : Nat) (instructions : List Instruction) : List Event :=
  (instructions.zipIdx address).map fun entry => .assembled entry.2 entry.1

theorem Event.assembling_append (address : Nat) (first second : List Instruction) :
    assembling address (first ++ second) =
      assembling address first ++ assembling (address + first.length) second := by
  rw [assembling, List.zipIdx_append, List.map_append]
  rfl

theorem Event.records_assembling (address : Nat) (instructions : List Instruction) :
    records 2 (assembling address instructions) =
      (instructions.zipIdx address).map fun entry =>
        "DEBUG smlvm::sml::asm " ++ Text.decimalIn 4 entry.2 ++ ": " ++ entry.1.text := by
  have all : shown 2 (assembling address instructions) = assembling address instructions := by
    refine List.filter_eq_self.mpr fun event member => ?_
    obtain ⟨entry, -, rfl⟩ := List.mem_map.mp member
    rfl
  rw [records, all, assembling, List.map_map]
  exact List.map_congr_left fun entry _ => text_assembled entry.2 entry.1

namespace Code

theorem addLine_log (code extended : Code) (line : String) (log : List Event)
    (added : code.addLine line = .ok (extended, log)) :
    ∃ instructions, extended.program.toList = code.program.toList ++ instructions ∧
      log = Event.assembling code.program.size instructions := by
  unfold addLine at added
  cases read : Instruction.ofLine line with
  | error fault => rw [read] at added; contradiction
  | ok found =>
      rw [read] at added
      cases found with
      | none =>
          cases added
          exact ⟨[], (List.append_nil _).symm, rfl⟩
      | some instruction =>
          simp only [bind, Except.bind] at added
          cases pushed : code.push instruction with
          | error fault => rw [pushed] at added; contradiction
          | ok longer =>
              rw [pushed] at added
              cases added
              rw [push_program code extended instruction pushed, Program.toList_push]
              exact ⟨[instruction], rfl, rfl⟩

theorem addLines_log (code : Code) (index : Nat) (lines : List String) :
    ∃ instructions,
      (code.addLines index lines).code.program.toList = code.program.toList ++ instructions ∧
        (code.addLines index lines).log = Event.assembling code.program.size instructions := by
  induction lines generalizing code index with
  | nil => exact ⟨[], (List.append_nil _).symm, rfl⟩
  | cons line rest ih =>
      rw [addLines]
      cases added : code.addLine line with
      | error fault => exact ⟨[], (List.append_nil _).symm, rfl⟩
      | ok found =>
          obtain ⟨extended, log⟩ := found
          obtain ⟨first, program, reported⟩ := code.addLine_log extended line log added
          obtain ⟨others, programs, reports⟩ := ih extended (index + 1)
          refine ⟨first ++ others, ?_, ?_⟩
          · rw [programs, program, List.append_assoc]
          · have size : extended.program.size = code.program.size + first.length := by
              rw [Program.size_eq_length, program, List.length_append, ← Program.size_eq_length]
            rw [Event.assembling_append, ← reported, ← size, ← reports]

theorem refill_log (code : Code) (text : String) :
    (code.refill text).log = Event.assembling 0 (code.refill text).code.program.toList := by
  obtain ⟨instructions, program, reports⟩ := empty.addLines_log 0 (Text.lines text)
  rw [refill, clear_eq_empty, reports, program]
  rfl

/-- What is left after a fault is the code of the lines before it. -/
theorem refill_holds (code : Code) (text : String) :
    ((code.refill text).result = .ok () → (code.refill text).code.Holds (Text.lines text)) ∧
      ∀ located, (code.refill text).result = .error located →
        (code.refill text).code.Holds ((Text.lines text).take located.line) := by
  rw [refill_eq code text, refill, clear_eq_empty]
  rcases stops_addLines (Text.lines text) with ⟨done, held, -⟩ | ⟨found, failed, held, -⟩
  · refine ⟨fun _ => held, fun located failed => ?_⟩
    rw [done] at failed
    contradiction
  · refine ⟨fun done => ?_, fun located same => ?_⟩
    · rw [failed] at done
      contradiction
    · rwa [Except.error.inj (same.symm.trans failed)]

/-! ## Execution -/

/-- The instructions that are reached by at most this many calls, outermost first. -/
def walked (code : Code) (bank : Bank) : (calls : Nat) → Instruction → List Instruction
  | 0, first => [first]
  | calls + 1, first =>
      first ::
        match code.link? bank first with
        | some callee => code.walked bank calls callee
        | none => []

theorem walked_of_unlinked (code : Code) (bank : Bank) (calls : Nat) (first : Instruction)
    (unlinked : code.link? bank first = none) : code.walked bank calls first = [first] := by
  cases calls with
  | zero => rfl
  | succ calls => rw [walked, unlinked]

theorem walked_of_linked (code : Code) (bank : Bank) (calls : Nat) (first callee : Instruction)
    (linked : code.link? bank first = some callee) :
    code.walked bank (calls + 1) first = first :: code.walked bank calls callee := by
  rw [walked, linked]

theorem walked_ne_nil (code : Code) (bank : Bank) (calls : Nat) (first : Instruction) :
    code.walked bank calls first ≠ [] := by
  cases calls <;> exact List.cons_ne_nil _ _

theorem length_walked_le (code : Code) (bank : Bank) (calls : Nat) (first : Instruction) :
    (code.walked bank calls first).length ≤ calls + 1 := by
  induction calls generalizing first with
  | zero => exact Nat.le_refl 1
  | succ calls ih =>
      cases linked : code.link? bank first with
      | none => rw [walked_of_unlinked code bank _ first linked]; simp
      | some callee =>
          rw [walked_of_linked code bank calls first callee linked, List.length_cons]
          exact Nat.succ_le_succ (ih callee)

theorem getElem?_walked (code : Code) (bank : Bank) (calls place : Nat) (first : Instruction) :
    (code.walked bank calls first)[place]? =
      if place ≤ calls then code.chain bank first place else none := by
  induction calls generalizing first place with
  | zero => cases place <;> rfl
  | succ calls ih =>
      cases place with
      | zero => rfl
      | succ place =>
          cases linked : code.link? bank first with
          | none =>
              have ended : code.chain bank first (place + 1) = none := by
                have one : code.chain bank first 1 = none := linked
                rw [Nat.add_comm, chain_add, one, Option.bind_none]
              rw [walked_of_unlinked code bank _ first linked, ended, ite_self]
              rfl
          | some callee =>
              rw [walked_of_linked code bank calls first callee linked, List.getElem?_cons_succ, ih,
                chain_of_link code bank first callee place linked]
              simp

def refusal (bank : Bank) (last : Instruction) : List Event :=
  match last.operation with
  | .jnz source _ => if bank.get source = 0 then [.notTaken last source] else []
  | _ => []

theorem refusal_of_zero (bank : Bank) (last : Instruction) (source : Register) (target : String)
    (jump : last.operation = .jnz source target) (zero : bank.get source = 0) :
    refusal bank last = [.notTaken last source] := by
  rw [refusal, jump]
  exact if_pos zero

theorem refusal_of_nonzero (bank : Bank) (last : Instruction)
    (nonzero : ∀ source target, last.operation = .jnz source target → bank.get source ≠ 0) :
    refusal bank last = [] := by
  unfold refusal
  split
  · next source target jump => exact if_neg (nonzero source target jump)
  · rfl

variable {σ : Type} [Sink σ]

theorem end_of_perform (code : Code) (bank : Bank) (sink : σ) (instruction : Instruction)
    (effect : Effect Unit Bank σ) (performed : instruction.perform? bank sink = some effect) :
    code.link? bank instruction = none ∧ refusal bank instruction = [] := by
  obtain ⟨label, operation⟩ := instruction
  cases operation with
  | arithmetic kind result source => exact ⟨rfl, rfl⟩
  | mov result value => exact ⟨rfl, rfl⟩
  | out source => exact ⟨rfl, rfl⟩
  | jnz source target => contradiction

/-- A call reports each instruction on its way, and at the end a jump that was not taken. -/
theorem Calling.log_eq {code : Code} {bank : Bank} {sink : σ} {callsLeft : Nat}
    {first : Instruction} {outcome : Outcome Unit Bank σ}
    (calling : Calling code bank sink callsLeft first outcome) :
    ∃ last, (code.walked bank callsLeft first).getLast? = some last ∧
      outcome.log =
        (code.walked bank callsLeft first).map Event.executing ++ refusal bank last := by
  induction calling with
  | performed callsLeft instruction effect performed =>
      obtain ⟨unlinked, accepted⟩ := code.end_of_perform bank sink instruction effect performed
      rw [walked_of_unlinked code bank callsLeft instruction unlinked]
      exact ⟨instruction, rfl, by rw [accepted]; rfl⟩
  | notTaken callsLeft label source target zero =>
      have unlinked : code.link? bank ⟨label, .jnz source target⟩ = none := by simp [link?, zero]
      rw [walked_of_unlinked code bank callsLeft _ unlinked]
      exact ⟨_, rfl, by simp [refusal, zero]⟩
  | unresolved callsLeft label source target nonzero unresolved =>
      have unlinked : code.link? bank ⟨label, .jnz source target⟩ = none := by
        rw [link?_jnz code bank label source target nonzero, unresolved]
      rw [walked_of_unlinked code bank callsLeft _ unlinked]
      exact ⟨_, rfl, by simp [refusal, nonzero]⟩
  | tooDeep label source target callee nonzero resolved =>
      exact ⟨_, rfl, by simp [walked, refusal, nonzero]⟩
  | called callsLeft label source target callee outcome nonzero resolved rest ih =>
      obtain ⟨last, ends, log⟩ := ih
      have linked : code.link? bank ⟨label, .jnz source target⟩ = some callee := by
        rw [link?_jnz code bank label source target nonzero, resolved]
      rw [walked_of_linked code bank callsLeft _ callee linked]
      refine ⟨last, ?_, ?_⟩
      · rw [List.getLast?_cons_of_ne_nil (code.walked_ne_nil bank callsLeft callee), ends]
      · rw [Outcome.after, log]
        rfl

theorem Calling.length_walked_of_tooDeep {code : Code} {bank : Bank} {sink : σ} {callsLeft : Nat}
    {first : Instruction} {outcome : Outcome Unit Bank σ}
    (calling : Calling code bank sink callsLeft first outcome) (limit : Nat) (text : String)
    (failed : outcome.result = .error (.jumpTooDeep limit text)) :
    (code.walked bank callsLeft first).length = callsLeft + 1 := by
  induction calling with
  | performed callsLeft instruction effect performed =>
      rcases instruction.perform?_fault bank sink effect _ performed failed with
        ⟨_, _, -, other⟩ | ⟨_, _, -, -, other⟩
      · contradiction
      · contradiction
  | notTaken callsLeft label source target zero => contradiction
  | unresolved callsLeft label source target nonzero unresolved => cases failed
  | tooDeep label source target callee nonzero resolved => rfl
  | called callsLeft label source target callee outcome nonzero resolved rest ih =>
      have linked : code.link? bank ⟨label, .jnz source target⟩ = some callee := by
        rw [link?_jnz code bank label source target nonzero, resolved]
      rw [walked_of_linked code bank callsLeft _ callee linked, List.length_cons, ih failed]

end Code

namespace Machine

variable {σ : Type} [Sink σ]

theorem step_of_unlabelled (machine : Machine) (sink : σ) (instruction : Instruction)
    (fetched : machine.code.program.get? machine.pc = some instruction)
    (unlabelled : instruction.isLabelled = false) :
    (machine.step sink).log = (machine.code.execute instruction machine.bank sink).log ∧
      ∀ fault, (machine.step sink).result = .error fault →
        (machine.code.execute instruction machine.bank sink).result = .error fault := by
  have turn := machine.turn_step sink
  generalize machine.step sink = outcome at turn
  cases turn with
  | finished past =>
      rw [(Program.get?_eq_none_iff machine.code.program machine.pc).mpr past] at fetched
      contradiction
  | skipped found fetched' labelled =>
      cases fetched.symm.trans fetched'
      rw [unlabelled] at labelled
      contradiction
  | executed found bank after log fetched' unlabelled' success =>
      cases fetched.symm.trans fetched'
      rw [success]
      exact ⟨rfl, nofun⟩
  | failed found fault bank after log fetched' unlabelled' failure =>
      cases fetched.symm.trans fetched'
      rw [failure]
      exact ⟨rfl, fun other same => congrArg Except.error (Except.error.inj same)⟩

theorem exists_fetched (machine : Machine) (inside : machine.pc < machine.size) :
    ∃ instruction, machine.code.program.get? machine.pc = some instruction := by
  cases fetched : machine.code.program.get? machine.pc with
  | none =>
      have past := (Program.get?_eq_none_iff machine.code.program machine.pc).mp fetched
      exact absurd past (Nat.not_le.mpr inside)
  | some instruction => exact ⟨instruction, rfl⟩

theorem step_log_of_unlabelled (machine : Machine) (sink : σ) (instruction : Instruction)
    (fetched : machine.code.program.get? machine.pc = some instruction)
    (unlabelled : instruction.isLabelled = false) :
    ∃ last, (machine.code.walked machine.bank maxCalls instruction).getLast? = some last ∧
      (machine.step sink).log =
        (machine.code.walked machine.bank maxCalls instruction).map Event.executing ++
          Code.refusal machine.bank last := by
  rw [(machine.step_of_unlabelled sink instruction fetched unlabelled).1]
  exact (Code.calling_call machine.code machine.bank sink maxCalls instruction).log_eq

theorem length_walked_of_tooDeep (machine : Machine) (sink : σ) (instruction : Instruction)
    (fetched : machine.code.program.get? machine.pc = some instruction)
    (unlabelled : instruction.isLabelled = false) (limit : Nat) (text : String)
    (failed : (machine.step sink).result = .error (.jumpTooDeep limit text)) :
    (machine.code.walked machine.bank maxCalls instruction).length = 1025 := by
  have executed := (machine.step_of_unlabelled sink instruction fetched unlabelled).2 _ failed
  exact (Code.calling_call machine.code machine.bank sink maxCalls
    instruction).length_walked_of_tooDeep limit text executed

/-- The records of an assembly are those of the code that it reached, and the records of a turn are
those of the chain of calls that it made. -/
theorem log_accounts_for_assembly_and_turns (code : Code) (text : String) (machine : Machine)
    (sink : σ) :
    let assembly := code.refill text
    let records := Event.records 3 (machine.step sink).log
    (Event.records 2 assembly.log =
        assembly.code.program.toList.zipIdx.map fun entry =>
          "DEBUG smlvm::sml::asm " ++ Text.decimalIn 4 entry.2 ++ ": " ++ entry.1.text) ∧
      (assembly.result = .ok () →
        assembly.code.program.toList = (Text.lines text).filterMap Instruction.onLine?) ∧
      (∀ located, assembly.result = .error located →
        assembly.code.program.toList =
            ((Text.lines text).take located.line).filterMap Instruction.onLine? ∧
          Code.ofText (Text.beginning text located.line) = .ok assembly.code) ∧
      (machine.size ≤ machine.pc → (machine.step sink).log = []) ∧
      (machine.pc < machine.size →
        ∃ instruction, machine.code.program.get? machine.pc = some instruction ∧
          (instruction.isLabelled = true →
            records = ["TRACE smlvm::sml::machine skip " ++ Text.decimal machine.pc ++ ": " ++
              instruction.text]) ∧
          (instruction.isLabelled = false →
            let chain := machine.code.walked machine.bank 1024 instruction
            let executing := chain.map fun executed =>
              "TRACE smlvm::sml::exec exec " ++ executed.text
            chain.length ≤ 1025 ∧
              (∀ place, chain[place]? =
                if place ≤ 1024 then machine.code.chain machine.bank instruction place
                else none) ∧
              (∀ limit text, (machine.step sink).result = .error (.jumpTooDeep limit text) →
                chain.length = 1025) ∧
              ∃ last, chain.getLast? = some last ∧
                (∀ source target, last.operation = .jnz source target →
                  machine.bank.get source = 0 →
                  records = executing ++ ["DEBUG smlvm::sml::exec did not execute `" ++ last.text ++
                    "` as " ++ source.name ++ " = 0"]) ∧
                ((∀ source target, last.operation = .jnz source target →
                    machine.bank.get source ≠ 0) →
                  records = executing))) := by
  intro assembly records
  obtain ⟨whole, part⟩ := code.refill_holds text
  refine ⟨?_, fun done => (whole done).instructions, fun located failed =>
    ⟨(part located failed).instructions, ?_⟩, fun past => ?_, fun inside => ?_⟩
  · exact (congrArg (Event.records 2) (code.refill_log text)).trans
      (Event.records_assembling 0 assembly.code.program.toList)
  · exact Code.ofText_beginning_of_error text located
      ((Code.ofText_eq_error_iff text located).mpr failed)
  · rw [machine.step_of_finished sink past]
  · obtain ⟨instruction, fetched⟩ := machine.exists_fetched inside
    refine ⟨instruction, fetched, fun labelled => ?_, fun unlabelled => ?_⟩
    · change Event.records 3 (machine.step sink).log = _
      rw [machine.step_of_labelled sink instruction fetched labelled, Event.records_trace,
        List.map_singleton, Event.text_skipped]
    · intro chain executing
      obtain ⟨last, ends, log⟩ := machine.step_log_of_unlabelled sink instruction fetched unlabelled
      have reported : records = executing ++ (Code.refusal machine.bank last).map Event.text :=
        (congrArg (Event.records 3) log).trans (Event.records_executing chain _)
      refine ⟨machine.code.length_walked_le machine.bank 1024 instruction,
        fun place => machine.code.getElem?_walked machine.bank 1024 place instruction,
        machine.length_walked_of_tooDeep sink instruction fetched unlabelled, last, ends,
        fun source target jump zero => ?_, fun goes => ?_⟩
      · rw [reported, Code.refusal_of_zero machine.bank last source target jump zero,
          List.map_singleton, Event.text_notTaken]
      · rw [reported, Code.refusal_of_nonzero machine.bank last goes, List.map_nil,
          List.append_nil]

def idleRelay : Machine where
  code :=
    { program := .ofList [⟨none, .jnz .eax "next"⟩, ⟨some "next", .jnz .ebx "next"⟩]
      labels := ⟨[("next", 1)], by simp, by simp⟩ }
  bank := Bank.zero.set .eax 1
  pc := 0

theorem log_accounts_for_idle_relay :
    Event.records 3 (idleRelay.step Output.unlimited).log =
        ["TRACE smlvm::sml::exec exec jnz EAX next",
          "TRACE smlvm::sml::exec exec next: jnz EBX next",
          "DEBUG smlvm::sml::exec did not execute `next: jnz EBX next` as EBX = 0"] ∧
      Event.records 2 (Code.empty.refill "mov EAX 8\n\nx: out EAX\nx: mov EBX 1\n").log =
        ["DEBUG smlvm::sml::asm    0: mov EAX 8", "DEBUG smlvm::sml::asm    1: x: out EAX"] := by
  obtain ⟨assembled, -, -, -, turn⟩ := log_accounts_for_assembly_and_turns Code.empty
    "mov EAX 8\n\nx: out EAX\nx: mov EBX 1\n" idleRelay Output.unlimited
  obtain ⟨instruction, fetched, -, walks⟩ := turn (by decide)
  cases Option.some.inj fetched
  obtain ⟨-, -, -, last, ends, refused, -⟩ := walks rfl
  cases Option.some.inj ends
  exact ⟨(refused .ebx "next" rfl (by decide +kernel)).trans (by decide +kernel),
    assembled.trans (by decide +kernel)⟩

end Machine

end RegisterMachine
