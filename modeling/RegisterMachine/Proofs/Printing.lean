import Mathlib.Data.List.Basic
import RegisterMachine.Proofs.CallChain
import RegisterMachine.Machine

/-!
# What is printed

A turn prints at most one line, and what it prints is settled before the sink is asked.  So a turn
has one course with all sinks, up to the answer of the sink.  What has been printed stays, and each
of its characters is a byte.
-/

set_option autoImplicit false

namespace RegisterMachine

/-- What an act does with every sink: it prints nothing, or it prints one register and has nothing
more to do. -/
inductive Course (α state : Type)
  | silent (result : Except Fault α) (next : state) (log : List Event)
  | printing (bank : Bank) (source : Register) (value : α) (next : state) (log : List Event)

namespace Course

variable {α state σ : Type}

def outcome [Sink σ] (course : Course α state) (before : state) (sink : σ) :
    Outcome α state σ :=
  match course with
  | .silent result next log => ⟨result, next, sink, log⟩
  | .printing bank source value next log =>
      match Sink.write sink (bank.line source) with
      | (.ok (), after) => ⟨.ok value, next, after, log⟩
      | (.error reason, after) => ⟨.error (.outputFailed reason), before, after, log⟩

def after (course : Course α state) (events : List Event) : Course α state :=
  match course with
  | .silent result next log => .silent result next (events ++ log)
  | .printing bank source value next log => .printing bank source value next (events ++ log)

theorem outcome_after [Sink σ] (course : Course α state) (events : List Event) (before : state)
    (sink : σ) :
    (course.after events).outcome before sink = (course.outcome before sink).after events := by
  cases course with
  | silent result next log => rfl
  | printing bank source value next log =>
      simp only [after, outcome]
      rcases Sink.write sink (bank.line source) with ⟨written | reason, after⟩
      · rfl
      · rfl

theorem outcome_keeps [Sink σ] (course : Course α state) (before : state) (holds : σ → Prop)
    (kept : ∀ (sink : σ) (bank : Bank) source, holds sink →
      holds (Sink.write sink (bank.line source)).2)
    (sink : σ) (start : holds sink) : holds (course.outcome before sink).sink := by
  cases course with
  | silent result next log => exact start
  | printing bank source value next log =>
      have written := kept sink bank source start
      simp only [outcome]
      rcases answer : Sink.write sink (bank.line source) with ⟨reason | done, after⟩
      · rwa [answer] at written
      · rwa [answer] at written

end Course

/-! ## Courses of acts -/

namespace Code

theorem exists_course_of_unlinked (code : Code) (bank : Bank) (callsLeft : Nat)
    (instruction : Instruction) (unlinked : code.link? bank instruction = none) :
    ∃ course : Course Unit Bank, ∀ {σ : Type} [Sink σ] (sink : σ),
      code.call bank sink callsLeft instruction = course.outcome bank sink := by
  obtain ⟨label, operation⟩ := instruction
  cases operation with
  | arithmetic kind result source =>
      cases value : kind.apply (bank.get result) (bank.get source) with
      | some found =>
          refine ⟨.silent (.ok ()) (bank.set result found)
            [.executing ⟨label, .arithmetic kind result source⟩], fun sink => ?_⟩
          rw [call]
          simp only [value]
          rfl
      | none =>
          refine ⟨.silent
            (.error (.divisionByZero (Instruction.text ⟨label, .arithmetic kind result source⟩)))
            bank [.executing ⟨label, .arithmetic kind result source⟩], fun sink => ?_⟩
          rw [call]
          simp only [value]
          rfl
  | mov result value =>
      refine ⟨.silent (.ok ()) (bank.set result value) [.executing ⟨label, .mov result value⟩],
        fun sink => ?_⟩
      rw [call]
      rfl
  | out source =>
      refine ⟨.printing bank source () bank [.executing ⟨label, .out source⟩], fun sink => ?_⟩
      rw [call]
      rfl
  | jnz source target =>
      by_cases zero : bank.get source = 0
      · exact ⟨.silent _ _ _, fun sink =>
          call_jnz_of_zero code bank sink callsLeft label source target zero⟩
      · rw [link?_jnz code bank label source target zero] at unlinked
        exact ⟨.silent _ _ _, fun sink =>
          call_jnz_of_unresolved code bank sink callsLeft label source target zero unlinked⟩

theorem exists_course_of_call (code : Code) (bank : Bank) (callsLeft : Nat)
    (instruction : Instruction) :
    ∃ course : Course Unit Bank, ∀ {σ : Type} [Sink σ] (sink : σ),
      code.call bank sink callsLeft instruction = course.outcome bank sink := by
  induction callsLeft generalizing instruction with
  | zero =>
      cases linked : code.link? bank instruction with
      | none => exact exists_course_of_unlinked code bank 0 instruction linked
      | some callee =>
          obtain ⟨label, source, target, rfl, nonzero, resolved⟩ :=
            link?_eq_some code bank instruction callee linked
          exact ⟨.silent _ _ _, fun sink =>
            call_jnz_of_no_calls_left code bank sink label source target callee nonzero resolved⟩
  | succ callsLeft ih =>
      cases linked : code.link? bank instruction with
      | none => exact exists_course_of_unlinked code bank (callsLeft + 1) instruction linked
      | some callee =>
          obtain ⟨label, source, target, rfl, nonzero, resolved⟩ :=
            link?_eq_some code bank instruction callee linked
          obtain ⟨course, same⟩ := ih callee
          refine ⟨course.after [.executing ⟨label, .jnz source target⟩], fun sink => ?_⟩
          rw [call_jnz_of_resolved code bank sink callsLeft label source target callee nonzero
            resolved, same, Course.outcome_after]

end Code

namespace Machine

def turnOf (machine : Machine) : Course Unit Bank → Course Bool Machine
  | .silent (.ok ()) bank log =>
      let next := { machine with bank := bank }.advance
      .silent (.ok (!next.isFinished)) next log
  | .silent (.error fault) bank log => .silent (.error fault) { machine with bank := bank } log
  | .printing bank source () next log =>
      let next := { machine with bank := next }.advance
      .printing bank source (!next.isFinished) next log

theorem step_of_course {σ : Type} [Sink σ] (machine : Machine) (sink : σ)
    (instruction : Instruction) (course : Course Unit Bank)
    (fetched : machine.code.program.get? machine.pc = some instruction)
    (unlabelled : instruction.isLabelled = false)
    (same : machine.code.execute instruction machine.bank sink =
      course.outcome machine.bank sink) :
    machine.step sink = (machine.turnOf course).outcome machine sink := by
  apply Turn.step_eq
  cases course with
  | silent result bank log =>
      cases result with
      | ok done => exact .executed instruction bank sink log fetched unlabelled same
      | error fault => exact .failed instruction fault bank sink log fetched unlabelled same
  | printing bank source value next log =>
      simp only [Course.outcome, turnOf] at same ⊢
      rcases answer : Sink.write sink (bank.line source) with ⟨reason | written, after⟩
      · rw [answer] at same
        exact .failed instruction _ machine.bank after log fetched unlabelled same
      · rw [answer] at same
        exact .executed instruction next after log fetched unlabelled same

/-- A turn is settled up to the answer of the sink. -/
theorem exists_course_of_step (machine : Machine) :
    ∃ course : Course Bool Machine, ∀ {σ : Type} [Sink σ] (sink : σ),
      machine.step sink = course.outcome machine sink := by
  cases fetched : machine.code.program.get? machine.pc with
  | none =>
      have past := (Program.get?_eq_none_iff machine.code.program machine.pc).mp fetched
      exact ⟨.silent _ _ _, fun sink => machine.step_of_finished sink past⟩
  | some instruction =>
      cases labelled : instruction.isLabelled with
      | true =>
          exact ⟨.silent _ _ _, fun sink =>
            machine.step_of_labelled sink instruction fetched labelled⟩
      | false =>
          obtain ⟨course, same⟩ :=
            machine.code.exists_course_of_call machine.bank maxCalls instruction
          exact ⟨machine.turnOf course, fun sink =>
            machine.step_of_course sink instruction course fetched labelled (same sink)⟩

section Sinks

variable {σ : Type} [Sink σ] (holds : σ → Prop)
  (kept : ∀ (sink : σ) (bank : Bank) source, holds sink →
    holds (Sink.write sink (bank.line source)).2)

include kept

theorem step_keeps_sink (machine : Machine) (sink : σ) (start : holds sink) :
    holds (machine.step sink).sink := by
  obtain ⟨course, same⟩ := machine.exists_course_of_step
  rw [same]
  exact course.outcome_keeps machine holds kept sink start

/-- What every line that is written keeps of the sink, any number of turns keeps. -/
theorem turns_keep_sink (count : Nat) (machine : Machine) (sink : σ) (start : holds sink) :
    holds (turns count machine sink).sink :=
  turns_keep (fun _ after => holds after)
    (fun next after held => next.step_keeps_sink holds kept after held) count machine sink start

end Sinks

theorem unlabelled_of_prints {σ : Type} [Sink σ] (machine : Machine) (sink : σ)
    (prints : (machine.step sink).sink ≠ sink) :
    ∃ instruction, machine.code.program.get? machine.pc = some instruction ∧
      instruction.isLabelled = false := by
  have turn := machine.turn_step sink
  generalize machine.step sink = outcome at turn prints
  cases turn with
  | finished => exact absurd rfl prints
  | skipped => exact absurd rfl prints
  | executed instruction bank after log fetched unlabelled =>
      exact ⟨instruction, fetched, unlabelled⟩
  | failed instruction fault bank after log fetched unlabelled =>
      exact ⟨instruction, fetched, unlabelled⟩

end Machine

/-! ## Texts that grow -/

theorem Output.write_extends (output : Output) (piece : String) :
    output.text.toList <+: (output.write piece).2.text.toList := by
  unfold Output.write
  split
  · rw [String.toList_append]
    exact List.prefix_append _ _
  · split
    · rw [String.toList_append]
      exact List.prefix_append _ _
    · rw [String.toList_append]
      exact List.prefix_append _ _

namespace Machine

theorem turns_extends (count : Nat) (machine : Machine) (output : Output) :
    output.text.toList <+: (turns count machine output).sink.text.toList :=
  turns_keep_sink (fun after : Output => output.text.toList <+: after.text.toList)
    (fun after _ _ longer => longer.trans (after.write_extends _)) count machine output
    List.prefix_rfl

theorem turns_extends_add (count more : Nat) (machine : Machine) (output : Output) :
    (turns count machine output).sink.text.toList <+:
      (turns (count + more) machine output).sink.text.toList := by
  by_cases going : (turns count machine output).result = .ok true
  · rw [turns_add_of_going count more machine output going]
    exact turns_extends more _ _
  · simp only [turns_add_of_stopped count more machine output going, List.prefix_rfl]

theorem turns_length_le (count : Nat) (machine : Machine) (output : Output) :
    output.text.length ≤ (turns count machine output).sink.text.length := by
  have longer := (turns_extends count machine output).length_le
  rwa [String.length_toList, String.length_toList] at longer

end Machine

/-! ## Bytes -/

def Text.Narrow (text : List Char) : Prop :=
  ∀ c ∈ text, c.utf8Size = 1

theorem Text.narrow_of_all (text : List Char) (all : text.all (·.utf8Size == 1) = true) :
    Text.Narrow text :=
  fun c member => beq_iff_eq.mp (List.all_eq_true.mp all c member)

theorem Text.narrow_append (left right : List Char) :
    Text.Narrow (left ++ right) ↔ Text.Narrow left ∧ Text.Narrow right :=
  List.forall_mem_append

theorem Text.narrow_take (text : List Char) (room : Nat) (narrow : Text.Narrow text) :
    Text.Narrow (text.take room) :=
  fun c member => narrow c (List.mem_of_mem_take member)

theorem Literal.digits_narrow (value : Int32) : Text.Narrow (Literal.digits value) := by
  have decimal (c : Char) (member : c ∈ Nat.toDigits 10 value.toInt.natAbs) : c.utf8Size = 1 := by
    have digit := Text.toDigits_all_isDigit value.toInt.natAbs c member
    simp only [Char.isDigit, ge_iff_le, Bool.and_eq_true, decide_eq_true_eq] at digit
    exact Char.utf8Size_eq_one_iff.mpr (UInt32.le_trans digit.2 (by decide))
  intro c member
  unfold digits at member
  split at member
  · rcases List.mem_cons.mp member with rfl | later
    · decide
    · exact decimal c later
  · exact decimal c member

theorem Bank.line_narrow (bank : Bank) (register : Register) :
    Text.Narrow (bank.line register).toList := by
  have name : Text.Narrow register.name.toList :=
    Text.narrow_of_all _ (by cases register <;> rfl)
  have dash : Text.Narrow " - ".toList := Text.narrow_of_all _ rfl
  have feed : Text.Narrow "\n".toList := Text.narrow_of_all _ rfl
  simp only [line, String.toList_append, Text.narrow_append, Literal.toList_text]
  exact ⟨⟨⟨name, dash⟩, Literal.digits_narrow _⟩, feed⟩

namespace Output

def bytes (output : Output) : List UInt8 :=
  output.text.toByteArray.data.toList

def Narrow (output : Output) : Prop :=
  Text.Narrow output.text.toList

theorem Narrow.bytes {output : Output} (narrow : output.Narrow) :
    output.bytes = output.text.toList.map fun c => c.val.toUInt8 := by
  have encoded : output.text.toByteArray = output.text.toList.utf8Encode := by
    rw [← String.toByteArray_ofList, String.ofList_toList]
  rw [Output.bytes, encoded, List.utf8Encode, List.data_toByteArray,
    List.flatMap_congr fun c member => String.utf8EncodeChar_eq_singleton (narrow c member)]
  exact List.map_eq_flatMap.symm

theorem Narrow.length_bytes {output : Output} (narrow : output.Narrow) :
    output.bytes.length = output.text.length := by
  rw [narrow.bytes, List.length_map, String.length_toList]

theorem write_narrow (output : Output) (bank : Bank) (register : Register)
    (narrow : output.Narrow) : (output.write (bank.line register)).2.Narrow := by
  have line := bank.line_narrow register
  unfold write
  split
  · simp only [Narrow, String.toList_append, Text.narrow_append]
    exact ⟨narrow, line⟩
  · split
    · simp only [Narrow, String.toList_append, Text.narrow_append]
      exact ⟨narrow, line⟩
    · simp only [Narrow, String.toList_append, String.toList_ofList, Text.narrow_append]
      exact ⟨narrow, Text.narrow_take _ _ line⟩

end Output

theorem Machine.step_narrow (machine : Machine) (output : Output) (narrow : output.Narrow) :
    (machine.step output).sink.Narrow :=
  machine.step_keeps_sink Output.Narrow Output.write_narrow output narrow

theorem Machine.turns_narrow (count : Nat) (machine : Machine) (output : Output)
    (narrow : output.Narrow) : (turns count machine output).sink.Narrow :=
  turns_keep_sink Output.Narrow Output.write_narrow count machine output narrow

end RegisterMachine
