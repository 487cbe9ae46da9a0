import RegisterMachine.Proofs.Printing

/-!
# Sinks with little room

A run into a sink with a limit goes along with the run into a sink without one until a line does
not fit.  There it stops, and its output is cut at the limit.
-/

set_option autoImplicit false

namespace RegisterMachine

/-! ## Sinks by what they were given -/

namespace Output

def boundless (text : String) : Output := ⟨none, text⟩

def filled (limit : Limit) (text : String) : Output :=
  ⟨some ⟨limit.room - text.length, limit.reason⟩, text⟩

def full (limit : Limit) (text : String) : Output :=
  ⟨some ⟨0, limit.reason⟩, String.ofList (text.toList.take limit.room)⟩

theorem write_boundless (text piece : String) :
    (boundless text).write piece = (.ok (), boundless (text ++ piece)) :=
  write_unlimited (boundless text) piece rfl

theorem write_filled_of_fits (limit : Limit) (text piece : String)
    (fits : (text ++ piece).length ≤ limit.room) :
    (filled limit text).write piece = (.ok (), filled limit (text ++ piece)) := by
  rw [String.length_append] at fits
  have enough : piece.length ≤ limit.room - text.length := by omega
  simp only [write, filled, if_pos enough, String.length_append, Nat.sub_sub]

theorem write_filled_of_overflows (limit : Limit) (text piece : String)
    (before : text.length ≤ limit.room) (overflows : limit.room < (text ++ piece).length) :
    (filled limit text).write piece = (.error limit.reason, full limit (text ++ piece)) := by
  rw [String.length_append] at overflows
  have short : ¬ piece.length ≤ limit.room - text.length := by omega
  have cut : (text ++ piece).toList.take limit.room =
      text.toList ++ piece.toList.take (limit.room - text.length) := by
    rw [String.toList_append, List.take_append, String.length_toList,
      List.take_of_length_le (by rw [String.length_toList]; exact before)]
  simp only [write, filled, full, if_neg short, cut, String.ofList_append, String.ofList_toList]

theorem full_of_prefix (limit : Limit) (text longer : String)
    (growing : text.toList <+: longer.toList) (beyond : limit.room ≤ text.length) :
    full limit longer = full limit text := by
  obtain ⟨rest, split⟩ := growing
  have cut : longer.toList.take limit.room = text.toList.take limit.room := by
    rw [← split, List.take_append_of_le_length (by rwa [String.length_toList])]
  simp only [full, cut]

theorem Narrow.bytes_full {text : String} (limit : Limit) (narrow : (boundless text).Narrow) :
    (full limit text).bytes = (boundless text).bytes.take limit.room := by
  have cut : (full limit text).text.toList = text.toList.take limit.room := String.toList_ofList
  have narrowCut : (full limit text).Narrow := by
    unfold Narrow
    rw [cut]
    exact Text.narrow_take text.toList limit.room narrow
  rw [narrowCut.bytes, narrow.bytes, cut, List.map_take]
  rfl

end Output

/-! ## One turn into two sinks -/

namespace Course

variable {α state : Type}

theorem exists_outcome_boundless (course : Course α state) (before : state) (text : String) :
    ∃ result next printed log, course.outcome before (Output.boundless text) =
      ⟨result, next, .boundless printed, log⟩ := by
  cases course with
  | silent result next log => exact ⟨result, next, text, log, rfl⟩
  | printing bank source value next log =>
      refine ⟨.ok value, next, text ++ bank.line source, log, ?_⟩
      simp only [outcome, Output.sink_write, Output.write_boundless]

theorem outcome_filled_of_fits (course : Course α state) (before next : state) (limit : Limit)
    (text printed : String) (result : Except Fault α) (log : List Event)
    (free : course.outcome before (Output.boundless text) =
      ⟨result, next, .boundless printed, log⟩)
    (fits : printed.length ≤ limit.room) :
    course.outcome before (Output.filled limit text) =
      ⟨result, next, .filled limit printed, log⟩ := by
  cases course with
  | silent found after events =>
      cases free
      rfl
  | printing bank source value after events =>
      simp only [outcome, Output.sink_write, Output.write_boundless] at free ⊢
      cases free
      simp only [Output.write_filled_of_fits limit text _ fits]

theorem outcome_filled_of_overflows (course : Course α state) (before next : state)
    (limit : Limit) (text printed : String) (result : Except Fault α) (log : List Event)
    (free : course.outcome before (Output.boundless text) =
      ⟨result, next, .boundless printed, log⟩)
    (roomy : text.length ≤ limit.room) (overflows : limit.room < printed.length) :
    (course.outcome before (Output.filled limit text)).effect =
      ⟨.error (.outputFailed limit.reason), before, .full limit printed⟩ := by
  cases course with
  | silent found after events =>
      cases free
      exact absurd overflows (Nat.not_lt.mpr roomy)
  | printing bank source value after events =>
      simp only [outcome, Output.sink_write, Output.write_boundless] at free ⊢
      cases free
      simp only [Output.write_filled_of_overflows limit text _ roomy overflows, Outcome.effect]

end Course

namespace Machine

theorem turns_boundless (count : Nat) (machine : Machine) (text : String) :
    ∃ result last printed log, turns count machine (Output.boundless text) =
      ⟨result, last, .boundless printed, log⟩ := by
  have stays := turns_keep_sink (fun after : Output => ∃ printed, after = .boundless printed)
    (fun _ bank source ⟨printed, same⟩ => by
      rw [same, Output.sink_write, Output.write_boundless]
      exact ⟨_, rfl⟩) count machine (Output.boundless text) ⟨text, rfl⟩
  obtain ⟨printed, same⟩ := stays
  exact ⟨_, _, printed, _, by rw [← same]⟩

/-! ## Runs into two sinks -/

theorem turns_filled_of_fits (count : Nat) (machine last : Machine) (limit : Limit)
    (text printed : String) (result : Except Fault Bool) (log : List Event)
    (free : turns count machine (Output.boundless text) =
      ⟨result, last, .boundless printed, log⟩)
    (fits : printed.length ≤ limit.room) :
    turns count machine (Output.filled limit text) =
      ⟨result, last, .filled limit printed, log⟩ := by
  induction count generalizing machine text log with
  | zero =>
      cases free
      rfl
  | succ count ih =>
      obtain ⟨course, same⟩ := machine.exists_course_of_step
      obtain ⟨answer, next, sofar, events, stepped⟩ := course.exists_outcome_boundless machine text
      have fitting :=
        course.outcome_filled_of_fits machine next limit text sofar answer events stepped
      rw [← same] at stepped fitting
      by_cases going : answer = .ok true
      · subst going
        rw [turns_succ_of_step count machine next _ _ events stepped] at free
        have sooner := turns_length_le count next (Output.boundless sofar)
        rcases left : turns count next (Output.boundless sofar) with ⟨_, _, _, later⟩
        rw [left] at free sooner
        cases free
        rw [turns_succ_of_step count machine next _ _ events (fitting (Nat.le_trans sooner fits)),
          ih next sofar later left]
        rfl
      · rw [turns_succ_of_stopped count machine _ (by rw [stepped]; exact going), stepped] at free
        cases free
        rw [turns_succ_of_stopped count machine _ (by rw [fitting fits]; exact going), fitting fits]

structure Overflows (machine : Machine) (text : String) (room earlier : Nat) (before : Machine)
    (sofar : String) : Prop where
  going : (turns earlier machine (Output.boundless text)).effect =
    ⟨.ok true, before, .boundless sofar⟩
  fits : sofar.length ≤ room
  overflows : room < (before.step (Output.boundless sofar)).sink.text.length

/-- When more is printed than fits, a limit ends the run in the turn that goes beyond it. -/
theorem turns_filled_of_overflows (count : Nat) (machine last : Machine) (limit : Limit)
    (text printed : String) (result : Except Fault Bool) (log : List Event)
    (free : turns count machine (Output.boundless text) =
      ⟨result, last, .boundless printed, log⟩)
    (roomy : text.length ≤ limit.room) (overflows : limit.room < printed.length) :
    ∃ earlier before sofar, earlier < count ∧
      machine.Overflows text limit.room earlier before sofar ∧
      (turns count machine (Output.filled limit text)).effect =
        ⟨.error (.outputFailed limit.reason), before, .full limit printed⟩ := by
  induction count generalizing machine text log with
  | zero =>
      cases free
      exact absurd overflows (Nat.not_lt.mpr roomy)
  | succ count ih =>
      obtain ⟨course, same⟩ := machine.exists_course_of_step
      obtain ⟨answer, next, sofar, events, stepped⟩ := course.exists_outcome_boundless machine text
      have fitting :=
        course.outcome_filled_of_fits machine next limit text sofar answer events stepped
      have overflowing := course.outcome_filled_of_overflows machine next limit text sofar answer
        events stepped roomy
      rw [← same] at stepped fitting overflowing
      by_cases crossing : limit.room < sofar.length
      · have refused := overflowing crossing
        have stopped : (machine.step (Output.filled limit text)).result ≠ .ok true := by
          rw [show (machine.step (Output.filled limit text)).result = _ from
            congrArg Effect.result refused]
          exact nofun
        have longer := turns_extends_add 1 count machine (Output.boundless text)
        rw [(turns_one machine _).2.2, stepped, Nat.add_comm, free] at longer
        refine ⟨0, machine, text, Nat.succ_pos count, ⟨rfl, roomy, by rwa [stepped]⟩, ?_⟩
        rw [turns_succ_of_stopped count machine _ stopped, refused,
          Output.full_of_prefix limit sofar printed longer (Nat.le_of_lt crossing)]
      · have roomyStill : sofar.length ≤ limit.room := Nat.le_of_not_lt crossing
        have going : answer = .ok true := by
          by_contra stopped
          rw [turns_succ_of_stopped count machine _ (by rw [stepped]; exact stopped), stepped]
            at free
          cases free
          exact crossing overflows
        subst going
        rw [turns_succ_of_step count machine next _ _ events stepped] at free
        rcases left : turns count next (Output.boundless sofar) with ⟨_, _, _, later⟩
        rw [left] at free
        cases free
        obtain ⟨earlier, before, soon, fewer, ⟨going, fits, beyond⟩, ended⟩ :=
          ih next sofar later left roomyStill
        refine ⟨earlier + 1, before, soon, Nat.succ_lt_succ fewer, ⟨?_, fits, beyond⟩, ?_⟩
        · rw [turns_succ_of_step earlier machine next _ _ events stepped]
          exact going
        · rw [turns_succ_of_step count machine next _ _ events (fitting roomyStill)]
          exact ended

/-- The run into a sink without limit comes to this machine after this many turns, and prints the
first byte for which there is no room in its next turn. -/
structure Crosses (machine : Machine) (room : Nat) (before : Machine) (earlier : Nat)
    (printed : Output) : Prop where
  within : earlier < max 1 machine.size
  going : (turns earlier machine.reset Output.unlimited).effect = ⟨.ok true, before, printed⟩
  fits : printed.bytes.length ≤ room
  crossed : room < (before.step printed).sink.bytes.length
  unlabelled : ∃ instruction, before.code.program.get? before.pc = some instruction ∧
    instruction.isLabelled = false

/-- A run into a sink with a limit goes along with the run into a sink without one, and prints as
many of its bytes as there is room for. -/
theorem run_limited_prints_first_bytes (machine : Machine) (room : Nat) (refusal : Refusal) :
    ((machine.run Output.unlimited).sink.bytes.length ≤ room →
      (machine.run (Output.limited room refusal)).result =
          (machine.run Output.unlimited).result ∧
        (machine.run (Output.limited room refusal)).state =
          (machine.run Output.unlimited).state ∧
        (machine.run (Output.limited room refusal)).sink.bytes =
          (machine.run Output.unlimited).sink.bytes) ∧
    (room < (machine.run Output.unlimited).sink.bytes.length →
      (machine.run (Output.limited room refusal)).result =
          .error (.outputFailed refusal.reason) ∧
        (machine.run (Output.limited room refusal)).sink.bytes =
          (machine.run Output.unlimited).sink.bytes.take room ∧
        ∃ earlier printed, machine.Crosses room
          (machine.run (Output.limited room refusal)).state earlier printed) := by
  obtain ⟨result, last, printed, log, free⟩ :=
    turns_boundless (max 1 machine.size) machine.reset ""
  have narrow : (Output.boundless printed).Narrow := by
    have kept := turns_narrow (max 1 machine.size) machine.reset (Output.boundless "") nofun
    rwa [free] at kept
  obtain ⟨freeResult, freeState, freeSink⟩ :=
    run_of_turns machine last Output.unlimited _ result (congrArg Outcome.effect free)
  rw [freeResult, freeState, freeSink, narrow.length_bytes]
  constructor
  · intro fits
    have tight := turns_filled_of_fits _ _ last ⟨room, refusal.reason⟩ "" printed result log free
      fits
    obtain ⟨result, state, sink⟩ :=
      run_of_turns machine last (Output.limited room refusal) _ _ (congrArg Outcome.effect tight)
    rw [result, state, sink]
    exact ⟨rfl, rfl, rfl⟩
  · intro overflows
    obtain ⟨earlier, before, sofar, within, ⟨going, fits, crossed⟩, tight⟩ :=
      turns_filled_of_overflows _ _ last ⟨room, refusal.reason⟩ "" printed result log free
        (Nat.zero_le room) overflows
    obtain ⟨result, state, sink⟩ :=
      run_of_turns machine before (Output.limited room refusal) _ _ tight
    rw [result, state, sink]
    have narrowBefore : (Output.boundless sofar).Narrow := by
      have kept := turns_narrow earlier machine.reset (Output.boundless "") nofun
      rwa [← Outcome.sink_effect, going] at kept
    have narrowAfter := before.step_narrow _ narrowBefore
    refine ⟨rfl, narrow.bytes_full _, earlier, Output.boundless sofar, within, going, ?_, ?_, ?_⟩
    · rwa [narrowBefore.length_bytes]
    · rwa [narrowAfter.length_bytes]
    · refine before.unlabelled_of_prints (Output.boundless sofar) fun silent => ?_
      rw [silent] at crossed
      exact absurd fits (Nat.not_le.mpr crossed)

def printByCall : Machine where
  code :=
    { program := .ofList
        [⟨none, .mov .eax 7⟩, ⟨none, .jnz .eax "show"⟩, ⟨some "show", .out .eax⟩,
          ⟨none, .out .ebx⟩]
      labels := ⟨[("show", 2)], by simp, by simp⟩ }
  bank := Bank.zero
  pc := 0

theorem run_limited_cuts_called_line :
    (printByCall.run (Output.limited 5 .idle)).result =
        .error (.outputFailed "failed to write whole buffer") ∧
      (printByCall.run (Output.limited 5 .idle)).sink.bytes =
        (printByCall.run Output.unlimited).sink.bytes.take 5 ∧
      (∃ earlier printed, printByCall.Crosses 5 ⟨printByCall.code, Bank.zero.set .eax 7, 1⟩
        earlier printed) ∧
      (printByCall.run (Output.limited 16 .broken)).state =
        (printByCall.run Output.unlimited).state := by
  obtain ⟨result, bytes, earlier, printed, crosses⟩ :=
    (run_limited_prints_first_bytes printByCall 5 .idle).2 (by decide +kernel)
  obtain ⟨-, enough, -⟩ :=
    (run_limited_prints_first_bytes printByCall 16 .broken).1 (by decide +kernel)
  have stopped : (printByCall.run (Output.limited 5 .idle)).state =
      ⟨printByCall.code, Bank.zero.set .eax 7, 1⟩ := by decide +kernel
  rw [stopped] at crosses
  exact ⟨result, bytes, ⟨earlier, printed, crosses⟩, enough⟩

end Machine

end RegisterMachine
