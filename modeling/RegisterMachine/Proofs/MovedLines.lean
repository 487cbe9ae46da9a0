import RegisterMachine.Proofs.JoinedTexts
import RegisterMachine.Proofs.SharedCalls

/-!
# Lines that are moved

The lines of a text can be put in any order without making a good text bad.  As long as those
without a label keep their order among themselves, the program that they make runs alike: a
labelled instruction is found by its name, wherever it stands.
-/

set_option autoImplicit false

namespace RegisterMachine

/-! ## Lines that are good in any order -/

theorem forall_not_badLine_of_perm (lines lines' : List String) (moved : lines.Perm lines')
    (good : ∀ index fault, ¬ BadLine lines index fault) :
    ∀ index fault, ¬ BadLine lines' index fault := by
  rw [forall_not_badLine_iff] at good ⊢
  obtain ⟨readable, apart⟩ := good
  refine ⟨fun line member => readable line (moved.mem_iff.mpr member), ?_⟩
  exact (moved.pairwise_iff fun apart clash => apart clash.symm).mp apart

/-! ## Code that is rearranged -/

def Line.givesUnlabelled (line : String) : Bool :=
  (Instruction.onLine? line).any fun instruction => !instruction.isLabelled

theorem Program.map_fst_unlabelled (program : Program) :
    program.unlabelled.map Prod.fst =
      program.toList.filter fun instruction => !instruction.isLabelled := by
  have placed : program.toList = program.toList.zipIdx.map Prod.fst :=
    (List.zipIdx_map_fst 0 program.toList).symm
  conv_rhs => rw [placed, List.filter_map]
  rfl

theorem Code.Holds.unlabelled {code : Code} {lines : List String} (holds : code.Holds lines) :
    code.program.unlabelled.map Prod.fst =
      (lines.filter Line.givesUnlabelled).filterMap Instruction.onLine? := by
  rw [Program.map_fst_unlabelled, holds.instructions, List.filter_filterMap,
    List.filterMap_filter]
  congr 1
  funext line
  unfold Line.givesUnlabelled
  cases Instruction.onLine? line with
  | none => rfl
  | some instruction => cases instruction.isLabelled <;> rfl

/-- The codes have the same instructions at other addresses.  Those without a label are in the
same order, and those with one are called by the same names. -/
structure Code.Rearranged (left right : Code) : Prop where
  instructions : left.program.toList.Perm right.program.toList
  unlabelled : left.program.unlabelled.map Prod.fst = right.program.unlabelled.map Prod.fst
  callees : ∀ name, left.callee? name = right.callee? name

theorem Code.Holds.rearranged {left right : Code} {lines lines' : List String}
    (leftHolds : left.Holds lines) (rightHolds : right.Holds lines') (moved : lines.Perm lines')
    (inOrder : lines.filter Line.givesUnlabelled = lines'.filter Line.givesUnlabelled) :
    left.Rearranged right := by
  have instructions : left.program.toList.Perm right.program.toList := by
    rw [leftHolds.instructions, rightHolds.instructions]
    exact moved.filterMap _
  refine ⟨instructions, by rw [leftHolds.unlabelled, rightHolds.unlabelled, inOrder], ?_⟩
  intro name
  apply Option.ext
  intro callee
  rw [leftHolds.coherent.callee?_eq_some_iff, rightHolds.coherent.callee?_eq_some_iff,
    instructions.mem_iff]

namespace Machine

/-- The two machines have the same instructions at other addresses, and their runs differ in
nothing else. -/
structure Rearranged (left right : Machine) : Prop where
  code : left.code.Rearranged right.code
  sizes : left.size = right.size
  runs : ∀ {σ : Type} [Sink σ] (sink : σ), RunAlike left right sink
  finished : ∀ {σ : Type} [Sink σ] (sink : σ),
    (left.run sink).state.isFinished = (right.run sink).state.isFinished

theorem rearranged_of_code (left right : Machine) (code : left.code.Rearranged right.code) :
    left.Rearranged right := by
  have runs : ∀ {σ : Type} [Sink σ] (sink : σ), RunAlike left right sink := by
    intro σ _ sink
    apply runAlike_of_callAlike left right sink Set.univ code.unlabelled
    · exact fun _ _ _ _ _ => Set.mem_univ _
    · exact ⟨fun name _ => code.callees name, fun _ _ _ _ _ _ _ => Set.mem_univ _⟩
  refine ⟨code, ?_, runs, ?_⟩
  · rw [size, size, Program.size_eq_length, Program.size_eq_length, code.instructions.length_eq]
  · intro σ _ sink
    rw [Bool.eq_iff_iff, run_isFinished_iff, run_isFinished_iff, (runs sink).results]

/-- Lines that are put in another order make a good text if and only if they made one before.  If
those that give instructions without a label are still in the same order, then two machines that
load the texts, each one of them, run alike: they print the same, they fail with the same words or
not at all, and they end with the same registers. -/
theorem labelled_lines_may_move (lines lines' : List String) (moved : lines.Perm lines')
    (noFeed : ∀ line ∈ lines, '\n' ∉ line.toList) :
    ((∃ code, Code.ofText ("\n".intercalate lines) = .ok code) ↔
        ∃ code, Code.ofText ("\n".intercalate lines') = .ok code) ∧
      (lines.filter Line.givesUnlabelled = lines'.filter Line.givesUnlabelled →
        ∀ left right : Machine,
          (left.loadText ("\n".intercalate lines)).1.result = .ok () →
          (right.loadText ("\n".intercalate lines')).1.result = .ok () ∧
            (left.loadText ("\n".intercalate lines)).2.Rearranged
              (right.loadText ("\n".intercalate lines')).2) := by
  have noFeed' : ∀ line ∈ lines', '\n' ∉ line.toList :=
    fun line member => noFeed line (moved.mem_iff.mpr member)
  have assembles : (∃ code, Code.ofText ("\n".intercalate lines) = .ok code) ↔
      ∃ code, Code.ofText ("\n".intercalate lines') = .ok code := by
    rw [Code.exists_ofText_iff_of_lines _ lines (Code.refill_intercalate lines noFeed),
      Code.exists_ofText_iff_of_lines _ lines' (Code.refill_intercalate lines' noFeed')]
    exact ⟨forall_not_badLine_of_perm lines lines' moved,
      forall_not_badLine_of_perm lines' lines moved.symm⟩
  refine ⟨assembles, fun inOrder left right success => ?_⟩
  have success' : (right.loadText ("\n".intercalate lines')).1.result = .ok () := by
    rwa [loadText_ok_iff, ← assembles, ← left.loadText_ok_iff]
  have held := Code.holds_of_ofText_of_lines _ lines _ (Code.refill_intercalate lines noFeed)
    (left.ofText_of_loadText _ success)
  have held' := Code.holds_of_ofText_of_lines _ lines' _ (Code.refill_intercalate lines' noFeed')
    (right.ofText_of_loadText _ success')
  exact ⟨success', rearranged_of_code _ _ (held.rearranged held' moved inOrder)⟩

def spread : List String :=
  ["f: div EBX ECX", "mov EBX 7", "out EBX", "", "g: jnz EBX f", "jnz EBX g"]

def gathered : List String :=
  ["mov EBX 7", "out EBX", "jnz EBX g", "", "g: jnz EBX f", "f: div EBX ECX"]

theorem gathered_fails_as_spread :
    ((Machine.ofBank Bank.zero).loadText ("\n".intercalate gathered)).1.result = .ok () ∧
      (((Machine.ofBank Bank.zero).loadText ("\n".intercalate gathered)).2.run
        Output.unlimited).result = .error (.divisionByZero "f: div EBX ECX") ∧
      (((Machine.ofBank Bank.zero).loadText ("\n".intercalate gathered)).2.run
        Output.unlimited).sink.text = "EBX - 7\n" := by
  have moved : spread.Perm gathered := by decide
  have inOrder : spread.filter Line.givesUnlabelled = gathered.filter Line.givesUnlabelled := by
    decide +kernel
  obtain ⟨-, alike⟩ := labelled_lines_may_move spread gathered moved (by decide)
  obtain ⟨loaded, same⟩ := alike inOrder (Machine.ofBank Bank.zero) (Machine.ofBank Bank.zero)
    (by decide +kernel)
  refine ⟨loaded, ?_, ?_⟩
  · rw [← (same.runs Output.unlimited).results]
    decide +kernel
  · rw [← (same.runs Output.unlimited).sinks]
    decide +kernel

end Machine

end RegisterMachine
