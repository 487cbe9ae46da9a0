import Mathlib.Data.List.Forall2
import RegisterMachine.Proofs.JoinedTexts

/-!
# The layout of a text

The code of a text depends on the words of its lines.  How a line ends, and which blanks stand
before and behind it, does not matter, and of the blanks inside a line only their number does,
when there are too many of them.  A blank line moves the lines behind it and nothing else.
-/

set_option autoImplicit false

namespace RegisterMachine

namespace Text

/-! ## Blanks at the ends of lines -/

/-- The two lines differ by blanks at their ends. -/
def Realigned (line written : String) : Prop :=
  ∃ core, Surrounds core line.toList ∧ Surrounds core written.toList

/-- The text is made of these lines, one after another, each with an ending of its own.  The last
line may lack one.  Blanks at the ends of lines are free. -/
inductive LaidOut : List String → String → Prop
  | nil : LaidOut [] ""
  | last (line written : String) (aligned : Realigned line written)
      (inside : '\n' ∉ written.toList) : LaidOut [line] written
  | cons (line written ending text : String) (lines : List String)
      (aligned : Realigned line written) (inside : '\n' ∉ written.toList)
      (ends : ending = "\n" ∨ ending = "\r\n") (rest : LaidOut lines text) :
      LaidOut (line :: lines) (written ++ ending ++ text)

theorem surrounds_trim (line : List Char) : Surrounds (trim line) line := by
  refine ⟨line.takeWhile isBlank, ((trimStart line).reverse.takeWhile isBlank).reverse, ?_, ?_, ?_⟩
  · exact fun c member => List.mem_takeWhile_imp member
  · exact fun c member => List.mem_takeWhile_imp (List.mem_reverse.mp member)
  · have back : trim line ++ ((trimStart line).reverse.takeWhile isBlank).reverse =
        trimStart line := by
      rw [trim, trimEnd, ← List.reverse_append, List.takeWhile_append_dropWhile,
        List.reverse_reverse]
    rw [List.append_assoc, back, trimStart, List.takeWhile_append_dropWhile]

theorem realigned_iff (line written : String) :
    Realigned line written ↔ trim line.toList = trim written.toList := by
  constructor
  · rintro ⟨core, first, second⟩
    rw [first.trim_eq, second.trim_eq]
  · intro same
    refine ⟨trim line.toList, surrounds_trim _, ?_⟩
    rw [same]
    exact surrounds_trim _

instance (line written : String) : Decidable (Realigned line written) :=
  decidable_of_iff' _ (realigned_iff line written)

theorem Realigned.ofLine_eq {line written : String} (aligned : Realigned line written) :
    Instruction.ofLine line = Instruction.ofLine written :=
  Instruction.ofLine_of_trim line written ((realigned_iff line written).mp aligned)

theorem Realigned.concat_return {line written : String} (aligned : Realigned line written) :
    Realigned line (written ++ "\r") := by
  rw [realigned_iff] at aligned ⊢
  rw [aligned, String.toList_append]
  exact (trim_concat_blank _ '\r' rfl).symm

end Text

namespace Code

open Text (Realigned LaidOut)

theorem addLines_closed (code : Code) (index : Nat) (written text : String)
    (inside : '\n' ∉ written.toList) :
    code.addLines index (Text.lines (written ++ "\n" ++ text)) =
      code.addLines index (written :: Text.lines text) := by
  rw [Text.lines_joined]
  apply addLines_of_ofLine
  rw [List.map_append, Text.ofLine_lines_closed written inside]
  rfl

/-- The lines of a text are assembled as those that it was laid out from. -/
theorem addLines_of_laidOut {lines : List String} {text : String} (layout : LaidOut lines text)
    (code : Code) (index : Nat) :
    code.addLines index (Text.lines text) = code.addLines index lines := by
  induction layout generalizing code index with
  | nil => rfl
  | last line written aligned inside =>
      rw [← addLines_line_feed]
      apply addLines_of_ofLine
      rw [Text.ofLine_lines_closed written inside, ← aligned.ofLine_eq]
      rfl
  | cons line written ending text lines aligned inside ends rest ih =>
      have closed : ∃ closing, Realigned line closing ∧ '\n' ∉ closing.toList ∧
          written ++ ending ++ text = closing ++ "\n" ++ text := by
        rcases ends with rfl | rfl
        · exact ⟨written, aligned, inside, rfl⟩
        · refine ⟨written ++ "\r", aligned.concat_return, ?_, ?_⟩
          · simp [inside]
          · simp only [String.append_assoc]
            rfl
      obtain ⟨closing, alignedClosing, insideClosing, same⟩ := closed
      rw [same, addLines_closed code index closing text insideClosing]
      simp only [addLines, addLine_of_ofLine code line closing alignedClosing.ofLine_eq, ih]

theorem refill_of_laidOut {lines : List String} {text : String} (layout : LaidOut lines text) :
    empty.refill text = empty.addLines 0 lines :=
  addLines_of_laidOut layout empty 0

end Code

/-! ## Blanks inside lines -/

namespace Text

/-- Blanks other than line feeds are replaced by others. -/
def Respaced (first second : List Char) : Prop :=
  List.Forall₂ (fun c d => c = d ∨
    (isBlank c = true ∧ c ≠ '\n') ∧ isBlank d = true ∧ d ≠ '\n') first second

instance (first second : List Char) : Decidable (Respaced first second) :=
  inferInstanceAs (Decidable (List.Forall₂ _ first second))

namespace Respaced

variable {first second : List Char}

theorem blankCount_eq (respaced : Respaced first second) :
    blankCount first = blankCount second := by
  induction respaced with
  | nil => rfl
  | cons same rest ih =>
      rcases same with rfl | ⟨⟨blank, -⟩, blank', -⟩
      · simp only [blankCount, List.countP_cons] at ih ⊢
        rw [ih]
      · simp only [blankCount, List.countP_cons, blank, blank'] at ih ⊢
        rw [ih]

theorem splitOnP_eq (respaced : Respaced first second) :
    first.splitOnP isBlank = second.splitOnP isBlank := by
  induction respaced with
  | nil => rfl
  | cons same rest ih =>
      rw [List.splitOnP_cons_eq_if_modifyHead, List.splitOnP_cons_eq_if_modifyHead, ih]
      rcases same with rfl | ⟨⟨blank, -⟩, blank', -⟩
      · rfl
      · rw [if_pos blank, if_pos blank']

theorem words_eq (respaced : Respaced first second) : words first = words second := by
  rw [words, words, respaced.splitOnP_eq]

theorem reverse (respaced : Respaced first second) : Respaced first.reverse second.reverse :=
  List.forall₂_reverse_iff.mpr respaced

theorem dropWhile_isBlank (respaced : Respaced first second) :
    Respaced (first.dropWhile isBlank) (second.dropWhile isBlank) := by
  induction respaced with
  | nil => exact .nil
  | @cons c d first second same rest ih =>
      have alike : isBlank c = isBlank d := by
        rcases same with rfl | ⟨⟨blank, -⟩, blank', -⟩
        · rfl
        · rw [blank, blank']
      rw [List.dropWhile_cons, List.dropWhile_cons, ← alike]
      split
      · exact ih
      · exact .cons same rest

theorem trim (respaced : Respaced first second) : Respaced (trim first) (trim second) :=
  respaced.dropWhile_isBlank.reverse.dropWhile_isBlank.reverse

end Respaced

theorem linesFrom_respaced (current current' rest rest' : List Char)
    (read : Respaced current current') (unread : Respaced rest rest') :
    List.Forall₂ (fun line line' => Respaced (trim line) (trim line'))
      (linesFrom current rest) (linesFrom current' rest') := by
  induction unread generalizing current current' with
  | nil =>
      cases read with
      | nil => exact .nil
      | cons same others =>
          exact .cons (Respaced.trim (Respaced.reverse (.cons same others))) .nil
  | @cons c d rest rest' same others ih =>
      by_cases feed : c = '\n'
      · have feed' : d = '\n' := by
          rcases same with rfl | ⟨⟨-, notFeed⟩, -⟩
          · exact feed
          · exact absurd feed notFeed
        rw [feed, feed', linesFrom_line_feed, linesFrom_line_feed]
        refine .cons ?_ (ih [] [] .nil)
        rw [trim_dropReturn, trim_dropReturn]
        exact read.reverse.trim
      · have notFeed : d ≠ '\n' := by
          rcases same with rfl | ⟨-, -, notFeed⟩
          · exact feed
          · exact notFeed
        rw [linesFrom_of_ne _ c _ feed, linesFrom_of_ne _ d _ notFeed]
        exact ih (c :: current) (d :: current') (.cons same read)

end Text

/-- Both are about too many blanks in a line, which each quotes as it is written. -/
def Fault.Requoted (first second : Fault) : Prop :=
  ∃ left right, Text.Respaced left right ∧
    first = .malformed (.tooManyBlanks 3 (String.ofList left)) ∧
    second = .malformed (.tooManyBlanks 3 (String.ofList right))

theorem Instruction.ofLine_respaced (line line' : String)
    (respaced : Text.Respaced (Text.trim line.toList) (Text.trim line'.toList)) :
    ofLine line = ofLine line' ∨
      ∃ fault fault', ofLine line = .error fault ∧ ofLine line' = .error fault' ∧
        fault.Requoted fault' := by
  rw [ofLine_eq_ofWords, ofLine_eq_ofWords, ← respaced.blankCount_eq,
    ← Text.words_trim line.toList, ← Text.words_trim line'.toList, respaced.words_eq]
  split
  · exact Or.inr ⟨_, _, rfl, rfl, _, _, respaced, rfl, rfl⟩
  · exact Or.inl rfl

namespace Code

theorem addLines_respaced (lines lines' : List String)
    (respaced : List.Forall₂ (fun line line' =>
      Text.Respaced (Text.trim line.toList) (Text.trim line'.toList)) lines lines')
    (code : Code) (index : Nat) :
    code.addLines index lines = code.addLines index lines' ∨
      ∃ place fault fault', (code.addLines index lines).result = .error ⟨place, fault⟩ ∧
        (code.addLines index lines').result = .error ⟨place, fault'⟩ ∧ fault.Requoted fault' := by
  induction respaced generalizing code index with
  | nil => exact Or.inl rfl
  | @cons line line' lines lines' same rest ih =>
      rw [addLines, addLines]
      rcases Instruction.ofLine_respaced line line' same with
        alike | ⟨fault, fault', read, read', requoted⟩
      · rw [addLine_of_ofLine code line line' alike]
        cases code.addLine line' with
        | error fault => exact Or.inl rfl
        | ok added =>
            rcases ih added.1 (index + 1) with equal | ⟨place, fault, fault', found⟩
            · exact Or.inl (by simp only [equal])
            · exact Or.inr ⟨place, fault, fault', found⟩
      · refine Or.inr ⟨index, fault, fault', ?_, ?_, requoted⟩
        · simp only [addLine, read]
          rfl
        · simp only [addLine, read']
          rfl

theorem ofText_respaced (first second : String)
    (respaced : Text.Respaced first.toList second.toList) :
    ofText first = ofText second ∨
      ∃ index fault fault', ofText first = .error ⟨index, fault⟩ ∧
        ofText second = .error ⟨index, fault'⟩ ∧ fault.Requoted fault' := by
  have lines : List.Forall₂ (fun line line' =>
      Text.Respaced (Text.trim line.toList) (Text.trim line'.toList))
      (Text.lines first) (Text.lines second) := by
    rw [Text.lines, Text.lines, List.forall₂_map_left_iff, List.forall₂_map_right_iff]
    simp only [String.toList_ofList]
    exact Text.linesFrom_respaced [] [] _ _ .nil respaced
  simp only [ofText_eq_error_iff]
  rcases addLines_respaced _ _ lines empty 0 with equal | requoted
  · refine Or.inl ?_
    simp only [ofText, refill, clear_eq_empty, equal]
  · exact Or.inr requoted

end Code

/-! ## Blank lines -/

open Text (LaidOut)

/-- The fault when a line is put in at this place. -/
def SourceFault.movedBy (place : Nat) (located : SourceFault) : SourceFault :=
  if place ≤ located.line then ⟨located.line + 1, located.fault⟩ else located

namespace Code

theorem addLines_succ (code : Code) (index place : Nat) (lines : List String)
    (behind : place ≤ index) :
    code.addLines (index + 1) lines =
      { code.addLines index lines with
        result := (code.addLines index lines).result.mapError (SourceFault.movedBy place) } := by
  induction lines generalizing code index with
  | nil => rfl
  | cons line lines ih =>
      rw [addLines, addLines]
      cases code.addLine line with
      | error fault => simp [Except.mapError, SourceFault.movedBy, behind]
      | ok added => simp only [ih added.1 (index + 1) (Nat.le_succ_of_le behind)]

theorem addLine_of_blank (code : Code) (line : String)
    (blank : ∀ c ∈ line.toList, Text.isBlank c = true) : code.addLine line = .ok (code, []) := by
  rw [addLine, (Instruction.ofLine_eq_none_iff line).mpr blank]
  rfl

theorem addLines_insert_blank (code : Code) (index : Nat) (before after : List String)
    (line : String) (blank : ∀ c ∈ line.toList, Text.isBlank c = true) :
    code.addLines index (before ++ line :: after) =
      { code.addLines index (before ++ after) with
        result := (code.addLines index (before ++ after)).result.mapError
          (SourceFault.movedBy (index + before.length)) } := by
  induction before generalizing code index with
  | nil =>
      rw [List.nil_append, List.nil_append, addLines, addLine_of_blank code line blank]
      exact addLines_succ code index index after (Nat.le_refl index)
  | cons first before ih =>
      rw [List.cons_append, List.cons_append, addLines, addLines]
      cases code.addLine first with
      | error fault => simp [Except.mapError, SourceFault.movedBy]
      | ok added =>
          have place : index + (before.length + 1) = index + 1 + before.length := by omega
          simp only [ih added.1 (index + 1), List.length_cons, place]

theorem ofText_insert_blank (before after : List String) (line first second : String)
    (blank : ∀ c ∈ line.toList, Text.isBlank c = true)
    (without : LaidOut (before ++ after) first)
    (inserted : LaidOut (before ++ line :: after) second) :
    ofText second = (ofText first).mapError (SourceFault.movedBy before.length) := by
  rw [ofText, ofText, refill_of_laidOut without, refill_of_laidOut inserted,
    addLines_insert_blank empty 0 before after line blank, Nat.zero_add]
  cases (empty.addLines 0 (before ++ after)).result with
  | error located => rfl
  | ok done => rfl

/-- Texts laid out from the same lines have the same code or the same fault.  When blanks inside
lines are replaced by others, only the quoted line of a fault about too many blanks can change.  A
blank line that is put in somewhere leaves the code as it is, and a fault in the lines behind it
is found one line further on. -/
theorem ofText_keeps_to_lines :
    (∀ lines first second, LaidOut lines first → LaidOut lines second →
        ofText first = ofText second) ∧
      (∀ first second : String, Text.Respaced first.toList second.toList →
        ofText first = ofText second ∨
          ∃ index fault fault', ofText first = .error ⟨index, fault⟩ ∧
            ofText second = .error ⟨index, fault'⟩ ∧ fault.Requoted fault') ∧
      ∀ (before after : List String) (line first second : String),
        (∀ c ∈ line.toList, Text.isBlank c = true) →
          LaidOut (before ++ after) first → LaidOut (before ++ line :: after) second →
            ofText second = (ofText first).mapError (SourceFault.movedBy before.length) := by
  refine ⟨?_, ofText_respaced, ofText_insert_blank⟩
  intro lines first second layout layout'
  rw [ofText, ofText, refill_of_laidOut layout, refill_of_laidOut layout']

theorem ofText_of_texts_laid_out_alike :
    ofText (" top: mov EAX 1" ++ "\r\n" ++ "\thalt\r") =
        ofText ("top: mov EAX 1  " ++ "\n" ++ "halt") ∧
      (∃ index fault fault', ofText "out  EAX   1" = .error ⟨index, fault⟩ ∧
        ofText "out\t EAX \t 1" = .error ⟨index, fault'⟩ ∧ fault.Requoted fault') ∧
      ofText ("top: mov EAX 1" ++ "\n" ++ (" \t" ++ "\n" ++ "halt")) =
        .error ⟨2, .unknownOpcode "halt"⟩ := by
  have indented : LaidOut ["top: mov EAX 1", "halt"]
      (" top: mov EAX 1" ++ "\r\n" ++ "\thalt\r") :=
    .cons _ _ _ _ _ (by decide +kernel) (by simp) (.inr rfl)
      (.last _ _ (by decide +kernel) (by simp))
  have padded : LaidOut ["top: mov EAX 1", "halt"] ("top: mov EAX 1  " ++ "\n" ++ "halt") :=
    .cons _ _ _ _ _ (by decide +kernel) (by simp) (.inl rfl)
      (.last _ _ (by decide +kernel) (by simp))
  have spread : LaidOut ["top: mov EAX 1", " \t", "halt"]
      ("top: mov EAX 1" ++ "\n" ++ (" \t" ++ "\n" ++ "halt")) :=
    .cons _ _ _ _ _ (by decide +kernel) (by simp) (.inl rfl)
      (.cons _ _ _ _ _ (by decide +kernel) (by simp) (.inl rfl)
        (.last _ _ (by decide +kernel) (by simp)))
  refine ⟨ofText_keeps_to_lines.1 _ _ _ indented padded, ?_, ?_⟩
  · apply (ofText_keeps_to_lines.2.1 _ _ (by decide +kernel)).resolve_left
    decide +kernel
  · have plain : ofText ("top: mov EAX 1  " ++ "\n" ++ "halt") =
        .error ⟨1, .unknownOpcode "halt"⟩ := by
      decide +kernel
    have blank : ∀ c ∈ " \t".toList, Text.isBlank c = true := List.all_eq_true.mp (by decide)
    rw [ofText_keeps_to_lines.2.2 ["top: mov EAX 1"] ["halt"] " \t" _ _ blank padded spread, plain]
    rfl

end Code

end RegisterMachine
