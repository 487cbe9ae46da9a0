import RegisterMachine.Proofs.JoinedTexts

/-!
# Code that is filled again

Code is filled from one text after another, and a text with a fault fills it in part.  What a text
leaves does not depend on what was there before: it is the code of the whole text, or that of the
lines before the fault.  So the table agrees with the program after every text, and nothing of an
earlier text is left in either.
-/

set_option autoImplicit false

namespace RegisterMachine

/-! ## The lines at the beginning of a text -/

namespace Text

def firstLines : (count : Nat) → List Char → List Char
  | 0, _ => []
  | _ + 1, [] => []
  | count + 1, c :: rest =>
      c :: if c = '\n' then firstLines count rest else firstLines (count + 1) rest

/-- The beginning of a text that has this many of its lines. -/
def beginning (text : String) (count : Nat) : String :=
  String.ofList (firstLines count text.toList)

theorem linesFrom_firstLines (current : List Char) (count : Nat) (text : List Char) :
    linesFrom current (firstLines (count + 1) text) =
      (linesFrom current text).take (count + 1) := by
  induction text generalizing current count with
  | nil =>
      rw [firstLines, linesFrom]
      split
      · rfl
      · rw [List.take_succ_cons, List.take_nil]
  | cons c rest ih =>
      by_cases feed : c = '\n'
      · subst feed
        rw [firstLines, if_pos rfl, linesFrom_line_feed, linesFrom_line_feed, List.take_succ_cons]
        cases count with
        | zero => rw [firstLines, List.take_zero, linesFrom, if_pos List.isEmpty_nil]
        | succ count => rw [ih [] count]
      · rw [firstLines, if_neg feed, linesFrom_of_ne _ _ _ feed, linesFrom_of_ne _ _ _ feed, ih]

theorem lines_beginning (text : String) (count : Nat) :
    lines (beginning text count) = (lines text).take count := by
  rw [lines, lines, beginning, String.toList_ofList, ← List.map_take]
  cases count with
  | zero => rw [firstLines, List.take_zero, linesFrom, if_pos List.isEmpty_nil]
  | succ count => rw [linesFrom_firstLines]

end Text

/-! ## Parts of texts -/

theorem badLine_of_take (lines : List String) (count index : Nat) (fault : Fault)
    (bad : BadLine (lines.take count) index fault) : index < count ∧ BadLine lines index fault := by
  obtain ⟨line, found, badHere⟩ := bad
  rw [List.getElem?_take] at found
  split at found
  · next inside =>
      rw [List.take_take, Nat.min_eq_left (Nat.le_of_lt inside)] at badHere
      exact ⟨inside, line, found, badHere⟩
  · contradiction

namespace Code

/-- Code that has been filled from these texts, one after another, whether or not they have
faults. -/
def refillAll (code : Code) (texts : List String) : Code :=
  texts.foldl (fun held text => (held.refill text).code) code

theorem refillAll_concat (code : Code) (texts : List String) (last : String) :
    code.refillAll (texts ++ [last]) = (empty.refill last).code := by
  rw [refillAll, List.foldl_append]
  rfl

theorem ofText_beginning_of_error (text : String) (located : SourceFault)
    (failed : ofText text = .error located) :
    ofText (Text.beginning text located.line) = .ok (empty.refill text).code := by
  rw [ofText_eq_error_iff] at failed
  rcases stops_addLines (Text.lines text) with ⟨done, -, -⟩ | ⟨found, result, held, -, good⟩
  · exact nomatch failed.symm.trans done
  · cases Except.error.inj (failed.symm.trans result)
    rcases ofText_cases (Text.beginning text located.line) with
      ⟨code, assembled, holds, -⟩ | ⟨other, -, bad, -⟩
    · rw [Text.lines_beginning] at holds
      rw [assembled, holds.unique held]
      rfl
    · have badHere := (bad other.fault).mpr rfl
      rw [Text.lines_beginning] at badHere
      obtain ⟨before, badLine⟩ := badLine_of_take _ _ _ _ badHere
      exact absurd badLine (good _ _ (Nat.zero_le _) before)

theorem exists_holds_refill (text : String) :
    ∃ count, (empty.refill text).code.Holds ((Text.lines text).take count) := by
  rcases stops_addLines (Text.lines text) with ⟨-, held, -⟩ | ⟨located, -, held, -, -⟩
  · refine ⟨(Text.lines text).length, ?_⟩
    rwa [List.take_length]
  · exact ⟨located.line, held⟩

/-- Filling code from a text goes as the text alone decides: it leaves the code of the text, or
that of the lines before its fault.  So after any texts the table says what the program carries,
and all of it comes from the last text. -/
theorem refill_leaves_last_text (code : Code) (text : String) :
    (∀ fresh, ofText text = .ok fresh ↔
        (code.refill text).result = .ok () ∧ (code.refill text).code = fresh) ∧
      (∀ located, ofText text = .error located ↔ (code.refill text).result = .error located) ∧
      (∀ located, ofText text = .error located →
        Text.lines (Text.beginning text located.line) = (Text.lines text).take located.line ∧
          ofText (Text.beginning text located.line) = .ok (code.refill text).code) ∧
      ∀ earlier,
        (code.refillAll earlier).refill text = code.refill text ∧
          code.refillAll (earlier ++ [text]) = (code.refill text).code ∧
          (∀ label address,
            (code.refillAll (earlier ++ [text])).labels.address label = .ok address ↔
              (code.refillAll (earlier ++ [text])).program.Carries address label) ∧
          ∀ label ∈ (code.refillAll (earlier ++ [text])).labels.names,
            ∃ line ∈ Text.lines text, Line.Labelled line label := by
  refine ⟨ofText_eq_ok_iff text, ofText_eq_error_iff text, fun located failed =>
    ⟨Text.lines_beginning text _, ofText_beginning_of_error text located failed⟩, ?_⟩
  intro earlier
  obtain ⟨count, holds⟩ := exists_holds_refill text
  rw [← refillAll_concat code earlier text] at holds
  refine ⟨rfl, refillAll_concat code earlier text, holds.coherent.address_iff, ?_⟩
  intro label bound
  obtain ⟨line, member, labelled⟩ := (holds.mem_names_iff label).mp bound
  exact ⟨line, List.mem_of_mem_take member, labelled⟩

def mismatched : Code where
  program := .ofList [⟨some "old", .out .eax⟩, ⟨none, .jnz .ebx "old"⟩]
  labels := ⟨[("b", 0), ("older", 7)], by simp, by simp⟩

def relabelled : String := "a: mov EAX 1\r\n\nb: out EAX\na: out EBX\nhalt"

theorem refill_mismatched_from_relabelled :
    ofText relabelled = .error ⟨3, .duplicateLabel "a"⟩ ∧
      (mismatched.refill relabelled).result = .error ⟨3, .duplicateLabel "a"⟩ ∧
      Text.beginning relabelled 3 = "a: mov EAX 1\r\n\nb: out EAX\n" ∧
      ofText "a: mov EAX 1\r\n\nb: out EAX\n" = .ok (mismatched.refill relabelled).code ∧
      (mismatched.refillAll ["old: out EAX", relabelled]).labels.address "b" = .ok 1 ∧
      "old" ∉ (mismatched.refillAll ["old: out EAX", relabelled]).labels.names := by
  obtain ⟨-, failure, prefixes, sequences⟩ := refill_leaves_last_text mismatched relabelled
  have failed : ofText relabelled = .error ⟨3, .duplicateLabel "a"⟩ := by decide +kernel
  have begins : Text.beginning relabelled 3 = "a: mov EAX 1\r\n\nb: out EAX\n" := by
    decide +kernel
  obtain ⟨-, partly⟩ := prefixes _ failed
  rw [begins] at partly
  obtain ⟨-, last, agree, -⟩ := sequences ["old: out EAX"]
  refine ⟨failed, (failure _).mp failed, begins, partly, (agree "b" 1).mpr ?_, ?_⟩
  · exact ⟨⟨some "b", .out .eax⟩, by decide +kernel, rfl⟩
  · decide +kernel

end Code

end RegisterMachine
