import Mathlib.Data.List.Basic
import RegisterMachine.Proofs.FirstFault

/-!
# Texts joined by a line feed

The code of two texts that are joined is the code of the first followed by that of the second,
whose addresses move up.  A fault in the first text comes first.  A second text is kept out by a
fault of its own or by a label that the first text has bound, whichever stands on the earlier line.
-/

set_option autoImplicit false

namespace RegisterMachine

/-! ## Lines before and after a line feed -/

namespace Text

theorem linesFrom_append_line_feed (current first second : List Char) :
    linesFrom current (first ++ '\n' :: second) =
      linesFrom current (first ++ ['\n']) ++ linesFrom [] second := by
  induction first generalizing current with
  | nil => simp [linesFrom]
  | cons c first ih =>
      by_cases feed : c = '\n'
      · subst feed
        simp only [List.cons_append, linesFrom_line_feed, ih]
      · simp only [List.cons_append, linesFrom_of_ne _ c _ feed, ih]

theorem length_linesFrom_line_feed (current first : List Char) :
    (linesFrom current (first ++ ['\n'])).length = first.count '\n' + 1 := by
  induction first generalizing current with
  | nil => simp [linesFrom]
  | cons c first ih =>
      by_cases feed : c = '\n'
      · subst feed
        simp only [List.cons_append, linesFrom_line_feed, List.length_cons, ih,
          List.count_cons_self]
      · simp only [List.cons_append, linesFrom_of_ne _ c _ feed, ih,
          List.count_cons_of_ne feed]

/-- A line feed at the end of a text adds an empty line, or takes a carriage return off the last
line. -/
theorem linesFrom_closed (current first : List Char) :
    linesFrom current (first ++ ['\n']) = linesFrom current first ++ [[]] ∨
      ∃ earlier last, linesFrom current first = earlier ++ [last.reverse] ∧
        linesFrom current (first ++ ['\n']) = earlier ++ [(dropReturn last).reverse] := by
  induction first generalizing current with
  | nil =>
      cases current with
      | nil => exact Or.inl rfl
      | cons c current => exact Or.inr ⟨[], c :: current, rfl, by simp [linesFrom]⟩
  | cons c first ih =>
      by_cases feed : c = '\n'
      · subst feed
        simp only [List.cons_append, linesFrom_line_feed]
        rcases ih [] with added | ⟨earlier, last, open_, closed⟩
        · exact Or.inl (by rw [added])
        · exact Or.inr ⟨_ :: earlier, last, by rw [open_]; rfl, by rw [closed]; rfl⟩
      · simp only [List.cons_append, linesFrom_of_ne _ c _ feed]
        exact ih (c :: current)

theorem trim_dropReturn (line : List Char) :
    trim (dropReturn line).reverse = trim line.reverse := by
  unfold dropReturn
  split
  · rw [List.reverse_cons, trim_concat_blank _ '\r' rfl]
  · rfl

theorem lines_joined (first second : String) :
    lines (first ++ "\n" ++ second) = lines (first ++ "\n") ++ lines second := by
  have split := linesFrom_append_line_feed [] first.toList second.toList
  simp only [lines, String.toList_append, List.append_assoc, ← List.map_append]
  exact congrArg (List.map String.ofList) split

theorem length_lines_line_feed (text : String) :
    (lines (text ++ "\n")).length = text.toList.count '\n' + 1 := by
  rw [lines, List.length_map, String.toList_append]
  exact length_linesFrom_line_feed [] text.toList

end Text

theorem Instruction.ofLine_of_trim (first second : String)
    (same : Text.trim first.toList = Text.trim second.toList) : ofLine first = ofLine second := by
  simp only [ofLine, WordReader.ofLine, same]

namespace Text

theorem ofLine_lines_closed (line : String) (inside : '\n' ∉ line.toList) :
    (lines (line ++ "\n")).map Instruction.ofLine = [Instruction.ofLine line] := by
  have characters : (line ++ "\n").toList = line.toList ++ ['\n'] := String.toList_append
  rw [lines, characters, linesFrom_append [] line.toList ['\n'] inside, List.append_nil,
    linesFrom_line_feed]
  have trimmed : trim (String.ofList (dropReturn line.toList.reverse).reverse).toList =
      trim line.toList := by
    rw [String.toList_ofList, trim_dropReturn, List.reverse_reverse]
  simp [linesFrom, Instruction.ofLine_of_trim _ _ trimmed]

theorem ofLine_lines_joined (first : String) (others : List String)
    (noFeed : ∀ line ∈ first :: others, '\n' ∉ line.toList) :
    (lines ("\n".intercalate (first :: others) ++ "\n")).map Instruction.ofLine =
      (first :: others).map Instruction.ofLine := by
  induction others generalizing first with
  | nil =>
      rw [String.intercalate_singleton]
      exact ofLine_lines_closed first (noFeed first List.mem_cons_self)
  | cons second others ih =>
      rw [List.forall_mem_cons] at noFeed
      have split : "\n".intercalate (first :: second :: others) ++ "\n" =
          first ++ "\n" ++ ("\n".intercalate (second :: others) ++ "\n") := by
        rw [String.intercalate_cons_cons, String.append_assoc]
      rw [split, lines_joined, List.map_append, ofLine_lines_closed first noFeed.1,
        ih second noFeed.2]
      rfl

end Text

namespace Code

/-! ## Assembly in two parts -/

theorem addLine_of_ofLine (code : Code) (first second : String)
    (same : Instruction.ofLine first = Instruction.ofLine second) :
    code.addLine first = code.addLine second := by
  simp only [addLine, same]

theorem addLines_of_ofLine (code : Code) (index : Nat) (first second : List String)
    (same : first.map Instruction.ofLine = second.map Instruction.ofLine) :
    code.addLines index first = code.addLines index second := by
  induction first generalizing code index second with
  | nil =>
      rw [List.map_eq_nil_iff.mp same.symm]
  | cons line first ih =>
      obtain ⟨line', second, rfl, sameLine, sameRest⟩ := List.map_eq_cons_iff.mp same.symm
      rw [addLines, addLines, addLine_of_ofLine code line line' sameLine.symm]
      cases code.addLine line' with
      | error fault => rfl
      | ok added => simp only [ih added.1 (index + 1) second sameRest.symm]

theorem addLines_concat_blank (code : Code) (index : Nat) (lines : List String) (line : String)
    (blank : Instruction.ofLine line = .ok none) :
    code.addLines index (lines ++ [line]) = code.addLines index lines := by
  induction lines generalizing code index with
  | nil => simp [addLines, addLine, blank, bind, Except.bind, pure, Except.pure]
  | cons first lines ih => simp only [List.cons_append, addLines, ih]

theorem addLines_append_of_error (code : Code) (index : Nat) (first second : List String)
    (located : SourceFault) (failed : (code.addLines index first).result = .error located) :
    code.addLines index (first ++ second) = code.addLines index first := by
  induction first generalizing code index with
  | nil => contradiction
  | cons line first ih =>
      rw [addLines] at failed
      rw [List.cons_append, addLines, addLines]
      cases added : code.addLine line with
      | error fault => rfl
      | ok found =>
          rw [added] at failed
          simp only [ih found.1 (index + 1) failed]

theorem addLines_append_of_ok (code : Code) (index : Nat) (first second : List String)
    (done : (code.addLines index first).result = .ok ()) :
    code.addLines index (first ++ second) =
      { (code.addLines index first).code.addLines (index + first.length) second with
        log := (code.addLines index first).log ++
          ((code.addLines index first).code.addLines (index + first.length) second).log } := by
  induction first generalizing code index with
  | nil => rfl
  | cons line first ih =>
      rw [addLines] at done
      rw [List.cons_append, addLines, addLines, List.length_cons]
      cases added : code.addLine line with
      | error fault =>
          rw [added] at done
          contradiction
      | ok found =>
          rw [added] at done
          have place : index + (first.length + 1) = index + 1 + first.length := by omega
          simp only [ih found.1 (index + 1) done, place, List.append_assoc]

theorem addLines_error_line (code : Code) (index : Nat) (lines : List String)
    (located : SourceFault) (failed : (code.addLines index lines).result = .error located) :
    index ≤ located.line := by
  induction lines generalizing code index with
  | nil => contradiction
  | cons line lines ih =>
      rw [addLines] at failed
      cases added : code.addLine line with
      | error fault =>
          rw [added] at failed
          cases failed
          exact Nat.le_refl index
      | ok extended =>
          rw [added] at failed
          exact Nat.le_of_succ_le (ih _ _ failed)

theorem addLines_line_feed (code : Code) (index : Nat) (text : String) :
    code.addLines index (Text.lines (text ++ "\n")) = code.addLines index (Text.lines text) := by
  have characters : (text ++ "\n").toList = text.toList ++ ['\n'] := String.toList_append
  simp only [Text.lines, characters]
  rcases Text.linesFrom_closed [] text.toList with added | ⟨earlier, last, opened, closed⟩
  · rw [added, List.map_append]
    exact addLines_concat_blank code index _ (String.ofList []) rfl
  · have trimmed : Text.trim (String.ofList (Text.dropReturn last).reverse).toList =
        Text.trim (String.ofList last.reverse).toList := by
      simp only [String.toList_ofList, Text.trim_dropReturn]
    apply addLines_of_ofLine
    simp only [opened, closed, List.map_append, List.map_singleton,
      Instruction.ofLine_of_trim _ _ trimmed]

theorem refill_line_feed (text : String) : empty.refill (text ++ "\n") = empty.refill text :=
  addLines_line_feed empty 0 text

theorem refill_intercalate (lines : List String)
    (noFeed : ∀ line ∈ lines, '\n' ∉ line.toList) :
    empty.refill ("\n".intercalate lines) = empty.addLines 0 lines := by
  cases lines with
  | nil => rfl
  | cons first others =>
      rw [← refill_line_feed]
      exact addLines_of_ofLine empty 0 _ _ (Text.ofLine_lines_joined first others noFeed)

theorem ofText_line_feed (text : String) : ofText (text ++ "\n") = ofText text := by
  simp only [ofText, refill_line_feed]

theorem refill_joined_of_error (first second : String) (located : SourceFault)
    (failed : (empty.refill first).result = .error located) :
    empty.refill (first ++ "\n" ++ second) = empty.refill first := by
  rw [← refill_line_feed first] at failed ⊢
  rw [refill, Text.lines_joined]
  exact addLines_append_of_error _ 0 _ _ located failed

end Code

/-! ## Joined code -/

def Labels.Apart (left right : Labels) : Prop :=
  ∀ name ∈ left.names, name ∉ right.names

/-- The bindings of two tables, with the addresses of the second moved up. -/
def Labels.union (left right : Labels) (shift : Nat) (apart : left.Apart right) : Labels where
  bindings := right.bindings.map (fun binding => (binding.1, shift + binding.2)) ++ left.bindings
  nonempty_names := by
    intro binding member
    rcases List.mem_append.mp member with moved | kept
    · obtain ⟨original, found, rfl⟩ := List.mem_map.mp moved
      exact right.nonempty_names original found
    · exact left.nonempty_names binding kept
  distinct_names := by
    rw [List.map_append, List.map_map, List.nodup_append]
    refine ⟨right.distinct_names, left.distinct_names, ?_⟩
    intro name inRight other inLeft same
    exact apart other inLeft (same ▸ inRight)

theorem Labels.address?_union (left right : Labels) (shift : Nat) (apart : left.Apart right)
    (name : String) (address : Nat) :
    (left.union right shift apart).address? name = some address ↔
      left.address? name = some address ∨
        ∃ place, right.address? name = some place ∧ address = shift + place := by
  simp only [address?_eq_some_iff, union, List.mem_append, List.mem_map, Prod.mk.injEq,
    Prod.exists]
  constructor
  · rintro (⟨_, place, member, rfl, rfl⟩ | member)
    · exact Or.inr ⟨place, member, rfl⟩
    · exact Or.inl member
  · rintro (member | ⟨place, member, rfl⟩)
    · exact Or.inr member
    · exact Or.inl ⟨name, place, member, rfl, rfl⟩

def Code.append (left right : Code) (apart : left.labels.Apart right.labels) : Code where
  program := .ofList (left.program.toList ++ right.program.toList)
  labels := left.labels.union right.labels left.program.size apart

theorem Program.bindings_append (left right : Program) :
    (ofList (left.toList ++ right.toList)).bindings =
      left.bindings ++ right.bindings.map fun binding => (binding.1, left.size + binding.2) := by
  have moved : right.toList.zipIdx (0 + left.toList.length) =
      right.toList.zipIdx.map fun entry => (entry.1, left.toList.length + entry.2) := by
    rw [List.zipIdx_eq_map_add]
    simp [Nat.add_comm]
  simp only [bindings, toList_ofList, List.zipIdx_append, List.filterMap_append,
    List.map_filterMap, size_eq_length, moved, List.filterMap_map, Function.comp_def,
    Option.map_map]

theorem Code.Coherent.append {left right : Code} (coherentLeft : left.Coherent)
    (coherentRight : right.Coherent) (apart : left.labels.Apart right.labels) :
    (left.append right apart).Coherent := by
  unfold Coherent at coherentLeft coherentRight ⊢
  simp only [Code.append, Labels.union, Program.bindings_append, List.reverse_append,
    coherentLeft, coherentRight, List.map_reverse]

namespace Code

theorem Holds.append {left right : Code} {first second : List String} (holdsLeft : left.Holds first)
    (holdsRight : right.Holds second) (apart : left.labels.Apart right.labels) :
    (left.append right apart).Holds (first ++ second) where
  instructions := by
    rw [Code.append, Program.toList_ofList, holdsLeft.instructions, holdsRight.instructions,
      List.filterMap_append]
  coherent := holdsLeft.coherent.append holdsRight.coherent apart

theorem Holds.unique {code other : Code} {lines : List String} (holds : code.Holds lines)
    (otherHolds : other.Holds lines) : code = other := by
  have programs : code.program = other.program := by
    apply Program.ext
    rw [holds.instructions, otherHolds.instructions]
  exact holds.coherent.ext otherHolds.coherent programs

end Code

/-! ## Bad lines behind others -/

/-- The line with this index has a label that the table binds already. -/
def Labels.ClashesAt (labels : Labels) (lines : List String) (index : Nat) (label : String) :
    Prop :=
  ∃ line, lines[index]? = some line ∧ Line.Labelled line label ∧ label ∈ labels.names

theorem Line.bad_append (earlier middle : List String) (line : String) (fault : Fault) :
    Bad (earlier ++ middle) line fault ↔
      Bad middle line fault ∨
        ∃ label, Labelled line label ∧ (∃ other ∈ earlier, Labelled other label) ∧
          fault = .duplicateLabel label := by
  constructor
  · rintro (unread | ⟨label, labelled, ⟨other, member, otherLabelled⟩, named⟩)
    · exact Or.inl (Or.inl unread)
    · rcases List.mem_append.mp member with before | between
      · exact Or.inr ⟨label, labelled, ⟨other, before, otherLabelled⟩, named⟩
      · exact Or.inl (Or.inr ⟨label, labelled, ⟨other, between, otherLabelled⟩, named⟩)
  · rintro ((unread | ⟨label, labelled, ⟨other, member, otherLabelled⟩, named⟩) |
      ⟨label, labelled, ⟨other, member, otherLabelled⟩, named⟩)
    · exact Or.inl unread
    · exact Or.inr ⟨label, labelled, ⟨other, List.mem_append_right _ member, otherLabelled⟩, named⟩
    · exact Or.inr ⟨label, labelled, ⟨other, List.mem_append_left _ member, otherLabelled⟩, named⟩

namespace Code

/-- Behind other lines a line is bad for what is wrong with it among its own, or for a label that
the code of the other lines binds. -/
theorem Holds.badLine_append {left : Code} {earlier : List String} (holds : left.Holds earlier)
    (rest : List String) (index : Nat) (fault : Fault) :
    BadLine (earlier ++ rest) (earlier.length + index) fault ↔
      BadLine rest index fault ∨
        ∃ label, left.labels.ClashesAt rest index label ∧ fault = .duplicateLabel label := by
  simp only [BadLine, Labels.ClashesAt, List.getElem?_append_right (Nat.le_add_right _ _),
    Nat.add_sub_cancel_left, List.take_length_add_append, Line.bad_append, holds.mem_names_iff]
  constructor
  · rintro ⟨line, found, bad | ⟨label, labelled, bound, named⟩⟩
    · exact Or.inl ⟨line, found, bad⟩
    · exact Or.inr ⟨label, ⟨line, found, labelled, bound⟩, named⟩
  · rintro (⟨line, found, bad⟩ | ⟨label, ⟨line, found, labelled, bound⟩, named⟩)
    · exact ⟨line, found, Or.inl bad⟩
    · exact ⟨line, found, Or.inr ⟨label, labelled, bound, named⟩⟩

/-- The first line with a label that is bound elsewhere is not bad among its own: its label would
stand on an earlier line. -/
theorem not_badLine_of_first_clash (labels : Labels) (lines : List String) (index : Nat)
    (label : String) (fault : Fault) (clashes : labels.ClashesAt lines index label)
    (first : ∀ earlier other, earlier < index → ¬ labels.ClashesAt lines earlier other) :
    ¬ BadLine lines index fault := by
  obtain ⟨line, found, ⟨instruction, read, labelled⟩, bound⟩ := clashes
  rintro ⟨same, foundAgain, bad⟩
  obtain rfl : line = same := Option.some.inj (found.symm.trans foundAgain)
  obtain ⟨repeated, labelledAgain, ⟨other, member, otherLabelled⟩, -⟩ :=
    (Line.bad_of_read _ line fault instruction read).mp bad
  obtain rfl : label = repeated := Option.some.inj (labelled.symm.trans labelledAgain)
  obtain ⟨earlier, otherFound⟩ := List.mem_iff_getElem?.mp member
  rw [List.getElem?_take] at otherFound
  split at otherFound
  · next before => exact first earlier label before ⟨other, otherFound, otherLabelled, bound⟩
  · contradiction

/-- What keeps a text out behind code with this table: a fault of the text itself, or a label that
the table binds, whichever comes first. -/
inductive KeptOut (labels : Labels) (text : String) : SourceFault → Prop
  | own (located : SourceFault) (failed : ofText text = .error located)
      (first : ∀ index label, labels.ClashesAt (Text.lines text) index label →
        located.line < index) :
      KeptOut labels text located
  | clash (index : Nat) (label : String)
      (clashes : labels.ClashesAt (Text.lines text) index label)
      (first : ∀ other label, labels.ClashesAt (Text.lines text) other label → index ≤ other)
      (before : ∀ located, ofText text = .error located → index < located.line) :
      KeptOut labels text ⟨index, .duplicateLabel label⟩

theorem KeptOut.of_first {labels : Labels} {text : String} (located : SourceFault)
    (bad : BadLine (Text.lines text) located.line located.fault ∨
      ∃ label, labels.ClashesAt (Text.lines text) located.line label ∧
        located.fault = .duplicateLabel label)
    (good : ∀ index fault, index < located.line → ¬ BadLine (Text.lines text) index fault)
    (free : ∀ index label, index < located.line →
      ¬ labels.ClashesAt (Text.lines text) index label) :
    KeptOut labels text located := by
  obtain ⟨index, fault⟩ := located
  have later : ∀ other label, labels.ClashesAt (Text.lines text) other label → index ≤ other :=
    fun other label clashes => Nat.le_of_not_lt fun before => free other label before clashes
  by_cases clashing : ∃ label, labels.ClashesAt (Text.lines text) index label
  · obtain ⟨label, clashes⟩ := clashing
    have fine := fun fault => not_badLine_of_first_clash labels _ index label fault clashes free
    obtain ⟨named, namedClashes, rfl⟩ := bad.resolve_left (fine fault)
    refine .clash index named namedClashes later ?_
    intro own failed
    obtain ⟨ownBad, -⟩ := (ofText_error_iff text own).mp failed
    apply Nat.lt_of_le_of_ne
    · exact Nat.le_of_not_lt fun before => good own.line own.fault before ownBad
    · rintro rfl
      exact fine own.fault ownBad
  · have ownBad := bad.resolve_right fun ⟨label, clashes, _⟩ => clashing ⟨label, clashes⟩
    refine .own ⟨index, fault⟩ ((ofText_error_iff text _).mpr ⟨ownBad, good⟩) ?_
    intro other label clashes
    apply Nat.lt_of_le_of_ne (later other label clashes)
    rintro rfl
    exact clashing ⟨label, clashes⟩

theorem apart_of_no_clash {right : Code} {lines : List String} (holds : right.Holds lines)
    (labels : Labels) (free : ∀ index label, ¬ labels.ClashesAt lines index label) :
    labels.Apart right.labels := by
  intro name bound boundAgain
  obtain ⟨line, member, labelled⟩ := (holds.mem_names_iff name).mp boundAgain
  obtain ⟨index, found⟩ := List.mem_iff_getElem?.mp member
  exact free index name ⟨line, found, labelled, bound⟩

theorem KeptOut.not_apart {labels : Labels} {text : String} {located : SourceFault}
    (kept : KeptOut labels text located) (right : Code) (success : ofText text = .ok right) :
    ¬ labels.Apart right.labels := by
  intro apart
  cases kept with
  | own _ failed first =>
      rw [success] at failed
      contradiction
  | clash index label clashes first before =>
      obtain ⟨line, found, labelled, bound⟩ := clashes
      have carried := ((holds_of_ofText text right success).mem_names_iff label).mpr
        ⟨line, List.mem_of_getElem? found, labelled⟩
      exact apart label bound carried

/-! ## Joined texts -/

theorem ofText_joined_of_error (first second : String) (located : SourceFault)
    (failed : ofText first = .error located) :
    ofText (first ++ "\n" ++ second) = .error located := by
  rw [ofText_eq_error_iff] at failed ⊢
  rw [refill_joined_of_error first second located failed]
  exact failed

theorem refill_joined_of_ok (first second : String) (left : Code)
    (success : ofText first = .ok left) :
    (empty.refill (first ++ "\n" ++ second)).result =
        (left.addLines (first.toList.count '\n' + 1) (Text.lines second)).result ∧
      (empty.refill (first ++ "\n" ++ second)).code =
        (left.addLines (first.toList.count '\n' + 1) (Text.lines second)).code := by
  rw [← ofText_line_feed, ofText_eq_ok_iff] at success
  obtain ⟨done, rfl⟩ := success
  rw [refill, Text.lines_joined, addLines_append_of_ok _ _ _ _ done, Text.length_lines_line_feed,
    Nat.zero_add]
  exact ⟨rfl, rfl⟩

theorem ofText_joined_cases (first second : String) (left : Code)
    (success : ofText first = .ok left) :
    (∃ right, ∃ apart : left.labels.Apart right.labels, ofText second = .ok right ∧
        ofText (first ++ "\n" ++ second) = .ok (left.append right apart)) ∨
      ∃ located, KeptOut left.labels second located ∧
        ofText (first ++ "\n" ++ second) =
          .error ⟨first.toList.count '\n' + 1 + located.line, located.fault⟩ := by
  obtain ⟨result, code⟩ := refill_joined_of_ok first second left success
  have holds := holds_of_ofText (first ++ "\n") left ((ofText_line_feed first).trans success)
  rw [← Text.length_lines_line_feed] at result code ⊢
  generalize Text.lines (first ++ "\n") = earlier at holds result code ⊢
  have badLine := holds.badLine_append (Text.lines second)
  rcases holds.addLines (Text.lines second) with
    ⟨done, held, good⟩ | ⟨⟨place, fault⟩, failed, -, bad, good⟩
  · have free : ∀ index label, ¬ left.labels.ClashesAt (Text.lines second) index label :=
      fun index label clashes => good _ _ (Nat.le_add_right _ _)
        ((badLine index _).mpr (Or.inr ⟨label, clashes, rfl⟩))
    rcases ofText_cases second with ⟨right, assembled, holdsRight, -⟩ | ⟨located, -, own, -⟩
    · have apart := apart_of_no_clash holdsRight left.labels free
      refine Or.inl ⟨right, apart, assembled, (ofText_eq_ok_iff _ _).mpr ⟨?_, ?_⟩⟩
      · rw [result, done]
      · rw [code]
        exact held.unique (holds.append holdsRight apart)
    · exact absurd ((badLine _ _).mpr (Or.inl ((own _).mpr rfl))) (good _ _ (Nat.le_add_right _ _))
  · obtain ⟨index, rfl⟩ := Nat.exists_eq_add_of_le (addLines_error_line _ _ _ _ failed)
    refine Or.inr ⟨⟨index, fault⟩, ?_, (ofText_eq_error_iff _ _).mpr (result.trans failed)⟩
    refine .of_first _ ((badLine index fault).mp ((bad fault).mpr rfl)) ?_ ?_
    · intro other otherFault before ownBad
      exact good _ _ (Nat.le_add_right _ _) (Nat.add_lt_add_left before _)
        ((badLine other otherFault).mpr (Or.inl ownBad))
    · intro other label before clashes
      exact good _ _ (Nat.le_add_right _ _) (Nat.add_lt_add_left before _)
        ((badLine other _).mpr (Or.inr ⟨label, clashes, rfl⟩))

/-- The code of joined texts is the code of the first with that of the second behind it.  A fault
in the first text is reported as if it stood alone; what keeps the second text out is reported
that many lines further on as the first text has. -/
theorem ofText_of_joined_texts (first second : String) :
    (∀ located, ofText first = .error located →
        ofText (first ++ "\n" ++ second) = .error located) ∧
      (∀ left right, ofText first = .ok left → ofText second = .ok right →
        ∀ apart : left.labels.Apart right.labels,
          ofText (first ++ "\n" ++ second) = .ok (left.append right apart)) ∧
      ∀ left, ofText first = .ok left →
        (¬ ∃ right, ofText second = .ok right ∧ left.labels.Apart right.labels) →
          ∃ located, KeptOut left.labels second located ∧
            ofText (first ++ "\n" ++ second) =
              .error ⟨first.toList.count '\n' + 1 + located.line, located.fault⟩ := by
  refine ⟨ofText_joined_of_error first second, ?_, ?_⟩
  · intro left right success assembled apart
    rcases ofText_joined_cases first second left success with
      ⟨found, _, same, joined⟩ | ⟨located, kept, -⟩
    · cases Except.ok.inj (assembled.symm.trans same)
      exact joined
    · exact absurd apart (kept.not_apart right assembled)
  · intro left success unfit
    rcases ofText_joined_cases first second left success with
      ⟨right, apart, assembled, -⟩ | kept
    · exact absurd ⟨right, assembled, apart⟩ unfit
    · exact kept

def labelledMove : Code where
  program := .ofList [⟨some "top", .mov .eax 1⟩]
  labels := ⟨[("top", 0)], by simp, by simp⟩

theorem ofText_of_texts_joined_to_labelledMove :
    ofText ("top: mov EAX" ++ "\n" ++ "halt") = .error ⟨0, .invalidLiteral ""⟩ ∧
      ofText ("top: mov EAX 1\r" ++ "\n" ++ "\ng: jnz EAX top") =
        .ok ⟨.ofList [⟨some "top", .mov .eax 1⟩, ⟨some "g", .jnz .eax "top"⟩],
          ⟨[("g", 1), ("top", 0)], by simp, by simp⟩⟩ ∧
      (∃ located, KeptOut labelledMove.labels "out EAX\ntop: out EBX\nhalt" located ∧
        ofText ("top: mov EAX 1\r" ++ "\n" ++ "out EAX\ntop: out EBX\nhalt") =
          .error ⟨1 + located.line, located.fault⟩) ∧
      ofText ("top: mov EAX 1\r" ++ "\n" ++ "out EAX\ntop: out EBX\nhalt") =
        .error ⟨2, .duplicateLabel "top"⟩ := by
  have first : ofText "top: mov EAX 1\r" = .ok labelledMove := by decide +kernel
  have second : ofText "\ng: jnz EAX top" =
      .ok ⟨.ofList [⟨some "g", .jnz .eax "top"⟩], ⟨[("g", 0)], by simp, by simp⟩⟩ := by
    decide +kernel
  have unreadable : ofText "out EAX\ntop: out EBX\nhalt" = .error ⟨2, .unknownOpcode "halt"⟩ := by
    decide +kernel
  refine ⟨(ofText_of_joined_texts _ _).1 _ (by decide +kernel), ?_, ?_, by decide +kernel⟩
  · exact (ofText_of_joined_texts _ _).2.1 _ _ first second
      (by simp [Labels.Apart, Labels.names, labelledMove])
  · apply (ofText_of_joined_texts _ _).2.2 labelledMove first
    rintro ⟨right, assembled, -⟩
    rw [unreadable] at assembled
    contradiction

end Code

end RegisterMachine
