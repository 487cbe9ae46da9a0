import Mathlib.Data.List.TakeWhile
import RegisterMachine.WordReader

/-!
# The words of a line

The words of a line are its longest parts without blanks.  Blanks at the two ends do not count,
so a trimmed line has the words of the line, and a reader gives these words from left to right.
-/

set_option autoImplicit false

namespace RegisterMachine

namespace Text

def words (line : List Char) : List String :=
  ((line.splitOnP isBlank).filter fun part => !part.isEmpty).map String.ofList

/-- A string that can stand as one word in a line. -/
def IsWord (word : String) : Prop :=
  word ≠ "" ∧ ∀ c ∈ word.toList, isBlank c = false

/-! ## Words between blanks -/

@[simp] theorem words_nil : words [] = [] := by
  simp [words]

/-- Words are separated by every blank.  All other equations for words follow from this one. -/
theorem words_append_blank (before after : List Char) (c : Char) (blank : isBlank c = true) :
    words (before ++ c :: after) = words before ++ words after := by
  rw [words, List.splitOnP_append_cons before after blank, List.filter_append, List.map_append]
  rfl

theorem words_cons_blank (line : List Char) (c : Char) (blank : isBlank c = true) :
    words (c :: line) = words line := by
  have split := words_append_blank [] line c blank
  rwa [List.nil_append, words_nil, List.nil_append] at split

theorem words_concat_blank (line : List Char) (c : Char) (blank : isBlank c = true) :
    words (line ++ [c]) = words line := by
  rw [words_append_blank line [] c blank, words_nil, List.append_nil]

theorem words_of_visible (line : List Char) (nonempty : line ≠ [])
    (visible : ∀ c ∈ line, isBlank c = false) : words line = [String.ofList line] := by
  rw [words, List.splitOnP_eq_singleton visible]
  simp [nonempty]

theorem words_of_isWord (word : String) (isWord : IsWord word) :
    words word.toList = [word] := by
  have nonempty : word.toList ≠ [] := fun empty => isWord.1 (String.toList_eq_nil_iff.mp empty)
  rw [words_of_visible word.toList nonempty isWord.2, String.ofList_toList]

theorem words_eq_nil_iff (line : List Char) :
    words line = [] ↔ ∀ c ∈ line, isBlank c = true := by
  induction line with
  | nil => simp
  | cons c line ih =>
      cases blank : isBlank c with
      | true => rw [words_cons_blank line c blank, ih]; simp [blank]
      | false =>
          have split := List.splitOnP_cons_eq_if_modifyHead (p := isBlank) c line
          obtain ⟨head, tail, parts⟩ :=
            List.exists_cons_of_ne_nil (List.splitOnP_ne_nil isBlank line)
          simp [words, split, blank, parts]

/-- A visible character begins a word, which goes on to the next blank. -/
theorem words_cons_visible (c : Char) (line : List Char) (visible : isBlank c = false) :
    words (c :: line) =
      String.ofList (c :: line.takeWhile fun d => !isBlank d) ::
        words (line.dropWhile fun d => !isBlank d) := by
  have taken : ∀ d ∈ c :: line.takeWhile fun d => !isBlank d, isBlank d = false := by
    intro d inside
    rcases List.mem_cons.mp inside with rfl | inside
    · exact visible
    · simpa using List.mem_takeWhile_imp inside
  have whole : c :: line = (c :: line.takeWhile fun d => !isBlank d) ++
      line.dropWhile fun d => !isBlank d := by
    rw [List.cons_append, List.takeWhile_append_dropWhile]
  have first := words_of_visible _ (List.cons_ne_nil c _) taken
  rw [whole]
  cases behind : line.dropWhile fun d => !isBlank d with
  | nil => rw [List.append_nil, first, words_nil]
  | cons d after =>
      have nonempty : line.dropWhile (fun d => !isBlank d) ≠ [] := by
        rw [behind]
        exact List.cons_ne_nil d after
      have blank : isBlank d = true := by
        simpa [behind] using List.head_dropWhile_not (fun d => !isBlank d) nonempty
      rw [words_append_blank _ after d blank, first, words_cons_blank after d blank]
      rfl

theorem not_isBlank_of_mem_splitOnP (line part : List Char)
    (member : part ∈ line.splitOnP isBlank) : ∀ c ∈ part, isBlank c = false := by
  induction line generalizing part with
  | nil =>
      cases List.mem_singleton.mp member
      simp
  | cons first line ih =>
      rw [List.splitOnP_cons_eq_if_modifyHead] at member
      obtain ⟨head, tail, parts⟩ :=
        List.exists_cons_of_ne_nil (List.splitOnP_ne_nil isBlank line)
      rw [parts] at member ih
      cases blank : isBlank first with
      | true =>
          rw [if_pos blank] at member
          rcases List.mem_cons.mp member with rfl | later
          · simp
          · exact ih part later
      | false =>
          rw [if_neg (by simp [blank]), List.modifyHead_cons] at member
          rcases List.mem_cons.mp member with rfl | later
          · intro c inside
            rcases List.mem_cons.mp inside with rfl | inside
            · exact blank
            · exact ih head List.mem_cons_self c inside
          · exact ih part (List.mem_cons_of_mem _ later)

theorem isWord_of_mem_words (line : List Char) (word : String) (member : word ∈ words line) :
    IsWord word := by
  obtain ⟨part, kept, rfl⟩ := List.mem_map.mp member
  obtain ⟨found, nonempty⟩ := List.mem_filter.mp kept
  constructor
  · intro empty
    have nil : part = [] := by simpa using congrArg String.toList empty
    simp [nil] at nonempty
  · rw [String.toList_ofList]
    exact not_isBlank_of_mem_splitOnP line part found

/-! ## Blanks at the ends -/

theorem words_trimStart (line : List Char) : words (trimStart line) = words line := by
  induction line with
  | nil => rfl
  | cons c line ih =>
      cases blank : isBlank c with
      | true => rw [trimStart_cons_of_isBlank c line blank, ih, words_cons_blank line c blank]
      | false => rw [trimStart_cons_of_not_isBlank c line blank]

theorem words_trimEnd (line : List Char) : words (trimEnd line) = words line := by
  have reversed : ∀ back : List Char,
      words (back.dropWhile isBlank).reverse = words back.reverse := by
    intro back
    induction back with
    | nil => rfl
    | cons c back ih =>
        cases blank : isBlank c with
        | true =>
            rw [List.dropWhile_cons, if_pos blank, ih, List.reverse_cons,
              words_concat_blank back.reverse c blank]
        | false => rw [List.dropWhile_cons, if_neg (by simp [blank])]
  rw [trimEnd, reversed line.reverse, List.reverse_reverse]

theorem words_trim (line : List Char) : words (trim line) = words line := by
  rw [trim, words_trimEnd, words_trimStart]

theorem trim_concat_blank (line : List Char) (c : Char) (blank : isBlank c = true) :
    trim (line ++ [c]) = trim line := by
  unfold trim trimStart
  rw [List.dropWhile_append]
  cases start : line.dropWhile isBlank with
  | nil => simp [blank]
  | cons first rest => simp [trimEnd, blank]

def Surrounds (core line : List Char) : Prop :=
  ∃ before after, (∀ c ∈ before, isBlank c = true) ∧ (∀ c ∈ after, isBlank c = true) ∧
    line = before ++ core ++ after

theorem Surrounds.trim_eq {core line : List Char} (surrounds : Surrounds core line) :
    trim line = trim core := by
  obtain ⟨before, after, blankBefore, blankAfter, rfl⟩ := surrounds
  have atStart : trim (before ++ core) = trim core := by
    rw [trim, trimStart, List.dropWhile_append_of_pos blankBefore]
    rfl
  rw [← atStart]
  generalize before ++ core = line
  induction after generalizing line with
  | nil => rw [List.append_nil]
  | cons c after ih =>
      rw [List.forall_mem_cons] at blankAfter
      rw [List.append_cons, ih blankAfter.2, trim_concat_blank line c blankAfter.1]

theorem blankCount_trim_le (line : List Char) : blankCount (trim line) ≤ blankCount line := by
  have atStart : (trimStart line).Sublist line := List.dropWhile_sublist _
  have atEnd : (trim line).Sublist (trimStart line) := by
    rw [trim, trimEnd, ← List.reverse_sublist, List.reverse_reverse]
    exact List.dropWhile_sublist _
  exact (atEnd.trans atStart).countP_le

/-! ## Lines made of words -/

theorem toList_intercalate_cons_cons (separator first second : String) (rest : List String) :
    (separator.intercalate (first :: second :: rest)).toList =
      first.toList ++ (separator.toList ++ (separator.intercalate (second :: rest)).toList) := by
  rw [String.intercalate_cons_cons, String.toList_append, String.toList_append,
    List.append_assoc]

theorem mem_intercalate_blank (line : List String) (c : Char)
    (member : c ∈ (" ".intercalate line).toList) : c = ' ' ∨ ∃ word ∈ line, c ∈ word.toList := by
  induction line with
  | nil => simp at member
  | cons word line ih =>
      cases line with
      | nil =>
          rw [String.intercalate_singleton] at member
          exact Or.inr ⟨word, List.mem_cons_self, member⟩
      | cons next line =>
          rw [toList_intercalate_cons_cons, List.mem_append, List.mem_append] at member
          rcases member with inside | between | later
          · exact Or.inr ⟨word, List.mem_cons_self, inside⟩
          · exact Or.inl (List.mem_singleton.mp between)
          · rcases ih later with same | ⟨other, found, inside⟩
            · exact Or.inl same
            · exact Or.inr ⟨other, List.mem_cons_of_mem _ found, inside⟩

theorem words_intercalate_parts (parts : List String) :
    words (" ".intercalate parts).toList = parts.flatMap fun part => words part.toList := by
  induction parts with
  | nil => simp
  | cons part parts ih =>
      cases parts with
      | nil => rw [String.intercalate_singleton, List.flatMap_singleton]
      | cons next parts =>
          have split : (" ".intercalate (part :: next :: parts)).toList =
              part.toList ++ ' ' :: (" ".intercalate (next :: parts)).toList :=
            toList_intercalate_cons_cons " " part next parts
          rw [split, words_append_blank _ _ ' ' rfl, ih]
          rfl

theorem flatMap_words (line : List String) (areWords : ∀ word ∈ line, IsWord word) :
    line.flatMap (fun word => words word.toList) = line := by
  induction line with
  | nil => rfl
  | cons word line ih =>
      rw [List.forall_mem_cons] at areWords
      rw [List.flatMap_cons, words_of_isWord word areWords.1, ih areWords.2]
      rfl

theorem words_intercalate (line : List String) (areWords : ∀ word ∈ line, IsWord word) :
    words (" ".intercalate line).toList = line := by
  rw [words_intercalate_parts, flatMap_words line areWords]

theorem blankCount_intercalate (line : List String) (areWords : ∀ word ∈ line, IsWord word) :
    blankCount (" ".intercalate line).toList = line.length - 1 := by
  induction line with
  | nil => rfl
  | cons word line ih =>
      have first : blankCount word.toList = 0 := by
        rw [blankCount, List.countP_eq_zero]
        intro c inside
        simp [(areWords word List.mem_cons_self).2 c inside]
      cases line with
      | nil => rw [String.intercalate_singleton, first]; rfl
      | cons next line =>
          have others := ih fun other member => areWords other (List.mem_cons_of_mem _ member)
          have separator : blankCount " ".toList = 1 := by decide
          rw [toList_intercalate_cons_cons]
          simp only [blankCount, List.countP_append, List.length_cons] at first others separator ⊢
          omega

end Text

namespace WordReader

/-- A reader gives the first word of what is left, and leaves the others. -/
theorem next_words (reader : WordReader) :
    ∃ rest, reader.next = ((Text.words reader.rest).head?, ⟨rest⟩) ∧
      Text.words rest = (Text.words reader.rest).tail := by
  rw [← Text.words_trimStart reader.rest]
  cases start : Text.trimStart reader.rest with
  | nil => exact ⟨[], by rw [next, start]; rfl, rfl⟩
  | cons c rest =>
      have visible : Text.isBlank c = false :=
        Text.trimStart_head_visible reader.rest c rest start
      refine ⟨rest.dropWhile fun d => !Text.isBlank d, ?_⟩
      simp only [next, start, Text.words_cons_visible c rest visible]
      exact ⟨rfl, rfl⟩

end WordReader

end RegisterMachine
