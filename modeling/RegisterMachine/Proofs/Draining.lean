import Mathlib.Data.List.DropRight
import RegisterMachine.Proofs.Grammar

/-!
# Asking a reader until it has no word left

A reader that is asked for words again and again gives the words of its line from left to right,
each of them once, and then none, however often it is asked.  These words are the longest parts of
the line without blanks, and with the runs of blanks between them they make up the trimmed line.
Between two neighbours stands at least one of the few blanks that a line may hold.
-/

set_option autoImplicit false

namespace RegisterMachine

namespace Text

/-- A word between two texts that reaches into neither of them: with any more of the texts around
it, it would hold a blank. -/
structure IsLongest (before : List Char) (word : String) (after : List Char) : Prop where
  isWord : IsWord word
  longest : ∀ left right, left <:+ before → right <+: after →
    (∀ c ∈ left ++ word.toList ++ right, isBlank c = false) → left = [] ∧ right = []

def LongestAt (line : List Char) (start : Nat) (word : String) : Prop :=
  ∃ before after, line = before ++ word.toList ++ after ∧ before.length = start ∧
    IsLongest before word after

/-- These are all the longest parts of the line without blanks, in the order of their positions. -/
def LongestInOrder (line : List Char) (parts : List String) : Prop :=
  ∃ places : List (Nat × String), places.map Prod.snd = parts ∧
    places.Pairwise (fun first second => first.1 < second.1) ∧
    ∀ start word, (start, word) ∈ places ↔ LongestAt line start word

def IsRun (run : List Char) : Prop :=
  run ≠ [] ∧ ∀ c ∈ run, isBlank c = true

/-- The words with one run behind each of them, as far as there are runs. -/
def interleave : List String → List (List Char) → List Char
  | [], _ => []
  | word :: words, runs => word.toList ++ runs.headD [] ++ interleave words runs.tail

end Text

namespace WordReader

def after : Nat → WordReader → WordReader
  | 0, reader => reader
  | calls + 1, reader => after calls reader.next.2

/-- The words that a reader gives until it gives none. -/
def drain (reader : WordReader) : List String :=
  match _ : reader.next.1 with
  | none => []
  | some word => word :: reader.next.2.drain
termination_by reader.rest.length
decreasing_by exact reader.next_rest_length_lt _ ‹_›

end WordReader

namespace Text

/-! ## Lines, one blank at a time -/

/-- A line is without blanks, or it is two lines with a blank between them. -/
@[elab_as_elim]
theorem line_induction {motive : List Char → Prop}
    (clear : ∀ line, (∀ c ∈ line, isBlank c = false) → motive line)
    (split : ∀ before c after, isBlank c = true → motive before → motive after →
      motive (before ++ c :: after)) (line : List Char) : motive line := by
  induction size : line.length using Nat.strongRecOn generalizing line with
  | ind size ih =>
      by_cases visible : ∀ c ∈ line, isBlank c = false
      · exact clear line visible
      · simp only [not_forall, Bool.not_eq_false] at visible
        obtain ⟨c, member, blank⟩ := visible
        obtain ⟨before, after, rfl⟩ := List.append_of_mem member
        rw [List.length_append, List.length_cons] at size
        exact split before c after blank (ih before.length (by omega) before rfl)
          (ih after.length (by omega) after rfl)

theorem length_words_le (line : List Char) : (words line).length ≤ blankCount line + 1 := by
  induction line using line_induction with
  | clear line visible =>
      by_cases empty : line = []
      · rw [empty, words_nil]
        exact Nat.zero_le _
      · rw [words_of_visible line empty visible]
        exact Nat.le_add_left 1 _
  | split before c after blank ihBefore ihAfter =>
      rw [words_append_blank before after c blank, List.length_append]
      simp only [blankCount, List.countP_append, List.countP_cons, blank, if_true] at ihBefore ihAfter ⊢
      omega

/-! ## The longest parts of a line without blanks -/

theorem isLongest_iff (before : List Char) (word : String) (after : List Char) :
    IsLongest before word after ↔
      IsWord word ∧ (∀ c ∈ before.getLast?, isBlank c = true) ∧
        ∀ c ∈ after.head?, isBlank c = true := by
  constructor
  · rintro ⟨isWord, longest⟩
    refine ⟨isWord, fun c last => ?_, fun c first => ?_⟩
    · obtain ⟨front, rfl⟩ := List.getLast?_eq_some_iff.mp last
      by_contra visible
      rw [Bool.not_eq_true] at visible
      have longer : ∀ d ∈ [c] ++ word.toList ++ [], isBlank d = false := by
        simpa [visible] using isWord.2
      exact List.cons_ne_nil c []
        (longest [c] [] (List.suffix_append front [c]) List.nil_prefix longer).1
    · obtain ⟨rest, rfl⟩ := List.head?_eq_some_iff.mp first
      by_contra visible
      rw [Bool.not_eq_true] at visible
      have longer : ∀ d ∈ [] ++ word.toList ++ [c], isBlank d = false := by
        simpa [visible, or_imp, forall_and] using isWord.2
      exact List.cons_ne_nil c []
        (longest [] [c] List.nil_suffix ⟨rest, rfl⟩ longer).2
  · rintro ⟨isWord, last, first⟩
    refine ⟨isWord, fun left right behind ahead visible => ⟨?_, ?_⟩⟩
    · rcases List.eq_nil_or_concat left with empty | ⟨front, c, rfl⟩
      · exact empty
      · obtain ⟨start, rfl⟩ := behind
        have blank := last c (by simp)
        have clear := visible c (by simp)
        rw [blank] at clear
        contradiction
    · cases right with
      | nil => rfl
      | cons c right =>
          obtain ⟨rest, rfl⟩ := ahead
          have blank := first c (by simp)
          have clear := visible c (by simp)
          rw [blank] at clear
          contradiction

theorem LongestAt.start_lt {line : List Char} {start : Nat} {word : String}
    (found : LongestAt line start word) : start < line.length := by
  obtain ⟨before, after, rfl, rfl, longest⟩ := found
  have nonempty : 0 < word.toList.length := by
    rw [List.length_pos_iff, Ne, String.toList_eq_nil_iff]
    exact longest.isWord.1
  rw [List.length_append, List.length_append]
  omega

theorem longestAt_of_visible (line : List Char) (visible : ∀ c ∈ line, isBlank c = false)
    (start : Nat) (word : String) :
    LongestAt line start word ↔ line ≠ [] ∧ start = 0 ∧ word = String.ofList line := by
  constructor
  · intro found
    have nonempty : line ≠ [] := List.length_pos_iff.mp (Nat.zero_lt_of_lt found.start_lt)
    obtain ⟨before, after, rfl, rfl, longest⟩ := found
    obtain ⟨rfl, rfl⟩ := longest.longest before after List.suffix_rfl List.prefix_rfl visible
    exact ⟨nonempty, rfl, by simp⟩
  · rintro ⟨nonempty, rfl, rfl⟩
    refine ⟨[], [], by simp, rfl, (isLongest_iff _ _ _).mpr ⟨⟨?_, ?_⟩, by simp, by simp⟩⟩
    · simpa using nonempty
    · simpa using visible

theorem beside_of_not_mem {line rest before part after : List Char} {c : Char}
    (same : line ++ c :: rest = before ++ part ++ after) (outside : c ∉ part) :
    (∃ between, line = before ++ part ++ between ∧ after = between ++ c :: rest) ∨
      ∃ between, before = line ++ c :: between ∧ rest = between ++ part ++ after := by
  rcases List.append_eq_append_iff.mp same with ⟨between, ends, starts⟩ | ⟨between, ends, starts⟩
  · rcases List.cons_eq_append_iff.mp starts with ⟨rfl, rfl⟩ | ⟨inside, rfl, rfl⟩
    · exact Or.inl ⟨[], by simpa using ends.symm, rfl⟩
    · rcases List.append_eq_append_iff.mp ends with ⟨front, -, rfl⟩ | ⟨front, rfl, starts⟩
      · simp at outside
      · rcases List.cons_eq_append_iff.mp starts with ⟨rfl, rfl⟩ | ⟨front, rfl, rfl⟩
        · simp at outside
        · exact Or.inr ⟨front, rfl, rfl⟩
  · exact Or.inl ⟨between, ends, starts⟩

theorem longestAt_append_blank (line rest : List Char) (c : Char) (blank : isBlank c = true)
    (start : Nat) (word : String) :
    LongestAt (line ++ c :: rest) start word ↔
      LongestAt line start word ∨
        ∃ behind, LongestAt rest behind word ∧ line.length + 1 + behind = start := by
  simp only [LongestAt, isLongest_iff]
  constructor
  · rintro ⟨before, after, same, rfl, isWord, last, first⟩
    have outside : c ∉ word.toList := fun inside => by
      have visible := isWord.2 c inside
      rw [blank] at visible
      contradiction
    rcases beside_of_not_mem same outside with ⟨between, rfl, rfl⟩ | ⟨between, rfl, rfl⟩
    · refine Or.inl ⟨before, between, rfl, rfl, isWord, last, fun d head => first d ?_⟩
      exact List.mem_head?_append_of_mem_head? head
    · refine Or.inr ⟨between.length, ⟨between, after, rfl, rfl, isWord, fun d final => last d ?_,
        first⟩, ?_⟩
      · exact List.mem_getLast?_append_of_mem_getLast? (List.mem_getLast?_cons final)
      · rw [List.length_append, List.length_cons]
        omega
  · rintro (⟨before, after, rfl, rfl, isWord, last, first⟩ |
      ⟨_, ⟨before, after, rfl, rfl, isWord, last, first⟩, rfl⟩)
    · refine ⟨before, after ++ c :: rest, by simp, rfl, isWord, last, ?_⟩
      cases after with
      | nil => simpa using blank
      | cons d after => simpa using first
    · refine ⟨line ++ c :: before, after, by simp, ?_, isWord, ?_, first⟩
      · rw [List.length_append, List.length_cons]
        omega
      · rcases List.eq_nil_or_concat before with rfl | ⟨front, d, rfl⟩
        · simpa using blank
        · simpa [List.getLast?_cons] using last

/-- The words of a line are its longest parts without blanks. -/
theorem longestInOrder_words (line : List Char) : LongestInOrder line (words line) := by
  induction line using line_induction with
  | clear line visible =>
      by_cases empty : line = []
      · subst empty
        refine ⟨[], words_nil.symm, List.Pairwise.nil, fun start word => ?_⟩
        simp [longestAt_of_visible [] visible]
      · refine ⟨[(0, String.ofList line)], by rw [words_of_visible line empty visible]; rfl,
          List.pairwise_singleton _ _, fun start word => ?_⟩
        simp [longestAt_of_visible line visible, empty]
  | split before c after blank ihBefore ihAfter =>
      obtain ⟨places, here, ordered, found⟩ := ihBefore
      obtain ⟨others, behind, ordered', found'⟩ := ihAfter
      let shift : Nat × String → Nat × String := Prod.map (before.length + 1 + ·) id
      refine ⟨places ++ others.map shift, ?_, ?_, fun start word => ?_⟩
      · rw [List.map_append, List.map_map, here, words_append_blank before after c blank, ← behind]
        rfl
      · refine List.pairwise_append.mpr ⟨ordered, ?_, ?_⟩
        · rw [List.pairwise_map]
          exact ordered'.imp fun less => Nat.add_lt_add_left less _
        · intro first member second member'
          obtain ⟨place, -, rfl⟩ := List.mem_map.mp member'
          have within := ((found first.1 first.2).mp member).start_lt
          simp only [shift, Prod.map_fst]
          omega
      · rw [longestAt_append_blank before after c blank, List.mem_append, found]
        simp only [shift, List.mem_map, Prod.exists, Prod.map_apply, id_eq, Prod.mk.injEq, found',
          exists_eq_right_right]

/-! ## Words and the runs of blanks between them -/

theorem trim_head_visible (line : List Char) : ∀ c ∈ (trim line).head?, isBlank c = false := by
  intro c first
  obtain ⟨rest, trimmed⟩ := List.head?_eq_some_iff.mp first
  obtain ⟨behind, whole⟩ := List.rdropWhile_prefix isBlank (l := trimStart line)
  refine trimStart_head_visible line c (rest ++ behind) ?_
  rw [← whole, ← List.cons_append, ← trimmed]
  rfl

theorem trim_getLast_visible (line : List Char) :
    ∀ c ∈ (trim line).getLast?, isBlank c = false := by
  intro c last
  obtain ⟨nonempty, rfl⟩ := List.mem_getLast?_eq_getLast last
  exact (Bool.not_eq_true _).mp (List.rdropWhile_last_not isBlank (trimStart line) nonempty)

theorem exists_first_word (line : List Char) (word : String) (others : List String)
    (same : words line = word :: others) (first : ∀ c ∈ line.head?, isBlank c = false) :
    ∃ behind, line = word.toList ++ behind ∧ words behind = others ∧
      ∀ c ∈ behind.head?, isBlank c = true := by
  cases line with
  | nil =>
      rw [words_nil] at same
      contradiction
  | cons c line =>
      rw [words_cons_visible c line (first c rfl)] at same
      obtain ⟨rfl, behind⟩ := List.cons.inj same
      refine ⟨line.dropWhile fun d => !isBlank d, ?_, behind, fun d head => ?_⟩
      · rw [String.toList_ofList, List.cons_append, List.takeWhile_append_dropWhile]
      · have stopped := List.head?_dropWhile_not (fun d => !isBlank d) line
        rw [Option.mem_def.mp head] at stopped
        simpa using stopped

theorem exists_run (line : List Char) (first : ∀ c ∈ line.head?, isBlank c = true)
    (more : words line ≠ []) :
    ∃ run rest, line = run ++ rest ∧ IsRun run ∧ words rest = words line ∧
      ∀ c ∈ rest.head?, isBlank c = false := by
  cases line with
  | nil => exact absurd words_nil more
  | cons c line =>
      refine ⟨c :: line.takeWhile isBlank, trimStart (c :: line), ?_, ⟨List.cons_ne_nil _ _, ?_⟩,
        words_trimStart _, fun d head => ?_⟩
      · rw [trimStart_cons_of_isBlank c line (first c rfl), trimStart, List.cons_append,
          List.takeWhile_append_dropWhile]
      · exact List.forall_mem_cons.mpr
          ⟨first c rfl, fun d member => List.mem_takeWhile_imp member⟩
      · obtain ⟨rest, trimmed⟩ := List.head?_eq_some_iff.mp head
        exact trimStart_head_visible _ d rest trimmed

theorem exists_runs (list : List String) (line : List Char) (same : words line = list)
    (first : ∀ c ∈ line.head?, isBlank c = false)
    (last : ∀ c ∈ line.getLast?, isBlank c = false) :
    ∃ runs, runs.length = list.length - 1 ∧ (∀ run ∈ runs, IsRun run) ∧
      interleave list runs = line := by
  induction list generalizing line with
  | nil =>
      have blank := (words_eq_nil_iff line).mp same
      cases line with
      | nil => exact ⟨[], rfl, by simp, rfl⟩
      | cons c line =>
          have visible := first c rfl
          rw [blank c List.mem_cons_self] at visible
          contradiction
  | cons word list ih =>
      obtain ⟨behind, rfl, others, next⟩ := exists_first_word line word list same first
      cases list with
      | nil =>
          have blank := (words_eq_nil_iff behind).mp others
          rcases List.eq_nil_or_concat behind with rfl | ⟨front, c, rfl⟩
          · exact ⟨[], rfl, by simp, by simp [interleave]⟩
          · have visible := last c (by simp)
            rw [blank c (by simp)] at visible
            contradiction
      | cons second list =>
          obtain ⟨run, rest, rfl, isRun, found, start⟩ := exists_run behind next (by simp [others])
          obtain ⟨runs, size, areRuns, whole⟩ := ih rest (found.trans others) start fun c final =>
            last c (List.mem_getLast?_append_of_mem_getLast?
              (List.mem_getLast?_append_of_mem_getLast? final))
          refine ⟨run :: runs, ?_, List.forall_mem_cons.mpr ⟨isRun, areRuns⟩, ?_⟩
          · simpa using size
          · rw [interleave, List.headD_cons, List.tail_cons, whole, List.append_assoc]

end Text

namespace WordReader

/-! ## Calls for a word -/

theorem words_after (calls : Nat) (reader : WordReader) :
    Text.words (reader.after calls).rest = (Text.words reader.rest).drop calls := by
  induction calls generalizing reader with
  | zero => rfl
  | succ calls ih =>
      obtain ⟨rest, found, behind⟩ := reader.next_words
      rw [after, ih, found, behind, List.drop_tail]

theorem next_after (calls : Nat) (reader : WordReader) :
    (reader.after calls).next.1 = (Text.words reader.rest)[calls]? := by
  obtain ⟨rest, found, -⟩ := (reader.after calls).next_words
  rw [found, words_after, List.head?_drop]

theorem finish_after (calls : Nat) (reader : WordReader) :
    (reader.after calls).finish = .ok () ↔ (Text.words reader.rest).drop calls = [] := by
  rw [finish_eq, words_after, Line.finishOf_eq_ok_iff]

theorem drain_eq_words (reader : WordReader) : reader.drain = Text.words reader.rest := by
  fun_induction drain reader with
  | case1 reader ended =>
      obtain ⟨rest, found, -⟩ := reader.next_words
      rw [found, List.head?_eq_none_iff] at ended
      exact ended.symm
  | case2 reader word given ih =>
      obtain ⟨rest, found, behind⟩ := reader.next_words
      rw [found] at given
      rw [ih]
      simp only [found, behind, List.cons_head?_tail given]

theorem rest_of_ofLine (line : String) (reader : WordReader) (opened : ofLine line = .ok reader) :
    reader.rest = Text.trim line.toList ∧ Text.blankCount (Text.trim line.toList) ≤ 3 := by
  by_cases crowded : 3 < Text.blankCount (Text.trim line.toList)
  · rw [ofLine, maxBlanks, if_pos crowded] at opened
    contradiction
  · rw [ofLine_of_few line crowded] at opened
    obtain rfl := Except.ok.inj opened
    exact ⟨rfl, Nat.not_lt.mp crowded⟩

/-- A reader gives the longest parts of its line without blanks, from left to right and at most four
of them.  With the runs of blanks between them they are the trimmed line.  Every later call gives
none, and the reader can finish exactly when no word is left. -/
theorem drain_gives_exactly_words_of_line (line : String) (reader : WordReader)
    (opened : ofLine line = .ok reader) :
    reader.drain.length ≤ 4 ∧
      Text.LongestInOrder line.toList reader.drain ∧
      (∃ runs, runs.length = reader.drain.length - 1 ∧ (∀ run ∈ runs, Text.IsRun run) ∧
        Text.interleave reader.drain runs = Text.trim line.toList) ∧
      (∀ calls, (reader.after calls).next.1 = reader.drain[calls]?) ∧
      (∀ calls, reader.drain.length ≤ calls → (reader.after calls).next.1 = none) ∧
      ∀ calls, (reader.after calls).finish = .ok () ↔ reader.drain.drop calls = [] := by
  obtain ⟨trimmed, few⟩ := rest_of_ofLine line reader opened
  have drained : reader.drain = Text.words (Text.trim line.toList) := by
    rw [drain_eq_words, trimmed]
  have given : ∀ calls, (reader.after calls).next.1 = reader.drain[calls]? := fun calls => by
    rw [next_after, drain_eq_words]
  refine ⟨?_, ?_, ?_, given, fun calls later => ?_, fun calls => ?_⟩
  · have room := Text.length_words_le (Text.trim line.toList)
    rw [drained]
    omega
  · rw [drained, Text.words_trim]
    exact Text.longestInOrder_words line.toList
  · exact Text.exists_runs _ _ drained.symm (Text.trim_head_visible _) (Text.trim_getLast_visible _)
  · rw [given, List.getElem?_eq_none_iff]
    exact later
  · rw [finish_after, drain_eq_words]

theorem drain_gives_four_words_between_wide_blanks :
    ∃ reader, ofLine "\u00a0l::\u3000mov\tEAX +5\r" = .ok reader ∧
      reader.drain = ["l::", "mov", "EAX", "+5"] ∧
      Text.LongestInOrder "\u00a0l::\u3000mov\tEAX +5\r".toList ["l::", "mov", "EAX", "+5"] ∧
      (∃ runs, runs.length = 3 ∧ (∀ run ∈ runs, Text.IsRun run) ∧
        Text.interleave ["l::", "mov", "EAX", "+5"] runs = "l::\u3000mov\tEAX +5".toList) ∧
      (reader.after 3).next.1 = some "+5" ∧ (reader.after 3).finish ≠ .ok () ∧
      (reader.after 4).finish = .ok () ∧ (reader.after 5).next.1 = none := by
  let reader : WordReader := ⟨"l::\u3000mov\tEAX +5".toList⟩
  have opened : ofLine "\u00a0l::\u3000mov\tEAX +5\r" = .ok reader := by decide +kernel
  have drained : reader.drain = ["l::", "mov", "EAX", "+5"] := by
    rw [drain_eq_words]
    decide +kernel
  have trimmed : Text.trim "\u00a0l::\u3000mov\tEAX +5\r".toList =
      "l::\u3000mov\tEAX +5".toList := by decide +kernel
  obtain ⟨-, parts, runs, given, later, finished⟩ :=
    drain_gives_exactly_words_of_line "\u00a0l::\u3000mov\tEAX +5\r" reader opened
  rw [drained] at parts runs given later finished
  rw [trimmed] at runs
  have unfinished : (reader.after 3).finish ≠ .ok () := fun early =>
    List.cons_ne_nil _ _ ((finished 3).mp early)
  exact ⟨reader, opened, drained, parts, runs, given 3, unfinished, (finished 4).mpr rfl,
    later 5 (by decide)⟩

end WordReader

end RegisterMachine
