import Mathlib.Data.Nat.Digits.Lemmas
import RegisterMachine.Proofs.Listing

/-!
# Spellings of integers

An integer is spelled by decimal digits with at most one sign in front, so it has many spellings and
one that is canonical.  A word is a literal when the integer that it denotes fits into 32 bits with
sign.  That can be decided on the whole integer, or in 32 bits while the digits are counted in one
by one, and the text of a value is the canonical spelling of its integer.
-/

set_option autoImplicit false

namespace RegisterMachine

namespace Literal

/-! ## What a spelling denotes -/

def IsNumeral (digits : List Char) : Prop :=
  digits ≠ [] ∧ ∀ c ∈ digits, c.isDigit = true

def digitValue (c : Char) : Nat :=
  c.toNat - '0'.toNat

/-- The number that digits stand for by their places: the last one counts ones. -/
def placeValue (digits : List Char) : Nat :=
  Nat.ofDigits 10 (digits.reverse.map digitValue)

/-- The spelling is a numeral with at most one sign in front, and this is its integer. -/
inductive Denotes : List Char → Int → Prop
  | bare (digits : List Char) (numeral : IsNumeral digits) : Denotes digits (placeValue digits)
  | plus (digits : List Char) (numeral : IsNumeral digits) :
      Denotes ('+' :: digits) (placeValue digits)
  | minus (digits : List Char) (numeral : IsNumeral digits) :
      Denotes ('-' :: digits) (-(placeValue digits : Int))

/-- Zero is written as one digit.  Any other integer has no zero in front of its digits, and no
sign in front of them but a minus sign. -/
inductive Canonical : List Char → Prop
  | zero : Canonical ['0']
  | positive (first : Char) (rest : List Char) (digit : first.isDigit = true)
      (leads : first ≠ '0') : Canonical (first :: rest)
  | negative (first : Char) (rest : List Char) (digit : first.isDigit = true)
      (leads : first ≠ '0') : Canonical ('-' :: first :: rest)

def Fits (exact : Int) : Prop :=
  -2 ^ 31 ≤ exact ∧ exact < 2 ^ 31

instance (exact : Int) : Decidable (Fits exact) :=
  inferInstanceAs (Decidable (-2 ^ 31 ≤ exact ∧ exact < 2 ^ 31))

theorem placeValue_cons (c : Char) (digits : List Char) :
    placeValue (c :: digits) = 10 ^ digits.length * digitValue c + placeValue digits := by
  rw [placeValue, List.reverse_cons, List.map_append, Nat.ofDigits_append, List.length_map,
    List.length_reverse, List.map_singleton, Nat.ofDigits_singleton, Nat.add_comm]
  rfl

theorem ofDigitChars_eq_placeValue (digits : List Char) :
    Nat.ofDigitChars 10 digits 0 = placeValue digits := by
  induction digits with
  | nil => rfl
  | cons c digits ih =>
      rw [Nat.ofDigitChars_cons, Nat.ofDigitChars_eq_ofDigitChars_zero, ih, placeValue_cons,
        Nat.mul_zero, Nat.zero_add]
      rfl

theorem natural?_eq_some_iff_numeral (digits : List Char) (n : Nat) :
    Text.natural? digits = some n ↔ IsNumeral digits ∧ placeValue digits = n := by
  rw [Text.natural?_eq_some_iff, ofDigitChars_eq_placeValue, IsNumeral, and_assoc]

theorem not_isNumeral_cons (c : Char) (digits : List Char) (other : c.isDigit = false) :
    ¬ IsNumeral (c :: digits) := by
  intro numeral
  rw [numeral.2 c List.mem_cons_self] at other
  contradiction

theorem integer?_eq_some_iff (spelling : List Char) (exact : Int) :
    integer? spelling = some exact ↔ Denotes spelling exact := by
  constructor
  · intro read
    unfold integer? at read
    split at read
    · contradiction
    · next c digits =>
        split at read
        · next sign =>
            obtain ⟨n, found, rfl⟩ := Option.map_eq_some_iff.mp read
            obtain ⟨numeral, rfl⟩ := (natural?_eq_some_iff_numeral digits n).mp found
            exact sign ▸ .minus digits numeral
        · split at read
          · next sign =>
              obtain ⟨n, found, rfl⟩ := Option.map_eq_some_iff.mp read
              obtain ⟨numeral, rfl⟩ := (natural?_eq_some_iff_numeral digits n).mp found
              exact sign ▸ .plus digits numeral
          · obtain ⟨n, found, rfl⟩ := Option.map_eq_some_iff.mp read
            obtain ⟨numeral, rfl⟩ := (natural?_eq_some_iff_numeral (c :: digits) n).mp found
            exact .bare (c :: digits) numeral
  · intro denotes
    cases denotes with
    | bare _ numeral =>
        cases spelling with
        | nil => exact absurd rfl numeral.1
        | cons c rest =>
            have digit := numeral.2 c List.mem_cons_self
            have notMinus : c ≠ '-' := fun same => absurd digit (by rw [same]; decide)
            have notPlus : c ≠ '+' := fun same => absurd digit (by rw [same]; decide)
            have found := (natural?_eq_some_iff_numeral (c :: rest) _).mpr ⟨numeral, rfl⟩
            rw [integer?, if_neg notMinus, if_neg notPlus, found]
            rfl
    | plus digits numeral =>
        have found := (natural?_eq_some_iff_numeral digits _).mpr ⟨numeral, rfl⟩
        rw [integer?, if_neg (by decide), if_pos rfl, found]
        rfl
    | minus digits numeral =>
        have found := (natural?_eq_some_iff_numeral digits _).mpr ⟨numeral, rfl⟩
        rw [integer?, if_pos rfl, found]
        rfl

/-! ## Values of 32 bits -/

def fit? (exact : Int) : Option Int32 :=
  if Fits exact then some (Int32.ofInt exact) else none

theorem fit?_eq_some_iff (exact : Int) (value : Int32) :
    fit? exact = some value ↔ Fits exact ∧ value.toInt = exact := by
  unfold fit?
  constructor
  · intro found
    split at found
    · next fits =>
        cases found
        exact ⟨fits, Int32.toInt_ofInt_of_le fits.1 fits.2⟩
    · contradiction
  · rintro ⟨fits, rfl⟩
    rw [if_pos fits, Int32.ofInt_toInt]

theorem fit?_of_fits (exact : Int) (fits : Fits exact) :
    ∃ value : Int32, fit? exact = some value ∧ value.toInt = exact :=
  ⟨Int32.ofInt exact, if_pos fits, Int32.toInt_ofInt_of_le fits.1 fits.2⟩

theorem fit?_of_not_fits (exact : Int) (wide : ¬ Fits exact) : fit? exact = none :=
  if_neg wide

theorem parse?_eq_bind (word : String) : parse? word = (integer? word.toList).bind fit? := by
  rw [parse?]
  cases integer? word.toList with
  | none => rfl
  | some exact =>
      have same :
          (Int32.minValue.toInt ≤ exact ∧ exact ≤ Int32.maxValue.toInt) ↔ Fits exact := by
        have low : Int32.minValue.toInt = -2 ^ 31 := by decide
        have high : Int32.maxValue.toInt = 2 ^ 31 - 1 := by decide
        rw [low, high, Fits]
        omega
      simp only [same]
      rfl

theorem parse?_eq_some_iff (word : String) (value : Int32) :
    parse? word = some value ↔
      ∃ exact, Denotes word.toList exact ∧ Fits exact ∧ value.toInt = exact := by
  simp only [parse?_eq_bind, Option.bind_eq_some_iff, integer?_eq_some_iff, fit?_eq_some_iff]

theorem parse?_eq_none_iff (word : String) :
    parse? word = none ↔ ∀ exact, Denotes word.toList exact → ¬ Fits exact := by
  simp only [Option.eq_none_iff_forall_ne_some, Ne, parse?_eq_some_iff]
  constructor
  · intro unread exact denotes fits
    obtain ⟨value, -, same⟩ := fit?_of_fits exact fits
    exact unread value ⟨exact, denotes, fits, same⟩
  · rintro wide value ⟨exact, denotes, fits, -⟩
    exact wide exact denotes fits

/-! ## Reading in 32 bits -/

/-- Counts further digits in, all with this sign.  No product and no sum may leave the range. -/
def countOn (sign : Int) (value : Int32) : List Char → Option Int32
  | [] => some value
  | c :: digits =>
      if c.isDigit then
        match fit? (value.toInt * 10) with
        | none => none
        | some tenfold =>
            match fit? (tenfold.toInt + sign * digitValue c) with
            | none => none
            | some next => countOn sign next digits
      else none

/-- Reads a spelling in 32 bits and gives up at the first digit that takes it out of the range. -/
def count? : List Char → Option Int32
  | [] => none
  | c :: digits =>
      if c = '-' ∧ digits ≠ [] then countOn (-1) 0 digits
      else if c = '+' ∧ digits ≠ [] then countOn 1 0 digits
      else countOn 1 0 (c :: digits)

theorem le_ofDigitChars (digits : List Char) (start : Nat) :
    start ≤ Nat.ofDigitChars 10 digits start := by
  induction digits generalizing start with
  | nil => exact Nat.le_refl start
  | cons c digits ih =>
      rw [Nat.ofDigitChars_cons]
      exact Nat.le_trans (by omega) (ih _)

/-- Digits are counted in without leaving the range exactly when the number that is reached is in
it: on the way there the number only moves away from zero. -/
theorem countOn_eq (sign : Int) (unit : sign = 1 ∨ sign = -1) (digits : List Char) (start : Nat)
    (value : Int32) (reached : value.toInt = sign * start) :
    countOn sign value digits =
      if digits.all Char.isDigit then fit? (sign * Nat.ofDigitChars 10 digits start)
      else none := by
  induction digits generalizing start value with
  | nil =>
      have range := value.toInt_lt
      have range' := value.le_toInt
      rw [countOn, Nat.ofDigitChars_nil, ← reached, eq_comm]
      exact (fit?_eq_some_iff value.toInt value).mpr ⟨⟨range', range⟩, rfl⟩
  | cons c digits ih =>
      by_cases digit : c.isDigit = true
      · have all : (c :: digits).all Char.isDigit = digits.all Char.isDigit := by
          rw [List.all_cons, digit, Bool.true_and]
        rw [countOn, if_pos digit, all, Nat.ofDigitChars_cons]
        have grown := le_ofDigitChars digits (10 * start + digitValue c)
        change 10 * start + digitValue c ≤
          Nat.ofDigitChars 10 digits (10 * start + (c.toNat - '0'.toNat)) at grown
        by_cases fits : Fits (sign * (10 * start + digitValue c : Nat))
        · have fits' : Fits (value.toInt * 10) := by
            unfold Fits at fits ⊢
            rcases unit with rfl | rfl
            · omega
            · omega
          obtain ⟨tenfold, found, multiplied⟩ := fit?_of_fits _ fits'
          have sum : tenfold.toInt + sign * digitValue c =
              sign * (10 * start + digitValue c : Nat) := by
            rcases unit with rfl | rfl
            · omega
            · omega
          obtain ⟨next, found', added⟩ := fit?_of_fits _ fits
          simp only [found, sum, found']
          exact ih _ next added
        · have wide : ¬ Fits (sign *
              (Nat.ofDigitChars 10 digits (10 * start + (c.toNat - '0'.toNat)) : Nat)) := by
            unfold Fits at fits ⊢
            rcases unit with rfl | rfl
            · omega
            · omega
          rw [fit?_of_not_fits _ wide, ite_self]
          cases found : fit? (value.toInt * 10) with
          | none => rfl
          | some tenfold =>
              obtain ⟨-, multiplied⟩ := (fit?_eq_some_iff _ _).mp found
              have sum : tenfold.toInt + sign * digitValue c =
                  sign * (10 * start + digitValue c : Nat) := by
                rcases unit with rfl | rfl
                · omega
                · omega
              simp only [sum, fit?_of_not_fits _ fits]
      · rw [countOn, if_neg digit, List.all_cons, Bool.eq_false_iff.mpr digit, Bool.false_and]
        rfl

theorem countOn_zero (sign : Int) (unit : sign = 1 ∨ sign = -1) (digits : List Char)
    (nonempty : digits ≠ []) :
    countOn sign 0 digits =
      ((Text.natural? digits).map fun (n : Nat) => sign * (n : Int)).bind fit? := by
  rw [countOn_eq sign unit digits 0 0 (Int.mul_zero sign).symm]
  by_cases decimal : digits.all Char.isDigit = true
  · rw [if_pos decimal, (Text.natural?_eq_some_iff digits _).mpr
      ⟨nonempty, List.all_eq_true.mp decimal, rfl⟩]
    rfl
  · have unread : Text.natural? digits = none := by simp [Text.natural?, decimal]
    rw [if_neg decimal, unread]
    rfl

theorem count?_eq_bind (spelling : List Char) :
    count? spelling = (integer? spelling).bind fit? := by
  have positive : (fun n : Nat => (1 : Int) * (n : Int)) = fun n : Nat => (n : Int) :=
    funext fun n => Int.one_mul n
  have negative : (fun n : Nat => (-1 : Int) * (n : Int)) = fun n : Nat => -(n : Int) :=
    funext fun n => Int.neg_one_mul n
  cases spelling with
  | nil => rfl
  | cons c rest =>
      by_cases minus : c = '-'
      · subst minus
        by_cases alone : rest = []
        · subst alone
          rfl
        · have down := countOn_zero (-1) (.inr rfl) rest alone
          rw [count?, integer?, if_pos ⟨rfl, alone⟩, if_pos rfl, down, negative]
      by_cases plus : c = '+'
      · subst plus
        by_cases alone : rest = []
        · subst alone
          rfl
        · have up := countOn_zero 1 (.inl rfl) rest alone
          rw [count?, integer?, if_neg (fun both => minus both.1), if_pos ⟨rfl, alone⟩,
            if_neg minus, if_pos rfl, up, positive]
      · have bare := countOn_zero 1 (.inl rfl) (c :: rest) (List.cons_ne_nil c rest)
        rw [count?, integer?, if_neg (fun both => minus both.1),
          if_neg (fun both => plus both.1), if_neg minus, if_neg plus, bare, positive]

/-! ## The canonical spelling -/

theorem range_of_isDigit (c : Char) (digit : c.isDigit = true) :
    48 ≤ c.toNat ∧ c.toNat ≤ 57 := by
  simpa [Char.isDigit, UInt32.le_iff_toNat_le] using digit

theorem digitChar_digitValue (c : Char) (digit : c.isDigit = true) :
    Nat.digitChar (digitValue c) = c := by
  obtain ⟨low, high⟩ := range_of_isDigit c digit
  rw [← Char.ofNat_toNat c, digitValue]
  generalize c.toNat = code at low high
  interval_cases code <;> rfl

theorem digitValue_lt (c : Char) (digit : c.isDigit = true) : digitValue c < 10 := by
  have range := range_of_isDigit c digit
  have zero : '0'.toNat = 48 := rfl
  rw [digitValue, zero]
  omega

theorem IsNumeral.map_digitChar {numeral : List Char} (isNumeral : IsNumeral numeral) :
    (numeral.map digitValue).map Nat.digitChar = numeral := by
  rw [List.map_map]
  exact (List.map_congr_left fun c member =>
    digitChar_digitValue c (isNumeral.2 c member)).trans (List.map_id numeral)

theorem IsNumeral.digits_placeValue {first : Char} {rest : List Char}
    (isNumeral : IsNumeral (first :: rest)) (leads : first ≠ '0') :
    Nat.digits 10 (placeValue (first :: rest)) = ((first :: rest).map digitValue).reverse := by
  have digit := isNumeral.2 first List.mem_cons_self
  rw [placeValue, List.map_reverse]
  apply Nat.digits_ofDigits 10 (by decide)
  · intro value member
    obtain ⟨c, inside, rfl⟩ := List.mem_map.mp (List.mem_reverse.mp member)
    exact digitValue_lt c (isNumeral.2 c inside)
  · intro nonempty zero
    rw [List.getLast_reverse] at zero
    have char := digitChar_digitValue first digit
    rw [show digitValue first = 0 from zero] at char
    exact leads char.symm

theorem eq_of_placeValue_eq {first second : Char} {rest rest' : List Char}
    (isNumeral : IsNumeral (first :: rest)) (isNumeral' : IsNumeral (second :: rest'))
    (leads : first ≠ '0') (leads' : second ≠ '0')
    (same : placeValue (first :: rest) = placeValue (second :: rest')) :
    first :: rest = second :: rest' := by
  have digits := isNumeral.digits_placeValue leads
  rw [same, isNumeral'.digits_placeValue leads'] at digits
  rw [← isNumeral.map_digitChar, ← isNumeral'.map_digitChar, List.reverse_injective digits]

theorem placeValue_pos {first : Char} {rest : List Char} (isNumeral : IsNumeral (first :: rest))
    (leads : first ≠ '0') : 0 < placeValue (first :: rest) := by
  apply Nat.pos_of_ne_zero
  intro zero
  have digits := isNumeral.digits_placeValue leads
  rw [zero] at digits
  simp at digits

theorem isNumeral_toDigits (n : Nat) : IsNumeral (Nat.toDigits 10 n) :=
  ⟨Nat.toDigits_ne_nil, Text.toDigits_all_isDigit n⟩

theorem placeValue_toDigits (n : Nat) : placeValue (Nat.toDigits 10 n) = n := by
  rw [← ofDigitChars_eq_placeValue, Nat.ofDigitChars_ten_toDigits]

theorem toDigits_leads (n : Nat) (positive : 0 < n) :
    ∃ first rest, Nat.toDigits 10 n = first :: rest ∧ first ≠ '0' := by
  induction n using Nat.strongRecOn with
  | ind n ih =>
      by_cases short : n < 10
      · refine ⟨n.digitChar, [], Nat.toDigits_of_lt_base short, ?_⟩
        rw [Ne, Nat.digitChar_eq_zero]
        omega
      · obtain ⟨first, rest, shape, leads⟩ := ih (n / 10) (by omega) (by omega)
        refine ⟨first, rest ++ [(n % 10).digitChar], ?_, leads⟩
        rw [Nat.toDigits_of_base_le (by decide) (by omega), shape, List.cons_append]

theorem toDigits_placeValue {first : Char} {rest : List Char}
    (isNumeral : IsNumeral (first :: rest)) (leads : first ≠ '0') :
    Nat.toDigits 10 (placeValue (first :: rest)) = first :: rest := by
  have positive := placeValue_pos isNumeral leads
  have written := isNumeral_toDigits (placeValue (first :: rest))
  have same := placeValue_toDigits (placeValue (first :: rest))
  obtain ⟨second, rest', shape, leads'⟩ := toDigits_leads _ positive
  rw [shape] at written same ⊢
  exact eq_of_placeValue_eq written isNumeral leads' leads same

theorem canonical_digits (value : Int32) : Canonical (digits value) := by
  unfold digits
  by_cases zero : value.toInt.natAbs = 0
  · rw [if_neg (by omega), zero]
    exact .zero
  · have decimal := isNumeral_toDigits value.toInt.natAbs
    obtain ⟨first, rest, shape, leads⟩ := toDigits_leads value.toInt.natAbs (by omega)
    rw [shape] at decimal ⊢
    have digit := decimal.2 first List.mem_cons_self
    split
    · exact .negative first rest digit leads
    · exact .positive first rest digit leads

theorem Denotes.eq_digits {spelling : List Char} {value : Int32}
    (denotes : Denotes spelling value.toInt) (canonical : Canonical spelling) :
    spelling = digits value := by
  generalize exact : value.toInt = whole at denotes
  cases denotes with
  | bare _ numeral =>
      rw [digits, exact, if_neg (by omega), Int.natAbs_natCast]
      cases canonical with
      | zero => rfl
      | positive first rest digit leads => exact (toDigits_placeValue numeral leads).symm
      | negative first rest digit leads => exact absurd numeral (not_isNumeral_cons _ _ rfl)
  | plus rest numeral =>
      cases canonical with
      | positive _ _ digit leads => exact absurd digit (by decide)
  | minus rest numeral =>
      cases canonical with
      | positive _ _ digit leads => exact absurd digit (by decide)
      | negative first rest digit leads =>
          have positive := placeValue_pos numeral leads
          rw [digits, exact, if_pos (by omega), Int.natAbs_neg, Int.natAbs_natCast,
            toDigits_placeValue numeral leads]

/-- The text of a value is the only canonical spelling of its integer. -/
theorem canonical_iff_eq_digits (spelling : List Char) (value : Int32) :
    Canonical spelling ∧ Denotes spelling value.toInt ↔ spelling = digits value := by
  constructor
  · rintro ⟨canonical, denotes⟩
    exact denotes.eq_digits canonical
  · rintro rfl
    exact ⟨canonical_digits value, (integer?_eq_some_iff _ _).mp (integer?_digits value)⟩

/-! ## Literals in lines -/

theorem Denotes.isWord {word : String} {exact : Int} (denotes : Denotes word.toList exact) :
    Text.IsWord word := by
  have visible : ∀ digits, IsNumeral digits → ∀ c ∈ digits, Text.isBlank c = false :=
    fun digits numeral c member => Text.isBlank_of_isDigit c (numeral.2 c member)
  constructor
  · rintro rfl
    cases denotes with
    | bare _ numeral => exact numeral.1 rfl
  · generalize word.toList = spelling at denotes
    cases denotes with
    | bare _ numeral => exact visible spelling numeral
    | plus rest numeral => exact List.forall_mem_cons.mpr ⟨rfl, visible rest numeral⟩
    | minus rest numeral => exact List.forall_mem_cons.mpr ⟨rfl, visible rest numeral⟩

theorem isWord_of_parse? (word : String) (value : Int32) (parsed : parse? word = some value) :
    Text.IsWord word := by
  obtain ⟨exact, denotes, -⟩ := (parse?_eq_some_iff word value).mp parsed
  exact denotes.isWord

theorem ofLine_mov (register : Register) (word : String) (value : Int32)
    (parsed : parse? word = some value) :
    Instruction.ofLine ("mov " ++ register.name ++ " " ++ word) =
      .ok (some ⟨none, .mov register value⟩) := by
  have areWords : ∀ part ∈ ["mov", register.name, word], Text.IsWord part := by
    simp only [List.forall_mem_cons]
    exact ⟨Text.isWord_opcode .mov, Text.isWord_register register,
      isWord_of_parse? word value parsed, nofun⟩
  have line : "mov " ++ register.name ++ " " ++ word =
      " ".intercalate ["mov", register.name, word] := by
    rw [String.intercalate_cons_cons, String.intercalate_cons_cons, String.intercalate_singleton]
    simp only [String.append_assoc]
    rfl
  have blanks := Text.blankCount_intercalate _ areWords
  have trimmed := Text.blankCount_trim_le (" ".intercalate ["mov", register.name, word]).toList
  rw [line, Instruction.ofLine_eq_some_iff, Text.words_intercalate _ areWords]
  refine ⟨?_, [register.name, word], ⟨word, parsed, rfl⟩, rfl⟩
  rw [blanks] at trimmed
  exact Nat.le_trans trimmed (Nat.sub_le 3 1)

/-- The last word of the line is a literal for this value.  The text of the instruction has the
words of the line with the text of the value in the place of the literal. -/
def Respells (line : String) (instruction : Instruction) (value : Int32) : Prop :=
  ∃ before word, Text.words line.toList = before ++ [word] ∧ parse? word = some value ∧
    Text.words instruction.text.toList = before ++ [text value]

theorem respells_of_ofLine (line : String) (label : Option String) (register : Register)
    (value : Int32) (read : Instruction.ofLine line = .ok (some ⟨label, .mov register value⟩)) :
    Respells line ⟨label, .mov register value⟩ value := by
  have readable := Instruction.readable_of_ofLine line _ read
  obtain ⟨-, operands, ⟨word, parsed, rfl⟩, whole⟩ :=
    (Instruction.ofLine_eq_some_iff line _).mp read
  cases label with
  | none => exact ⟨["mov", register.name], word, whole, parsed, readable.words_text⟩
  | some label =>
      exact ⟨[label ++ ":", "mov", register.name], word, whole.2, parsed, readable.words_text⟩

/-- A word is a literal exactly when it denotes an integer of 32 bits with sign, which can be seen
by reading it in 32 bits.  The text of a value is a literal for the value, and it is the only
canonical spelling; a literal in a line is shown in this spelling when the line is shown again. -/
theorem parse?_reads_exactly_what_fits :
    (∀ (word : String) (value : Int32), parse? word = some value ↔
        ∃ exact : Int, Denotes word.toList exact ∧ -2 ^ 31 ≤ exact ∧ exact < 2 ^ 31 ∧
          value.toInt = exact) ∧
      (∀ word : String, parse? word = none ↔
        ∀ exact : Int, Denotes word.toList exact → exact < -2 ^ 31 ∨ 2 ^ 31 ≤ exact) ∧
      (∀ word : String, parse? word = count? word.toList) ∧
      (∀ value : Int32, parse? (text value) = some value) ∧
      (∀ (spelling : String) (value : Int32),
        Canonical spelling.toList ∧ Denotes spelling.toList value.toInt ↔
          spelling = text value) ∧
      (∀ (register : Register) (word : String) (value : Int32), parse? word = some value →
        Instruction.ofLine ("mov " ++ register.name ++ " " ++ word) =
          .ok (some ⟨none, .mov register value⟩)) ∧
      ∀ (line : String) (label : Option String) (register : Register) (value : Int32),
        Instruction.ofLine line = .ok (some ⟨label, .mov register value⟩) →
          Respells line ⟨label, .mov register value⟩ value := by
  refine ⟨?_, ?_, ?_, parse?_text, ?_, ofLine_mov, respells_of_ofLine⟩
  · intro word value
    simp only [parse?_eq_some_iff, Fits, and_assoc]
  · intro word
    rw [parse?_eq_none_iff]
    refine forall_congr' fun exact => imp_congr_right fun _ => ?_
    unfold Fits
    omega
  · intro word
    rw [parse?_eq_bind, count?_eq_bind]
  · intro spelling value
    rw [canonical_iff_eq_digits, ← toList_text, String.toList_inj]

theorem parse?_reads_least_value :
    parse? "-002147483648" = some Int32.minValue ∧
      Instruction.ofLine "min:\tmov EAX -002147483648" =
        .ok (some ⟨some "min", .mov .eax Int32.minValue⟩) ∧
      Respells "min:\tmov EAX -002147483648" ⟨some "min", .mov .eax Int32.minValue⟩
        Int32.minValue ∧
      text Int32.minValue = "-2147483648" ∧ parse? "2147483648" = none := by
  obtain ⟨-, -, -, -, -, -, shownAgain⟩ := parse?_reads_exactly_what_fits
  have read : Instruction.ofLine "min:\tmov EAX -002147483648" =
      .ok (some ⟨some "min", .mov .eax Int32.minValue⟩) := by
    decide +kernel
  exact ⟨by decide +kernel, read, shownAgain _ _ _ _ read, by decide +kernel, by decide +kernel⟩

end Literal

end RegisterMachine
