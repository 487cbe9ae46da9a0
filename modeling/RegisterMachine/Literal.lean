import RegisterMachine.Text.Decimal

/-!
# Integer literals

A literal is a decimal number with at most one sign in front, and it fits into 32 bits with
sign.  The written form of a value has no plus sign and no leading zeros; reading it gives
the value back.
-/

set_option autoImplicit false

namespace RegisterMachine.Literal

def integer? : List Char → Option Int
  | [] => none
  | c :: digits =>
      if c = '-' then (Text.natural? digits).map fun (n : Nat) => -(n : Int)
      else if c = '+' then (Text.natural? digits).map fun (n : Nat) => (n : Int)
      else (Text.natural? (c :: digits)).map fun (n : Nat) => (n : Int)

/-- The value of a literal.  A number outside the 32-bit range is no literal. -/
def parse? (word : String) : Option Int32 :=
  match integer? word.toList with
  | some value =>
      if Int32.minValue.toInt ≤ value ∧ value ≤ Int32.maxValue.toInt then
        some (Int32.ofInt value)
      else none
  | none => none

def digits (value : Int32) : List Char :=
  if value.toInt < 0 then '-' :: Nat.toDigits 10 value.toInt.natAbs
  else Nat.toDigits 10 value.toInt.natAbs

def text (value : Int32) : String :=
  String.ofList (digits value)

/-! ## Reading what is written -/

theorem integer?_digits (value : Int32) : integer? (digits value) = some value.toInt := by
  by_cases negative : value.toInt < 0
  · rw [digits, if_pos negative, integer?, if_pos rfl, Text.natural?_toDigits, Option.map_some]
    exact congrArg some (by omega)
  · rw [digits, if_neg negative]
    cases shape : Nat.toDigits 10 value.toInt.natAbs with
    | nil => exact absurd shape Nat.toDigits_ne_nil
    | cons c rest =>
        have digit : c.isDigit = true :=
          Text.toDigits_all_isDigit value.toInt.natAbs c (by rw [shape]; exact List.mem_cons_self)
        have notMinus : c ≠ '-' := fun same => absurd digit (by rw [same]; decide)
        have notPlus : c ≠ '+' := fun same => absurd digit (by rw [same]; decide)
        rw [integer?, if_neg notMinus, if_neg notPlus, ← shape, Text.natural?_toDigits]
        exact congrArg some (by simp; omega)

@[simp] theorem toList_text (value : Int32) : (text value).toList = digits value := by
  simp [text]

theorem parse?_text (value : Int32) : parse? (text value) = some value := by
  have low : Int32.minValue.toInt ≤ value.toInt := Int32.minValue_le_toInt value
  have high : value.toInt ≤ Int32.maxValue.toInt := Int32.toInt_le value
  rw [parse?, toList_text, integer?_digits]
  simp only [low, high, and_self, if_true, Int32.ofInt_toInt]

end RegisterMachine.Literal
