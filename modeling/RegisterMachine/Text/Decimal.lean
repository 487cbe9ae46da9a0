/-!
# Decimal numbers

Natural numbers are written in base ten without leading zeros.  Reading is more generous: any
non-empty run of ASCII digits is a number, and leading zeros do not change it.
-/

set_option autoImplicit false

namespace RegisterMachine.Text

def decimal (n : Nat) : String :=
  String.ofList (Nat.toDigits 10 n)

def decimalIn (width n : Nat) : String :=
  String.ofList ((Nat.toDigits 10 n).leftpad width ' ')

/-- The number that a run of digits denotes. -/
def natural? (digits : List Char) : Option Nat :=
  if !digits.isEmpty && digits.all Char.isDigit then some (Nat.ofDigitChars 10 digits 0)
  else none

/-! ## First facts -/

@[simp] theorem toList_decimal (n : Nat) : (decimal n).toList = Nat.toDigits 10 n := by
  simp [decimal]

theorem decimal_ne_empty (n : Nat) : decimal n ≠ "" := by
  intro empty
  have digits := congrArg String.toList empty
  rw [toList_decimal] at digits
  exact Nat.toDigits_ne_nil digits

theorem natural?_eq_some_iff (digits : List Char) (n : Nat) :
    natural? digits = some n ↔
      digits ≠ [] ∧ (∀ c ∈ digits, c.isDigit = true) ∧ Nat.ofDigitChars 10 digits 0 = n := by
  simp [natural?, and_assoc]

theorem toDigits_all_isDigit (n : Nat) (c : Char) (member : c ∈ Nat.toDigits 10 n) :
    c.isDigit = true :=
  Nat.isDigit_of_mem_toDigits (by decide) (by decide) member

theorem natural?_toDigits (n : Nat) : natural? (Nat.toDigits 10 n) = some n := by
  rw [natural?_eq_some_iff]
  exact ⟨Nat.toDigits_ne_nil, toDigits_all_isDigit n, Nat.ofDigitChars_ten_toDigits⟩

theorem decimal_injective (m n : Nat) (same : decimal m = decimal n) : m = n := by
  have digits : Nat.toDigits 10 m = Nat.toDigits 10 n := by
    rw [← toList_decimal, ← toList_decimal, same]
  exact Option.some.inj (by rw [← natural?_toDigits m, ← natural?_toDigits n, digits])

end RegisterMachine.Text
