import RegisterMachine.Text.Decimal

/-!
# Pieces of text that end where they have to

A piece of text is told from what follows it when a character follows that cannot stand in such a
piece.  Numbers are pieces of this kind: the digits of a number are the number's own, and what is no
digit ends them.
-/

set_option autoImplicit false

namespace RegisterMachine.Text

/-- Two pieces made of characters of one kind, each with a character behind it that is not of this
kind, agree if the whole texts do. -/
theorem delimited_unique (inside : Char → Bool) (first second rest rest' : List Char)
    (stop stop' : Char) (firstInside : ∀ c ∈ first, inside c = true)
    (secondInside : ∀ c ∈ second, inside c = true) (outside : inside stop = false)
    (outside' : inside stop' = false) (same : first ++ stop :: rest = second ++ stop' :: rest') :
    first = second ∧ stop = stop' ∧ rest = rest' := by
  have piece : ∀ (text behind : List Char) (closer : Char), (∀ c ∈ text, inside c = true) →
      inside closer = false → (text ++ closer :: behind).takeWhile inside = text := by
    intro text behind closer within without
    rw [List.takeWhile_append_of_pos within, List.takeWhile_cons_of_neg (by simp [without]),
      List.append_nil]
  have pieces : first = second := by
    rw [← piece first rest stop firstInside outside, same,
      piece second rest' stop' secondInside outside']
  rw [pieces] at same
  exact ⟨pieces, List.cons.inj (List.append_cancel_left same)⟩

/-! ## Numbers -/

theorem decimal_delimited_unique (first second : Nat) (rest rest' : List Char)
    (stop stop' : Char) (outside : stop.isDigit = false) (outside' : stop'.isDigit = false)
    (same : (decimal first).toList ++ stop :: rest = (decimal second).toList ++ stop' :: rest') :
    first = second ∧ stop = stop' ∧ rest = rest' := by
  rw [toList_decimal, toList_decimal] at same
  obtain ⟨digits, stops, rests⟩ := delimited_unique Char.isDigit _ _ rest rest' stop stop'
    (toDigits_all_isDigit first) (toDigits_all_isDigit second) outside outside' same
  exact ⟨decimal_injective first second (congrArg String.ofList digits), stops, rests⟩

def hexValue (c : Char) : Nat :=
  if c.isDigit then c.toNat - '0'.toNat else c.toNat - 'a'.toNat + 10

theorem hexValue_digitChar (digit : Nat) (small : digit < 16) :
    hexValue digit.digitChar = digit := by
  have all : ∀ n < 16, hexValue (Nat.digitChar n) = n := by decide
  exact all digit small

theorem foldl_hexValue_toDigits (n : Nat) :
    (Nat.toDigits 16 n).foldl (fun value c => 16 * value + hexValue c) 0 = n := by
  induction n using Nat.strongRecOn with
  | ind n ih =>
      rw [Nat.toDigits_eq_if (by decide)]
      split
      · next small => simp [hexValue_digitChar n small]
      · next large =>
          rw [List.foldl_append, ih (n / 16) (by omega), List.foldl_cons, List.foldl_nil,
            hexValue_digitChar (n % 16) (Nat.mod_lt n (by decide)), Nat.div_add_mod]

theorem mem_toDigits_hex (n : Nat) (c : Char) (member : c ∈ Nat.toDigits 16 n) :
    ∃ digit, digit < 16 ∧ c = digit.digitChar := by
  induction n using Nat.strongRecOn with
  | ind n ih =>
      rw [Nat.toDigits_eq_if (by decide)] at member
      split at member
      · next small => exact ⟨n, small, List.mem_singleton.mp member⟩
      · next large =>
          rcases List.mem_append.mp member with earlier | last
          · exact ih (n / 16) (by omega) earlier
          · exact ⟨n % 16, Nat.mod_lt n (by decide), List.mem_singleton.mp last⟩

theorem hex_delimited_unique (first second : Nat) (rest rest' : List Char)
    (same : Nat.toDigits 16 first ++ '\x7d' :: rest = Nat.toDigits 16 second ++ '\x7d' :: rest') :
    first = second ∧ rest = rest' := by
  have inside : ∀ n, ∀ c ∈ Nat.toDigits 16 n, (c != '\x7d') = true := by
    intro n c member
    obtain ⟨digit, small, rfl⟩ := mem_toDigits_hex n c member
    have none : ∀ n < 16, (Nat.digitChar n != '\x7d') = true := by decide
    exact none digit small
  obtain ⟨digits, -, rests⟩ := delimited_unique (· != '\x7d') _ _ rest rest' _ _
    (inside first) (inside second) rfl rfl same
  rw [← foldl_hexValue_toDigits first, digits, foldl_hexValue_toDigits]
  exact ⟨rfl, rests⟩

end RegisterMachine.Text
