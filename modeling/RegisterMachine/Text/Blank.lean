/-!
# Blank characters

The characters that separate the words of a line, and the text that is left of a line
when the blanks at its two ends are taken away.  Blanks inside a line are kept.
-/

set_option autoImplicit false

namespace RegisterMachine.Text

/-- The characters that separate words: those with the Unicode property White_Space. -/
def isBlank (c : Char) : Bool :=
  let code := c.toNat
  (0x9 ≤ code && code ≤ 0xd) || code == 0x20 || code == 0x85 || code == 0xa0 || code == 0x1680
    || (0x2000 ≤ code && code ≤ 0x200a) || code == 0x2028 || code == 0x2029 || code == 0x202f
    || code == 0x205f || code == 0x3000

def trimStart (line : List Char) : List Char :=
  line.dropWhile isBlank

def trimEnd (line : List Char) : List Char :=
  (line.reverse.dropWhile isBlank).reverse

def trim (line : List Char) : List Char :=
  trimEnd (trimStart line)

def blankCount (line : List Char) : Nat :=
  line.countP isBlank

/-! ## First facts -/

@[simp] theorem trim_nil : trim [] = [] := rfl

theorem trimStart_cons_of_isBlank (c : Char) (line : List Char) (blank : isBlank c = true) :
    trimStart (c :: line) = trimStart line := by
  simp [trimStart, blank]

theorem trimStart_cons_of_not_isBlank (c : Char) (line : List Char)
    (visible : isBlank c = false) : trimStart (c :: line) = c :: line := by
  simp [trimStart, visible]

theorem trimStart_head_visible (line : List Char) (c : Char) (rest : List Char)
    (trimmed : trimStart line = c :: rest) : isBlank c = false := by
  induction line with
  | nil => simp [trimStart] at trimmed
  | cons first line ih =>
      cases blank : isBlank first with
      | true => exact ih (by rwa [trimStart_cons_of_isBlank first line blank] at trimmed)
      | false =>
          rw [trimStart_cons_of_not_isBlank first line blank] at trimmed
          exact (List.cons.inj trimmed).1 ▸ blank

theorem trimStart_eq_nil_iff (line : List Char) :
    trimStart line = [] ↔ ∀ c ∈ line, isBlank c = true := by
  induction line with
  | nil => simp [trimStart]
  | cons first line ih =>
      cases blank : isBlank first with
      | true => simp [trimStart_cons_of_isBlank first line blank, ih, blank]
      | false => simp [trimStart_cons_of_not_isBlank first line blank, blank]

end RegisterMachine.Text
