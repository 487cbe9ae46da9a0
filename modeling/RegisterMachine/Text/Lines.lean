/-!
# Lines of a text

A line ends at a line feed, and a carriage return just before that line feed belongs to the
end of the line.  What follows the last line feed is a line only when it is not empty, and
it keeps its carriage return.
-/

set_option autoImplicit false

namespace RegisterMachine.Text

def dropReturn : List Char → List Char
  | '\r' :: line => line
  | line => line

/-- The lines of a text whose first line begins with characters already read; these are held
last character first. -/
def linesFrom (current : List Char) : List Char → List (List Char)
  | [] => if current.isEmpty then [] else [current.reverse]
  | c :: rest =>
      if c = '\n' then (dropReturn current).reverse :: linesFrom [] rest
      else linesFrom (c :: current) rest

def lines (text : String) : List String :=
  (linesFrom [] text.toList).map String.ofList

/-! ## First facts -/

@[simp] theorem linesFrom_line_feed (current rest : List Char) :
    linesFrom current ('\n' :: rest) = (dropReturn current).reverse :: linesFrom [] rest := by
  simp [linesFrom]

theorem linesFrom_of_ne (current : List Char) (c : Char) (rest : List Char)
    (inside : c ≠ '\n') : linesFrom current (c :: rest) = linesFrom (c :: current) rest := by
  simp [linesFrom, inside]

@[simp] theorem lines_empty : lines "" = [] := by
  simp [lines, linesFrom]

theorem linesFrom_append (current line rest : List Char) (inside : '\n' ∉ line) :
    linesFrom current (line ++ rest) = linesFrom (line.reverse ++ current) rest := by
  induction line generalizing current with
  | nil => rfl
  | cons c line ih =>
      have first : c ≠ '\n' := fun same => inside (by simp [same])
      have others : '\n' ∉ line := fun found => inside (List.mem_cons_of_mem _ found)
      rw [List.cons_append, linesFrom_of_ne current c _ first, ih (c :: current) others]
      simp

end RegisterMachine.Text
