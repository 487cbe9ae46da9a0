import RegisterMachine.Text.Unprintable

/-!
# Quoted text

Messages show a piece of source text between double quotes.  Quotes and backslashes get a
backslash in front, so the quoted form ends where it seems to end, and every character that
cannot be seen is written as an escape.
-/

set_option autoImplicit false

namespace RegisterMachine.Text

/-- The form of one character inside quotes.  A single quote stands for itself. -/
def escape (c : Char) : List Char :=
  if c = '"' then ['\\', '"']
  else if c = '\\' then ['\\', '\\']
  else if c = '\t' then ['\\', 't']
  else if c = '\r' then ['\\', 'r']
  else if c = '\n' then ['\\', 'n']
  else if c = '\x00' then ['\\', '0']
  else if isUnprintable c then ['\\', 'u', '\x7b'] ++ Nat.toDigits 16 c.toNat ++ ['\x7d']
  else [c]

def quote (text : String) : String :=
  String.ofList ('"' :: (text.toList.flatMap escape ++ ['"']))

/-! ## First facts -/

@[simp] theorem toList_quote (text : String) :
    (quote text).toList = '"' :: (text.toList.flatMap escape ++ ['"']) := by
  simp [quote]

end RegisterMachine.Text
