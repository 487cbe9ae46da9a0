import RegisterMachine.Fault
import RegisterMachine.Proofs.Delimited

/-!
# Messages that tell faults apart

A message shows what a fault is about between words of its own, so the fault can be read off it:
the opening words are those of one kind of fault, numbers end where no digit follows, and a quoted
text ends where no backslash takes a quote for the text.  Only the faults of finding a source begin
with text from outside, and these can look like any other.
-/

set_option autoImplicit false

namespace RegisterMachine

open Text (quote decimal)

/-! ## Quoted texts -/

namespace Text

def namedEscapes : List (Char × Char) :=
  [('"', '"'), ('\\', '\\'), ('\t', 't'), ('\r', 'r'), ('\n', 'n'), ('\x00', '0')]

/-- The forms in which a character may stand in a quoted text.  Quotes and backslashes never stand
for themselves. -/
inductive Form (c : Char) : List Char → Prop
  | plain (noQuote : c ≠ '"') (noBackslash : c ≠ '\\') : Form c [c]
  | named (letter : Char) (listed : (c, letter) ∈ namedEscapes) : Form c ['\\', letter]
  | coded : Form c ('\\' :: 'u' :: '\x7b' :: (Nat.toDigits 16 c.toNat ++ ['\x7d']))

theorem form_escape (c : Char) : Form c (escape c) := by
  unfold escape
  split
  · next same =>
      subst same
      exact .named '"' (by decide)
  split
  · next same =>
      subst same
      exact .named '\\' (by decide)
  split
  · next same =>
      subst same
      exact .named 't' (by decide)
  split
  · next same =>
      subst same
      exact .named 'r' (by decide)
  split
  · next same =>
      subst same
      exact .named 'n' (by decide)
  split
  · next same =>
      subst same
      exact .named '0' (by decide)
  split
  · exact .coded
  · next noQuote noBackslash _ _ _ _ _ => exact .plain noQuote noBackslash

theorem ne_nil_of_form {c : Char} {code : List Char} (form : Form c code) : code ≠ [] := by
  cases form <;> exact List.cons_ne_nil _ _

/-- Whatever form a character stands in, the character and what follows it can be read off. -/
theorem Form.unique {c d : Char} {code code' rest rest' : List Char} (form : Form c code)
    (form' : Form d code') (same : code ++ rest = code' ++ rest') : c = d ∧ rest = rest' := by
  have letters : ∀ entry ∈ namedEscapes, ∀ entry' ∈ namedEscapes,
      entry.2 = entry'.2 → entry.1 = entry'.1 := by decide
  have notCoded : ∀ entry ∈ namedEscapes, entry.2 ≠ 'u' := by decide
  cases form with
  | plain noQuote noBackslash =>
      cases form' with
      | plain noQuote' noBackslash' => exact List.cons.inj same
      | named letter listed => exact absurd (List.cons.inj same).1 noBackslash
      | coded => exact absurd (List.cons.inj same).1 noBackslash
  | named letter listed =>
      cases form' with
      | plain noQuote' noBackslash' => exact absurd (List.cons.inj same).1.symm noBackslash'
      | named letter' listed' =>
          obtain ⟨sameLetter, rests⟩ := List.cons.inj (List.cons.inj same).2
          exact ⟨letters _ listed _ listed' sameLetter, rests⟩
      | coded => exact absurd (List.cons.inj (List.cons.inj same).2).1 (notCoded _ listed)
  | coded =>
      cases form' with
      | plain noQuote' noBackslash' => exact absurd (List.cons.inj same).1.symm noBackslash'
      | named letter' listed' =>
          exact absurd (List.cons.inj (List.cons.inj same).2).1.symm (notCoded _ listed')
      | coded =>
          have digits : Nat.toDigits 16 c.toNat ++ '\x7d' :: rest =
              Nat.toDigits 16 d.toNat ++ '\x7d' :: rest' := by
            simpa using same
          obtain ⟨codes, rests⟩ := hex_delimited_unique _ _ rest rest' digits
          exact ⟨Char.toNat_inj.mp codes, rests⟩

theorem flatMap_escape_injective (left right : List Char)
    (same : left.flatMap escape = right.flatMap escape) : left = right := by
  induction left generalizing right with
  | nil =>
      cases right with
      | nil => rfl
      | cons d right =>
          rw [List.flatMap_nil, List.flatMap_cons] at same
          exact absurd (List.append_eq_nil_iff.mp same.symm).1 (ne_nil_of_form (form_escape d))
  | cons c left ih =>
      cases right with
      | nil =>
          rw [List.flatMap_nil, List.flatMap_cons] at same
          exact absurd (List.append_eq_nil_iff.mp same).1 (ne_nil_of_form (form_escape c))
      | cons d right =>
          rw [List.flatMap_cons, List.flatMap_cons] at same
          obtain ⟨rfl, rests⟩ := (form_escape c).unique (form_escape d) same
          rw [ih right rests]

theorem quote_injective (left right : String) (same : quote left = quote right) :
    left = right := by
  have forms := congrArg String.toList same
  rw [toList_quote, toList_quote] at forms
  have inner := List.append_cancel_right (List.cons.inj forms).2
  exact String.toList_inj.mp (flatMap_escape_injective _ _ inner)

end Text

/-! ## Kinds of faults -/

/-- The kinds of faults that are about what a source says and does. -/
inductive Fault.Kind
  | unknownOpcode | malformedLine | invalidRegister | invalidLiteral | duplicateLabel
  | undefinedLabel | divisionByZero | jumpTooDeep | outputFailed
  deriving DecidableEq

namespace Fault

def kind? : Fault → Option Kind
  | .unknownOpcode _ => some .unknownOpcode
  | .malformedLine _ => some .malformedLine
  | .invalidRegister _ => some .invalidRegister
  | .invalidLiteral _ => some .invalidLiteral
  | .duplicateLabel _ => some .duplicateLabel
  | .undefinedLabel _ => some .undefinedLabel
  | .divisionByZero _ => some .divisionByZero
  | .jumpTooDeep _ _ => some .jumpTooDeep
  | .outputFailed _ => some .outputFailed
  | .sourceNotFound _ => none
  | .sourceUnreadable _ _ => none

namespace Kind

def all : List Kind :=
  [.unknownOpcode, .malformedLine, .invalidRegister, .invalidLiteral, .duplicateLabel,
    .undefinedLabel, .divisionByZero, .jumpTooDeep, .outputFailed]

theorem mem_all (kind : Kind) : kind ∈ all := by
  cases kind <;> decide

def opening : Kind → String
  | .unknownOpcode => "unknown opcode: "
  | .malformedLine => "malformed line: "
  | .invalidRegister => "invalid register name: "
  | .invalidLiteral => "invalid integer literal: "
  | .duplicateLabel => "duplicate label: "
  | .undefinedLabel => "undefined label: "
  | .divisionByZero => "division by zero while executing `"
  | .jumpTooDeep => "jump nesting deeper than "
  | .outputFailed => "output error: "

theorem eq_of_opening_prefix (kind other : Kind)
    (begins : kind.opening.toList <+: other.opening.toList) : kind = other := by
  have all : ∀ kind ∈ all, ∀ other ∈ all,
      kind.opening.toList.isPrefixOf other.opening.toList = true → kind = other := by
    decide
  exact all kind kind.mem_all other other.mem_all (List.isPrefixOf_iff_prefix.mpr begins)

end Kind

def content : Fault → String
  | .unknownOpcode word => quote word
  | .malformedLine detail => detail
  | .invalidRegister name => quote name
  | .invalidLiteral word => quote word
  | .duplicateLabel name => name
  | .undefinedLabel name => name
  | .divisionByZero instruction => instruction ++ "`"
  | .jumpTooDeep limit instruction =>
      decimal limit ++ " while executing `" ++ instruction ++ "`"
  | .outputFailed reason => reason
  | .sourceNotFound path => path
  | .sourceUnreadable path _ => path

theorem message_eq_opening_append (fault : Fault) (kind : Kind)
    (ofKind : fault.kind? = some kind) : fault.message = kind.opening ++ fault.content := by
  cases fault with
  | divisionByZero instruction =>
      cases ofKind
      have shown : message (.divisionByZero instruction) =
          Kind.opening .divisionByZero ++ instruction ++ "`" := rfl
      rw [shown, String.append_assoc]
      rfl
  | jumpTooDeep limit instruction =>
      cases ofKind
      have shown : message (.jumpTooDeep limit instruction) =
          Kind.opening .jumpTooDeep ++ decimal limit ++ " while executing `" ++ instruction
            ++ "`" := rfl
      rw [shown, String.append_assoc, String.append_assoc, String.append_assoc, content,
        String.append_assoc, String.append_assoc]
  | sourceNotFound path => cases ofKind
  | sourceUnreadable path reason => cases ofKind
  | _ =>
      cases ofKind
      rfl

theorem jumpTooDeep_of_content (limit limit' : Nat) (instruction instruction' : String)
    (same : content (.jumpTooDeep limit instruction) =
      content (.jumpTooDeep limit' instruction')) :
    limit = limit' ∧ instruction = instruction' := by
  have lists := congrArg String.toList ((String.append_left_inj _).mp same)
  have words : " while executing `".toList = ' ' :: "while executing `".toList := by decide
  rw [String.toList_append, String.toList_append, String.toList_append, String.toList_append,
    words, List.append_assoc, List.append_assoc, List.cons_append, List.cons_append] at lists
  obtain ⟨limits, -, rests⟩ := Text.decimal_delimited_unique limit limit' _ _ ' ' ' ' rfl rfl
    lists
  exact ⟨limits, String.toList_inj.mp (List.append_cancel_left rests)⟩

theorem eq_of_content (left right : Fault) (kind : Kind) (leftKind : left.kind? = some kind)
    (rightKind : right.kind? = some kind) (same : left.content = right.content) :
    left = right := by
  cases left with
  | unknownOpcode word =>
      cases leftKind
      cases right with
      | unknownOpcode word' => rw [Text.quote_injective word word' same]
      | _ => cases rightKind
  | malformedLine detail =>
      cases leftKind
      cases right with
      | malformedLine detail' => exact congrArg _ same
      | _ => cases rightKind
  | invalidRegister name =>
      cases leftKind
      cases right with
      | invalidRegister name' => rw [Text.quote_injective name name' same]
      | _ => cases rightKind
  | invalidLiteral word =>
      cases leftKind
      cases right with
      | invalidLiteral word' => rw [Text.quote_injective word word' same]
      | _ => cases rightKind
  | duplicateLabel name =>
      cases leftKind
      cases right with
      | duplicateLabel name' => exact congrArg _ same
      | _ => cases rightKind
  | undefinedLabel name =>
      cases leftKind
      cases right with
      | undefinedLabel name' => exact congrArg _ same
      | _ => cases rightKind
  | divisionByZero instruction =>
      cases leftKind
      cases right with
      | divisionByZero instruction' => rw [(String.append_left_inj _).mp same]
      | _ => cases rightKind
  | jumpTooDeep limit instruction =>
      cases leftKind
      cases right with
      | jumpTooDeep limit' instruction' =>
          obtain ⟨rfl, rfl⟩ := jumpTooDeep_of_content limit limit' instruction instruction' same
          rfl
      | _ => cases rightKind
  | outputFailed reason =>
      cases leftKind
      cases right with
      | outputFailed reason' => exact congrArg _ same
      | _ => cases rightKind
  | sourceNotFound path => cases leftKind
  | sourceUnreadable path reason => cases leftKind

theorem kind_of_message (left right : Fault) (kind kind' : Kind)
    (leftKind : left.kind? = some kind) (rightKind : right.kind? = some kind')
    (same : left.message = right.message) : kind = kind' := by
  rw [message_eq_opening_append left kind leftKind,
    message_eq_opening_append right kind' rightKind] at same
  have lists := congrArg String.toList same
  rw [String.toList_append, String.toList_append] at lists
  have begins : kind.opening.toList <+: kind'.opening.toList ++ right.content.toList :=
    ⟨_, lists⟩
  have begins' := List.prefix_append kind'.opening.toList right.content.toList
  rcases List.prefix_or_prefix_of_prefix begins begins' with shorter | longer
  · exact kind.eq_of_opening_prefix kind' shorter
  · exact (kind'.eq_of_opening_prefix kind longer).symm

theorem eq_of_message (left right : Fault) (leftKind : left.kind?.isSome = true)
    (rightKind : right.kind?.isSome = true) (same : left.message = right.message) :
    left = right := by
  obtain ⟨kind, leftKind⟩ := Option.isSome_iff_exists.mp leftKind
  obtain ⟨kind', rightKind⟩ := Option.isSome_iff_exists.mp rightKind
  obtain rfl := kind_of_message left right kind kind' leftKind rightKind same
  rw [message_eq_opening_append left kind leftKind,
    message_eq_opening_append right kind rightKind] at same
  exact left.eq_of_content right kind leftKind rightKind ((String.append_right_inj _).mp same)

end Fault

/-! ## Faults in texts -/

namespace SourceFault

theorem eq_of_message (left right : SourceFault) (leftKind : left.fault.kind?.isSome = true)
    (rightKind : right.fault.kind?.isSome = true) (same : left.message = right.message) :
    left = right := by
  obtain ⟨line, fault⟩ := left
  obtain ⟨line', fault'⟩ := right
  have colon : ": ".toList = [':', ' '] := by decide
  have lists := congrArg String.toList same
  simp only [message, String.toList_append, colon, List.append_assoc, List.cons_append,
    List.nil_append] at lists
  obtain ⟨lines, -, rests⟩ := Text.decimal_delimited_unique (line + 1) (line' + 1) _ _ ':' ':'
    rfl rfl (List.append_cancel_left lists)
  obtain rfl : line = line' := Nat.succ.inj lines
  have messages := String.toList_inj.mp (List.cons.inj rests).2
  rw [fault.eq_of_message fault' leftKind rightKind messages]

/-- Of the faults that are about what a source says and does, no two have one message; and no two
have one message with their lines in front. -/
theorem messages_tell_faults_apart :
    (∀ left right : Fault, left.kind?.isSome = true → right.kind?.isSome = true →
        (left.message = right.message ↔ left = right)) ∧
      ∀ left right : SourceFault, left.fault.kind?.isSome = true →
        right.fault.kind?.isSome = true → (left.message = right.message ↔ left = right) := by
  constructor
  · intro left right leftKind rightKind
    exact ⟨left.eq_of_message right leftKind rightKind, congrArg Fault.message⟩
  · intro left right leftKind rightKind
    exact ⟨left.eq_of_message right leftKind rightKind, congrArg message⟩

theorem messages_tell_quotes_and_numbers_apart :
    Fault.message (.unknownOpcode "a\"") ≠ Fault.message (.unknownOpcode "a\\\"") ∧
      Fault.message (.jumpTooDeep 1 "out EAX") ≠ Fault.message (.jumpTooDeep 10 "out EAX") ∧
      message ⟨0, .duplicateLabel "1: b"⟩ ≠ message ⟨10, .duplicateLabel "b"⟩ := by
  obtain ⟨faults, located⟩ := messages_tell_faults_apart
  refine ⟨?_, ?_, ?_⟩
  · rw [Ne, faults (.unknownOpcode _) (.unknownOpcode _) rfl rfl]
    decide
  · rw [Ne, faults (.jumpTooDeep _ _) (.jumpTooDeep _ _) rfl rfl]
    decide
  · rw [Ne, located ⟨_, .duplicateLabel _⟩ ⟨_, .duplicateLabel _⟩ rfl rfl]
    decide

/-- A path can look like the beginning of any message. -/
example : Fault.message (.sourceNotFound "duplicate label: a") =
    Fault.message (.duplicateLabel "a not found") := by
  decide

end SourceFault

end RegisterMachine
