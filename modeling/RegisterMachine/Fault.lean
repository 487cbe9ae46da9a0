import RegisterMachine.Text.Decimal
import RegisterMachine.Text.Quoted

/-!
# Faults

What can go wrong when a source is found, read and run, with the words that say so.  A fault
carries the piece of text it is about; a fault in a text also carries its line.
-/

set_option autoImplicit false

namespace RegisterMachine

open Text (quote decimal)

inductive Malformation
  | emptyLabel
  | labelAlone (label : String)
  | missingTarget
  | unexpectedOperand (word : String)
  | tooManyBlanks (limit : Nat) (line : String)
  deriving DecidableEq

def Malformation.detail : Malformation → String
  | .emptyLabel => "empty label"
  | .labelAlone label => "label " ++ quote label ++ " without instruction"
  | .missingTarget => "missing label operand"
  | .unexpectedOperand word => "unexpected operand " ++ quote word
  | .tooManyBlanks limit line => "more than " ++ decimal limit ++ " spaces in " ++ quote line

/-- Everything that can go wrong.  Instructions are kept as the text that names them. -/
inductive Fault
  | unknownOpcode (word : String)
  | malformedLine (detail : String)
  | invalidRegister (name : String)
  | invalidLiteral (word : String)
  | duplicateLabel (name : String)
  | undefinedLabel (name : String)
  | divisionByZero (instruction : String)
  | jumpTooDeep (limit : Nat) (instruction : String)
  | outputFailed (reason : String)
  | sourceNotFound (path : String)
  | sourceUnreadable (path reason : String)
  deriving DecidableEq

def Fault.malformed (cause : Malformation) : Fault :=
  .malformedLine cause.detail

def Fault.message : Fault → String
  | .unknownOpcode word => "unknown opcode: " ++ quote word
  | .malformedLine detail => "malformed line: " ++ detail
  | .invalidRegister name => "invalid register name: " ++ quote name
  | .invalidLiteral word => "invalid integer literal: " ++ quote word
  | .duplicateLabel name => "duplicate label: " ++ name
  | .undefinedLabel name => "undefined label: " ++ name
  | .divisionByZero instruction => "division by zero while executing `" ++ instruction ++ "`"
  | .jumpTooDeep limit instruction =>
      "jump nesting deeper than " ++ decimal limit ++ " while executing `" ++ instruction ++ "`"
  | .outputFailed reason => "output error: " ++ reason
  | .sourceNotFound path => path ++ " not found"
  | .sourceUnreadable path reason =>
      "io error when reading the program from " ++ path ++ ": " ++ reason

/-- A fault in a source text.  Lines are counted from zero here and from one in messages. -/
structure SourceFault where
  line : Nat
  fault : Fault
  deriving DecidableEq

def SourceFault.message (located : SourceFault) : String :=
  "line " ++ decimal (located.line + 1) ++ ": " ++ located.fault.message

end RegisterMachine
