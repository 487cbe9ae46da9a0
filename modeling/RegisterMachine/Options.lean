/-!
# Command-line options

Arguments are read strictly from left to right, and the first one that decides what happens
ends the reading: a request for help or for the version, or a mistake.  Flags may stand
anywhere; after two dashes every argument is a file.
-/

set_option autoImplicit false

namespace RegisterMachine

structure Options where
  file : String
  quiet : Bool
  verbosity : Nat
  deriving DecidableEq

inductive UsageError
  | unknownOption (argument : String)
  | repeatedQuiet
  | surplusFile (argument : String)
  | emptyFile
  | missingFile
  deriving DecidableEq

/-- Words for whoever typed the arguments.  Nothing else depends on them. -/
def UsageError.message : UsageError → String
  | .unknownOption argument => "unknown option: " ++ argument
  | .repeatedQuiet => "the option --quiet is given twice"
  | .surplusFile argument => "there is a file already: " ++ argument
  | .emptyFile => "the name of the file is empty"
  | .missingFile => "no file is given"

inductive Request
  | run (options : Options)
  | help
  | version
  | refuse (error : UsageError)
  deriving DecidableEq

inductive Flag
  | quiet | verbose | help | version
  deriving DecidableEq

def Flag.ofLetter? : Char → Option Flag
  | 'q' => some .quiet
  | 'v' => some .verbose
  | 'h' => some .help
  | 'V' => some .version
  | _ => none

def Flag.ofName? : String → Option Flag
  | "quiet" => some .quiet
  | "verbose" => some .verbose
  | "help" => some .help
  | "version" => some .version
  | _ => none

structure OptionsDraft where
  file : Option String
  quiet : Bool
  verbosity : Nat
  deriving DecidableEq

namespace OptionsDraft

def empty : OptionsDraft := ⟨none, false, 0⟩

def addFlag (draft : OptionsDraft) : Flag → Except Request OptionsDraft
  | .quiet =>
      if draft.quiet then .error (.refuse .repeatedQuiet) else .ok { draft with quiet := true }
  | .verbose => .ok { draft with verbosity := draft.verbosity + 1 }
  | .help => .error .help
  | .version => .error .version

def addFile (draft : OptionsDraft) (argument : String) : Except Request OptionsDraft :=
  if draft.file.isSome then .error (.refuse (.surplusFile argument))
  else if argument = "" then .error (.refuse .emptyFile)
  else .ok { draft with file := some argument }

/-- Adds the flags of one argument, each a letter. -/
def addLetters (draft : OptionsDraft) (argument : String) :
    List Char → Except Request OptionsDraft
  | [] => .ok draft
  | letter :: rest =>
      match Flag.ofLetter? letter with
      | none => .error (.refuse (.unknownOption argument))
      | some flag => do
          let draft ← draft.addFlag flag
          draft.addLetters argument rest

/-- Adds one argument in front of the two dashes.  A dash alone is a file. -/
def addArgument (draft : OptionsDraft) (argument : String) : Except Request OptionsDraft :=
  match argument.toList with
  | '-' :: '-' :: name =>
      match Flag.ofName? (String.ofList name) with
      | none => .error (.refuse (.unknownOption argument))
      | some flag => draft.addFlag flag
  | '-' :: letter :: letters => draft.addLetters argument (letter :: letters)
  | _ => draft.addFile argument

def addFiles (draft : OptionsDraft) : List String → Except Request OptionsDraft
  | [] => .ok draft
  | argument :: rest => do
      let draft ← draft.addFile argument
      draft.addFiles rest

def addArguments (draft : OptionsDraft) : List String → Except Request OptionsDraft
  | [] => .ok draft
  | argument :: rest =>
      if argument = "--" then draft.addFiles rest
      else do
        let draft ← draft.addArgument argument
        draft.addArguments rest

end OptionsDraft

def Request.ofArguments (arguments : List String) : Request :=
  match OptionsDraft.empty.addArguments arguments with
  | .error request => request
  | .ok draft =>
      match draft.file with
      | none => .refuse .missingFile
      | some file => .run ⟨file, draft.quiet, draft.verbosity⟩

end RegisterMachine
