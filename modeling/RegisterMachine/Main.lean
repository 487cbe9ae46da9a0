import RegisterMachine.Session

/-!
# The program

Reads the source that the arguments name, prints the report of the session, and exits with its
code.  All that is decided here is how an error of the operating system is named.
-/

set_option autoImplicit false

namespace RegisterMachine

/-- The number and the words of an error of the operating system.  Some numbers arrive
negated. -/
def systemError : IO.Error → Nat × String
  | .noFileOrDirectory _ code details => (magnitude code, details)
  | .inappropriateType _ code details => (magnitude code, details)
  | .invalidArgument _ code details => (magnitude code, details)
  | .permissionDenied _ code details => (magnitude code, details)
  | error => (0, error.toString)
where
  magnitude (code : UInt32) : Nat := code.toInt32.toInt.natAbs

def readError (error : IO.Error) : ReadError :=
  let (number, details) := systemError error
  let numbered (words : String) : ReadError :=
    .failed (words ++ " (os error " ++ Text.decimal number ++ ")")
  match number with
  | 2 => .absent
  | 20 => numbered "Not a directory"
  | 21 => numbered "Is a directory"
  | 36 => numbered "File name too long"
  | _ => numbered details.capitalize

def contentAt (path : String) : IO (Except ReadError ByteArray) := do
  try
    return .ok (← IO.FS.readBinFile path)
  catch error =>
    return .error (readError error)

end RegisterMachine

open RegisterMachine in
def main (arguments : List String) : IO UInt32 := do
  let found ← match Request.ofArguments arguments with
    | .run options => contentAt options.file
    | _ => pure (.error .absent)
  let report := Session.reportOn (fun _ => found) arguments
  (← IO.getStdout).putStr report.stdout
  (← IO.getStderr).putStr report.stderr
  return report.exitCode.toUInt32
