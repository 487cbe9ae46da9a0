import RegisterMachine.Fault

/-!
# Reading a source

A source is read by its path.  The system answers a path with the bytes that are there, or says why
there are none; the bytes of a source have to be UTF-8.  Nothing is known here of how the system
finds a path, so it is a function, and what is said of sources holds for every such function.
-/

set_option autoImplicit false

namespace RegisterMachine

/-- Nothing is at the path, or something is in the way, which the system says in its own words. -/
inductive ReadError
  | absent
  | failed (reason : String)
  deriving DecidableEq

def ReadError.fault (path : String) : ReadError → Fault
  | .absent => .sourceNotFound path
  | .failed reason => .sourceUnreadable path reason

/-- The system's answers to all paths. -/
abbrev Disk := String → Except ReadError ByteArray

namespace Source

def decode (content : ByteArray) : Except ReadError String :=
  match String.fromUTF8? content with
  | some text => .ok text
  | none => .error (.failed "stream did not contain valid UTF-8")

def read (disk : Disk) (path : String) : Except Fault String :=
  ((disk path).bind decode).mapError (ReadError.fault path)

end Source

end RegisterMachine
