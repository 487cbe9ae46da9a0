/-!
# Sinks

A sink is where a machine prints.  It takes one piece of text at a time, and it may refuse a
piece for a reason of its own.  The library's own sink is `Output`, which keeps what it took
and has room for all or for a fixed number of characters.
-/

set_option autoImplicit false

namespace RegisterMachine

/-- Taking a piece of text says whether the piece was taken whole, and what the sink is
afterwards. -/
class Sink (σ : Type) where
  write : σ → String → Except String Unit × σ

inductive Refusal
  | broken
  | idle
  deriving DecidableEq

def Refusal.reason : Refusal → String
  | .broken => "broken pipe"
  | .idle => "failed to write whole buffer"

structure Limit where
  room : Nat
  reason : String
  deriving DecidableEq

/-- The text taken so far.  Machines print ASCII only, so a character is a byte. -/
structure Output where
  limit : Option Limit
  text : String
  deriving DecidableEq

namespace Output

def unlimited : Output := ⟨none, ""⟩

def limited (room : Nat) (refusal : Refusal) : Output := ⟨some ⟨room, refusal.reason⟩, ""⟩

/-- Takes the characters that fit.  A piece that does not fit is cut, and the cut is reported. -/
def write (output : Output) (piece : String) : Except String Unit × Output :=
  match output.limit with
  | none => (.ok (), ⟨none, output.text ++ piece⟩)
  | some limit =>
      if piece.length ≤ limit.room then
        (.ok (), ⟨some ⟨limit.room - piece.length, limit.reason⟩, output.text ++ piece⟩)
      else
        (.error limit.reason,
          ⟨some ⟨0, limit.reason⟩,
            output.text ++ String.ofList (piece.toList.take limit.room)⟩)

instance : Sink Output where
  write := write

/-- The sink with its text taken away.  What was written stays counted against the limit. -/
def drain (output : Output) : Output := ⟨output.limit, ""⟩

/-! ## First facts -/

theorem sink_write (output : Output) (piece : String) :
    Sink.write output piece = output.write piece := rfl

theorem write_unlimited (output : Output) (piece : String) (free : output.limit = none) :
    output.write piece = (.ok (), ⟨none, output.text ++ piece⟩) := by
  simp [write, free]

end Output

end RegisterMachine
