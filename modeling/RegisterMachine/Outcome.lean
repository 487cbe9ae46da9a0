import RegisterMachine.Event

/-!
# Outcomes

What an act on a machine leaves behind, whether it succeeds or fails: a result, the state that
was reached, the sink, and the log of the act.
-/

set_option autoImplicit false

namespace RegisterMachine

structure Outcome (α state σ : Type) where
  result : Except Fault α
  state : state
  sink : σ
  log : List Event

/-- What an act leaves behind apart from its log. -/
@[ext]
structure Effect (α state σ : Type) where
  result : Except Fault α
  state : state
  sink : σ

namespace Outcome

variable {α β state state' σ : Type}

def effect (outcome : Outcome α state σ) : Effect α state σ :=
  ⟨outcome.result, outcome.state, outcome.sink⟩

def after (outcome : Outcome α state σ) (log : List Event) : Outcome α state σ :=
  { outcome with log := log ++ outcome.log }

def map (outcome : Outcome α state σ) (f : α → β) : Outcome β state σ :=
  ⟨outcome.result.map f, outcome.state, outcome.sink, outcome.log⟩

def mapState (outcome : Outcome α state σ) (f : state → state') : Outcome α state' σ :=
  ⟨outcome.result, f outcome.state, outcome.sink, outcome.log⟩

@[simp] theorem after_nil (outcome : Outcome α state σ) : outcome.after [] = outcome := rfl

@[simp] theorem after_after (outcome : Outcome α state σ) (first second : List Event) :
    (outcome.after second).after first = outcome.after (first ++ second) := by
  simp [after]

theorem map_result_eq_error_iff (outcome : Outcome α state σ) (f : α → β) (fault : Fault) :
    (outcome.map f).result = .error fault ↔ outcome.result = .error fault := by
  rw [map]
  cases outcome.result with
  | ok value => exact ⟨nofun, nofun⟩
  | error found => exact ⟨fun failed => congrArg _ (Except.error.inj failed),
      fun failed => congrArg _ (Except.error.inj failed)⟩

theorem sink_effect (outcome : Outcome α state σ) : outcome.effect.sink = outcome.sink := rfl

@[simp] theorem effect_after (outcome : Outcome α state σ) (log : List Event) :
    (outcome.after log).effect = outcome.effect := rfl

end Outcome

end RegisterMachine
