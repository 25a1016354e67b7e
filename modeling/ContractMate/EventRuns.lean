import ContractMate.RunHistory

/-!
# Machines that take events

A machine says which events can happen in a state and where they lead.  Its runs are
histories of events, each with the state it found.
-/

/-- An event, and the state it finds. -/
structure EventStep (State Event : Type) where
  event : Event
  before : State

namespace EventStep

variable {State Event : Type} (next? : State → Event → Option State)

/-- The state after a step. -/
def after (step : EventStep State Event) : State :=
  (next? step.before step.event).getD step.before

/-- The step can happen. -/
def Allowed (step : EventStep State Event) : Prop :=
  (next? step.before step.event).isSome

abbrev Run (start : State) : List (EventStep State Event) → State → Prop :=
  RunHistory.Run before (after next?) (Allowed next?) start

/-- Continue a run by some events. -/
def execute (steps : List (EventStep State Event)) (state : State) :
    List Event → Option (List (EventStep State Event) × State)
  | [] => some (steps, state)
  | event :: events =>
      match next? state event with
      | some reached => execute (steps ++ [⟨event, state⟩]) reached events
      | none => none

variable {next?} {start final : State} {steps : List (EventStep State Event)}

theorem after_of_next? {state reached : State} {event : Event}
    (next : next? state event = some reached) :
    after next? ⟨event, state⟩ = reached := by
  simp [after, next]

/-- What `execute` computes is a run. -/
theorem run_of_execute {events : List Event} {before : List (EventStep State Event)}
    {reached : State} (run : Run next? start before reached)
    (executed : execute next? before reached events = some (steps, final)) :
    Run next? start steps final := by
  induction events generalizing before reached with
  | nil =>
      cases executed
      exact run
  | cons event events induction =>
      simp only [execute] at executed
      split at executed
      · rename_i after next
        have longer := run.step ⟨event, reached⟩ rfl (by simp [Allowed, next])
        rw [after_of_next? next] at longer
        exact induction longer executed
      · cases executed

/-- Induction over a run, event by event. -/
theorem Run.induct {motive : List (EventStep State Event) → State → Prop}
    (run : Run next? start steps final) (nil : motive [] start)
    (step : ∀ (steps : List (EventStep State Event)) (state : State) (event : Event)
      (reached : State), Run next? start steps state → motive steps state →
      next? state event = some reached → motive (steps ++ [⟨event, state⟩]) reached) :
    motive steps final := by
  induction run with
  | nil => exact nil
  | @step steps state run last starts permitted induction =>
      subst starts
      obtain ⟨event, before⟩ := last
      obtain ⟨reached, next⟩ := Option.isSome_iff_exists.mp permitted
      rw [after_of_next? next]
      exact step steps before event reached run induction next

end EventStep
