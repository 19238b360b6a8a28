import Lifecycle.State
import Lifecycle.Time.Instant

/-!
# Histories

The transitions that were applied to a record, in order, recoveries included. A history only ever
grows at its end.
-/

namespace Lifecycle

open Time (Instant)

/-- One applied transition. -/
structure Step where
  /-- The name of the transition. -/
  transition : String
  /-- The state before. -/
  origin : State
  /-- The state after. -/
  target : State
  /-- The moment at which it was applied. -/
  time : Instant
  /-- Whether it took a failed record to the error state. -/
  recovery : Bool
deriving DecidableEq, Repr

/-- The applied transitions of a record, oldest first. -/
structure History where
  /-- The applied transitions. -/
  steps : List Step
deriving DecidableEq, Repr

namespace History

/-- Nothing was applied yet. -/
def empty : History where
  steps := []

/-- The history with one more step at its end. -/
def record (history : History) (step : Step) : History where
  steps := history.steps ++ [step]

/-- The states passed through: that before the first step, then that after each step. -/
def path (history : History) : List State :=
  (history.steps.head?.map Step.origin).toList ++ history.steps.map Step.target

/-- The most recent step. -/
def last? (history : History) : Option Step :=
  history.steps.getLast?

/-- The time from the first step to the last, absent when there is none or it is negative. -/
def duration? (history : History) : Option Instant.Span := do
  let first ← history.steps.head?
  let last ← history.steps.getLast?
  let span := last.time.since first.time
  if span.seconds < 0 then none else some span

@[simp]
theorem last?_record (history : History) (step : Step) :
    (history.record step).last? = some step := by
  simp [last?, record]

end History

end Lifecycle
