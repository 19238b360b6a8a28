import Lifecycle.Execution.Event

/-!
# The surroundings of an execution

An execution runs in a world: the host, which has a clock and storage, and the log of events. An
operation is whatever a host wants to do with a record during a transition; it may change the
world in any way, fail, or start further executions.
-/

namespace Lifecycle

open Time (Instant)

/-- Hosts have a clock and storage, which may answer differently every time. -/
class Host (σ : Type u) where
  /-- What the clock shows. -/
  now : σ → Instant
  /-- Load the stored copy of a record. -/
  load : Uuid → σ → Except StoreError Record × σ
  /-- Save a record and return the stored copy with its new version. -/
  save : Record → σ → Except StoreError Record × σ

/-- The surroundings of an execution. -/
structure World (σ : Type u) where
  /-- The host. -/
  host : σ
  /-- The events so far, oldest first. -/
  log : List Event := []

namespace World

/-- Log an event. -/
def emit (world : World σ) (event : Event) : World σ :=
  { world with log := world.log ++ [event] }

variable [Host σ]

/-- What the clock of the host shows. -/
def now (world : World σ) : Instant :=
  Host.now world.host

/-- Load a record from the host. -/
def load (world : World σ) (id : Uuid) : Except StoreError Record × World σ :=
  let (answer, host) := Host.load id world.host
  (answer, { world with host })

/-- Save a record with the host. -/
def save (world : World σ) (record : Record) : Except StoreError Record × World σ :=
  let (answer, host) := Host.save record world.host
  (answer, { world with host })

end World

/-- What a host does with the pending record of a transition. -/
abbrev Operation (σ : Type u) (ε : Type v) := Record → World σ → Except ε Record × World σ

/-- The operation that leaves everything as it is. -/
def Operation.unchanged : Operation σ ε := fun record world => (.ok record, world)

/-- What an execution knows about the executions around it. -/
structure Context where
  /-- Whether a record is being taken to the error state. A failure is not recovered from then. -/
  isRecovering : Bool := false
deriving DecidableEq, Repr

namespace Context

/-- The context of an execution that nothing surrounds. -/
def root : Context := {}

/-- The context of a recovery. -/
def recovering (_ : Context) : Context := { isRecovering := true }

end Context

end Lifecycle
