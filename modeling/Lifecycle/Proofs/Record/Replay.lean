import Lifecycle.Proofs.Run.Invariant
import Mathlib.Data.List.Chain

/-!
# Histories are faithful replays

The steps of a history form a walk of the machine: it starts in an initial state, follows one edge
after the other, and ends in the state of the record. `Machine.Walk` says so of the steps, and
everything that can be read off a history follows from it: `Machine.Faithful`.

Creation starts a walk, an applied transition prolongs it, and nothing else touches the history. So
every record that a run of a host comes across is faithful, whether it is a copy or stored.
-/

namespace Lifecycle

namespace Machine

/-- An edge of the machine leads from one state to another. -/
def Leads (machine : Machine) (origin target : State) : Prop :=
  ∃ edge ∈ machine.transitions, edge.source.contains origin = true ∧ edge.target = target

/-- The states that named edges pass through, one after the other, that before the first included.
Absent when one of the names is not an edge from the state reached so far. -/
def replay? (machine : Machine) (current : State) : List String → Option (List State)
  | [] => some [current]
  | name :: names =>
    (machine.target? current name).bind fun target =>
      (machine.replay? target names).map (current :: ·)

/-- A step follows an edge of the machine, and a step of a recovery follows one that leads to the
error state. -/
structure Follows (machine : Machine) (step : Step) : Prop where
  /-- The transition leads from the state before to that after. -/
  target_eq : machine.target? step.origin step.transition = some step.target
  /-- A recovery is called so and leads to the error state. -/
  recovery_eq : step.recovery = true →
    step.transition = Transition.recoveryName ∧ machine.errorState = some step.target

/-- Steps that lead from one state to another, each from where the one before it ended. -/
inductive Walk (machine : Machine) : State → List Step → State → Prop where
  /-- No steps lead nowhere else. -/
  | nil (state : State) : Walk machine state [] state
  /-- One step before others. -/
  | cons {step : Step} {steps : List Step} {final : State} (hfollows : machine.Follows step)
      (hwalk : Walk machine step.target steps final) :
      Walk machine step.origin (step :: steps) final

variable {machine : Machine} {initial final : State} {steps : List Step}

/-- A walk goes on with a step from where it ended. -/
theorem Walk.concat {step : Step} (h : machine.Walk initial steps step.origin)
    (hfollows : machine.Follows step) : machine.Walk initial (steps ++ [step]) step.target := by
  generalize horigin : step.origin = final at h
  -- the walk ends where the step starts, so that its last state is kept in an equation
  induction h with
  | nil state =>
    rw [← horigin]
    exact .cons hfollows (.nil _)
  | cons hfirst hwalk ih => exact .cons hfirst (ih horigin)

theorem Walk.follows (h : machine.Walk initial steps final) {step : Step} (hstep : step ∈ steps) :
    machine.Follows step := by
  induction h with
  | nil state => exact absurd hstep List.not_mem_nil
  | cons hfollows hwalk ih =>
    rcases List.mem_cons.1 hstep with rfl | hstep
    · exact hfollows
    · exact ih hstep

theorem Walk.head_origin (h : machine.Walk initial steps final) {step : Step}
    (hstep : steps.head? = some step) : step.origin = initial := by
  cases h with
  | nil state => exact nomatch hstep
  | cons hfollows hwalk => rw [← Option.some.inj hstep]

/-- The states of a walk end where it does. -/
theorem Walk.getLast_targets (h : machine.Walk initial steps final) :
    (initial :: steps.map Step.target).getLast? = some final := by
  induction h with
  | nil state => rfl
  | cons hfollows hwalk ih => rwa [List.map_cons, List.getLast?_cons_cons]

theorem Walk.last_target (h : machine.Walk initial steps final) {step : Step}
    (hstep : steps.getLast? = some step) : step.target = final := by
  have hlast := h.getLast_targets
  rw [List.getLast?_cons, List.getLast?_map, hstep] at hlast
  exact Option.some.inj hlast

/-- Each step of a walk starts where the one before it ended. -/
theorem Walk.isChain_steps (h : machine.Walk initial steps final) :
    steps.IsChain fun earlier later => later.origin = earlier.target := by
  induction h with
  | nil state => exact .nil
  | cons hfollows hwalk ih =>
    rw [List.isChain_cons]
    exact ⟨fun later hlater => hwalk.head_origin hlater, ih⟩

theorem Follows.leads {step : Step} (h : machine.Follows step) :
    machine.Leads step.origin step.target := by
  obtain ⟨edge, hedge, happlies, htarget⟩ := exists_of_target? h.target_eq
  exact ⟨edge, hedge, (Transition.applies_iff.1 happlies).2, htarget⟩

/-- The states of a walk lead to one another. -/
theorem Walk.isChain_targets (h : machine.Walk initial steps final) :
    (initial :: steps.map Step.target).IsChain machine.Leads := by
  induction h with
  | nil state => exact .singleton _
  | cons hfollows hwalk ih => exact .cons_cons hfollows.leads ih

/-- Replaying the names of a walk passes through its states. -/
theorem Walk.replay?_eq (h : machine.Walk initial steps final) :
    machine.replay? initial (steps.map Step.transition) =
      some (initial :: steps.map Step.target) := by
  induction h with
  | nil state => rfl
  | cons hfollows hwalk ih =>
    rw [List.map_cons, replay?, hfollows.target_eq, Option.bind_some, ih]
    rfl

theorem Walk.mem_states (h : machine.Walk initial steps final)
    (hinitial : initial ∈ machine.states) : final ∈ machine.states := by
  induction h with
  | nil state => exact hinitial
  | cons hfollows hwalk ih => exact ih (mem_states_of_target? hfollows.target_eq)

/-- The steps of a record lead from an initial state to its own. -/
def Walked (machine : Machine) (record : Record) : Prop :=
  ∃ initial ∈ machine.initialStates, machine.Walk initial record.history.steps record.state

/-- The history of a record is a faithful replay of the machine. -/
structure Faithful (machine : Machine) (record : Record) : Prop where
  /-- The current state is declared. -/
  declared : record.state ∈ machine.states
  /-- A record without a history is in an initial state. -/
  initial_of_empty : record.history.steps = [] → record.state ∈ machine.initialStates
  /-- The first step started in an initial state. -/
  first_initial : ∀ step, record.history.steps.head? = some step →
    step.origin ∈ machine.initialStates
  /-- Each step started where the one before it ended. -/
  chained : record.history.steps.IsChain fun earlier later => later.origin = earlier.target
  /-- The last step ended in the current state. -/
  last_current : ∀ step, record.history.last? = some step → step.target = record.state
  /-- Every step followed the edge of its name. -/
  edges : ∀ step ∈ record.history.steps,
    machine.target? step.origin step.transition = some step.target
  /-- Steps of recoveries are called so and led to the error state. -/
  recoveries : ∀ step ∈ record.history.steps, step.recovery = true →
    step.transition = "error" ∧ machine.errorState = some step.target
  /-- The path is a walk of the machine from an initial state to the current state. -/
  path_walk : record.history.steps ≠ [] → ∃ initial ∈ machine.initialStates,
    record.history.path.head? = some initial ∧
      record.history.path.getLast? = some record.state ∧
      record.history.path.IsChain machine.Leads
  /-- From an initial state, that at the head of the path if there is any, the recorded names
  pass through the states of the path to the current state. -/
  replays : ∃ initial ∈ machine.initialStates,
    (∀ state ∈ record.history.path.head?, state = initial) ∧
    machine.replay? initial (record.history.steps.map Step.transition) =
      some (initial :: record.history.path.tail) ∧
    (initial :: record.history.path.tail).getLast? = some record.state

/-- A history whose steps form a walk is a faithful replay. -/
theorem Walked.faithful {record : Record} (h : machine.Walked record) :
    machine.Faithful record := by
  obtain ⟨initial, hinitial, hwalk⟩ := h
  have hpath (hsteps : record.history.steps ≠ []) :
      record.history.path = initial :: record.history.steps.map Step.target := by
    -- the path takes its head from the first step, which started where the walk did
    obtain ⟨step, steps, hcons⟩ := List.exists_cons_of_ne_nil hsteps
    have hhead : record.history.steps.head? = some step := by rw [hcons, List.head?_cons]
    rw [History.path, hhead, Option.map_some, hwalk.head_origin hhead]
    rfl
  have hempty (hsteps : record.history.steps = []) : record.history.path = [] := by
    rw [History.path, hsteps]
    rfl
  have htail : record.history.path.tail = record.history.steps.map Step.target := by
    by_cases hsteps : record.history.steps = []
    · rw [hempty hsteps, hsteps]
      rfl
    · rw [hpath hsteps, List.tail_cons]
  exact
    { declared := hwalk.mem_states (mem_states_of_mem_initialStates hinitial)
      initial_of_empty := by
        intro hsteps
        rw [hsteps] at hwalk
        cases hwalk
        exact hinitial
      first_initial := by
        intro step hstep
        rw [hwalk.head_origin hstep]
        exact hinitial
      chained := hwalk.isChain_steps
      last_current := fun step hstep => hwalk.last_target hstep
      edges := fun step hstep => (hwalk.follows hstep).target_eq
      recoveries := fun step hstep => (hwalk.follows hstep).recovery_eq
      path_walk := by
        intro hsteps
        rw [hpath hsteps]
        exact ⟨initial, hinitial, rfl, hwalk.getLast_targets, hwalk.isChain_targets⟩
      replays := by
        rw [htail]
        refine ⟨initial, hinitial, ?_, hwalk.replay?_eq, hwalk.getLast_targets⟩
        -- the path of a record with a past begins with the initial state of its walk
        intro state hstate
        by_cases hsteps : record.history.steps = []
        · rw [hempty hsteps] at hstate
          exact nomatch hstate
        · rw [hpath hsteps] at hstate
          exact (Option.some.inj hstate).symm }

/-! ### What preserves the walk -/

/-- A record without a past, in an initial state, has nowhere walked yet. -/
theorem walked_inState {id : Uuid} {state : State} (hstate : state ∈ machine.initialStates) :
    machine.Walked (.inState id state) :=
  ⟨state, hstate, .nil state⟩

theorem Walked.apply {record : Record} {transition : String} {target : State} {recovery : Bool}
    {time : Time.Instant} (h : machine.Walked record)
    (hedge : machine.target? record.state transition = some target)
    (hrecovery : recovery = true →
      transition = Transition.recoveryName ∧ machine.errorState = some target) :
    machine.Walked (record.apply transition target recovery time) := by
  obtain ⟨initial, hinitial, hwalk⟩ := h
  let step : Step := { transition, origin := record.state, target, time, recovery }
  have hstart : machine.Walk initial record.history.steps step.origin := hwalk
  have hfollows : machine.Follows step := ⟨hedge, hrecovery⟩
  exact ⟨initial, hinitial, hstart.concat hfollows⟩

/-- The records that a host makes have walked if the copies have. -/
theorem walked_of_made {copies : List Record} {now : Time.Instant} {record : Record}
    (hcopies : ∀ copy ∈ copies, machine.Walked copy) (hmade : Made machine copies now record) :
    machine.Walked record := by
  rcases made_cases hmade with ⟨id, state, hstate, rfl⟩ | ⟨copy, hcopy, hsame⟩ |
    ⟨copy, hcopy, transition, target, hedge, rfl⟩
  · exact walked_inState hstate
  · rw [hsame]
    exact hcopies copy hcopy
  · exact (hcopies copy hcopy).apply hedge fun hrecovery => nomatch hrecovery

/-- That all copies and all stored records have walked is an invariant, when operations return one
of the copies at hand. -/
theorem invariant_walked (machine : Machine) :
    Desk.Invariant machine (fun _ inner changed => changed ∈ inner.copies)
      (fun memory _ => ∀ id record, memory.get? id = some record → machine.Walked record)
      (fun _ _ record => machine.Walked record) where
  made _ hcopies hmade := walked_of_made hcopies hmade
  diverted _ _ _ hrecord hstate hedge := hrecord.apply hedge fun _ => ⟨rfl, hstate⟩
  unsaved hbase := ⟨hbase, fun _ hcopy => hcopy⟩
  saved := by
    intro memory saves record hbase hrecord hversion
    -- the version is not part of the walk, so that the stored copy has walked as far as the record
    refine ⟨fun id found hfound => ?_, hrecord, fun _ hcopy => hcopy⟩
    rw [Store.get?_put] at hfound
    split at hfound
    · rw [← Option.some.inj hfound]
      exact hrecord
    · exact hbase id found hfound
  loaded hbase hfound := hbase _ _ hfound
  returned _ hcopies hreturned := hcopies _ hreturned

/-- Every record that a run comes across is a faithful replay of the machine, when operations return
one of the copies at hand. -/
theorem faithful_of_reaches (machine : Machine) {start desk : Desk} (hfresh : start.IsFresh)
    (hreaches : Desk.Reaches machine (fun _ inner changed => changed ∈ inner.copies) start desk)
    {record : Record} (hrecord : record ∈ desk.copies ∨ ∃ id, desk.stored? id = some record) :
    machine.Faithful record := by
  have hstart : Desk.Holds
      (fun memory _ => ∀ id record, memory.get? id = some record → machine.Walked record)
      (fun _ _ record => machine.Walked record) start.copies start.store := by
    constructor
    · intro id record hfound
      rw [hfresh.memory_eq, Store.get?_empty] at hfound
      exact nomatch hfound
    · intro copy hcopy
      rw [hfresh.copies_eq] at hcopy
      exact absurd hcopy List.not_mem_nil
  obtain ⟨hstored, hcopies⟩ := (invariant_walked machine).reaches hreaches hstart
  apply Walked.faithful
  rcases hrecord with hcopy | ⟨id, hfound⟩
  · exact hcopies record hcopy
  · exact hstored id record hfound

/-- A delivery is created and confirmed: what is stored then is a faithful replay. -/
theorem faithful_of_reaches_delivery :
    let record := Record.create delivery (.ofNat 1)
    let fresh : Desk := { world := { host := {} } }
    let desk := fresh.hold record
    let pending := record.apply "confirm" ⟨"confirmed"⟩ false desk.world.now
    let operation : Operation UnreliableStore StoreError := .unchanged
    let ending := delivery.executeIn .root record "confirm" ⟨"confirmed"⟩ operation desk.world
    let after := (desk.hold pending).receive ending.1.toOption ending.2
    fresh.IsFresh ∧
      Desk.Reaches delivery (fun _ inner changed => changed ∈ inner.copies) fresh after ∧
      after.stored? record.id = some (pending.withVersion 1) ∧
      delivery.Faithful (pending.withVersion 1) := by
  intro record fresh desk pending operation ending after
  have hfresh : fresh.IsFresh := ⟨rfl, rfl, rfl⟩
  have hprepare : delivery.prepare record "confirm" ⟨"confirmed"⟩ desk.world.now = .ok pending :=
    rfl
  have hreturns (changed : Record) (hchanged : (operation pending desk.world).1 = .ok changed) :
      changed ∈ (desk.hold pending).copies := by
    rw [← Except.ok.inj hchanged]
    exact List.mem_cons_self
  have hends : delivery.executeIn .root record "confirm" ⟨"confirmed"⟩ operation desk.world =
      (ending.1, ending.2) := rfl
  have hreaches :
      Desk.Reaches delivery (fun _ inner changed => changed ∈ inner.copies) fresh after := by
    have hcreated : Made delivery fresh.copies fresh.world.now record := .create _
    have hprepared : Made delivery desk.copies desk.world.now pending :=
      .prepare List.mem_cons_self hprepare
    refine .tail (.tail (.single (.make hcreated)) (.make hprepared)) (.act ?_)
    exact .conclude (List.mem_cons_of_mem _ List.mem_cons_self) List.mem_cons_self hprepare rfl
      hreturns hends
  have hstored : after.stored? record.id = some (pending.withVersion 1) := by decide
  have hfaithful := faithful_of_reaches delivery hfresh hreaches (.inr ⟨_, hstored⟩)
  exact ⟨hfresh, hreaches, hstored, hfaithful⟩

end Machine

end Lifecycle
