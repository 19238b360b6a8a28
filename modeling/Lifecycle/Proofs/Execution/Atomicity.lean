import Lifecycle.Proofs.Execution.Outcome
import Lifecycle.Proofs.Machine.Soundness
import Lifecycle.Proofs.Store.Saving

/-!
# Executions commit, recover, or do nothing

An execution runs on a store behind planned outages, with an operation that does not touch the
store. `Observed` puts an observer between the execution and its host: it notes every call of the
operation and every save, without changing what happens. Then an execution has exactly one of
three outcomes.

* `Refused`: the guard failed, nothing was called and nothing changed.
* `Committed`: the operation ran once, on the pending record, and the one entry of the record that
  it returned was replaced.
* `Failed`: the operation ran once, and failed or returned a record that the store refused
  (`FailureCause`). The stored records are as before, or the one entry of the original record was
  replaced by its recovered copy (`RecoveryEnds`).
-/

namespace Lifecycle

open Time (Instant)

/-! ### Hosts that answer saves alike -/

namespace UnreliableStore

variable {host other : UnreliableStore}

/-- Two hosts have the same stored records, and of their saves the same ones will fail. -/
structure SavesAlike (host other : UnreliableStore) : Prop where
  memory_eq : host.memory = other.memory
  saves_eq : host.saves = other.saves

/-- A save has the same answer at both of them, and leaves them alike. -/
theorem SavesAlike.save (h : host.SavesAlike other) (record : Record) :
    (host.save record).1 = (other.save record).1 ∧
      (host.save record).2.SavesAlike (other.save record).2 := by
  obtain ⟨hmemory, hsaves⟩ := h
  simp only [UnreliableStore.save, hmemory, hsaves]
  split
  · exact ⟨rfl, rfl, rfl⟩
  · exact ⟨rfl, rfl, rfl⟩

/-- The host after records were offered to it, one after the other. -/
def offered (host : UnreliableStore) (records : List Record) : UnreliableStore :=
  records.foldl (fun host record => (host.save record).2) host

end UnreliableStore

/-! ### Observed hosts -/

/-- A call that an execution makes. -/
inductive Observed.Call where
  /-- The operation is called on a pending record. -/
  | operation (pending : Record)
  /-- A record is offered to the store. -/
  | save (offered : Record)
deriving DecidableEq, Repr

/-- A host, and the calls that an execution made so far, oldest first. -/
structure Observed (σ : Type u) where
  /-- The host. -/
  host : σ
  /-- The calls so far. -/
  calls : List Observed.Call := []

namespace Observed

/-- An observed host does what the host does, and notes every save. -/
instance [Host σ] : Host (Observed σ) where
  now observed := Host.now observed.host
  load id observed :=
    let (answer, host) := Host.load id observed.host
    (answer, { observed with host })
  save record observed :=
    let (answer, host) := Host.save record observed.host
    (answer, { host, calls := observed.calls ++ [.save record] })

end Observed

namespace World

/-- The world without the observer. -/
def unobserved (world : World (Observed σ)) : World σ :=
  { host := world.host.host, log := world.log }

/-- The world with the observer, who has noted some calls. -/
def observed (world : World σ) (calls : List Observed.Call) : World (Observed σ) :=
  { host := { host := world.host, calls }, log := world.log }

@[simp]
theorem now_unobserved [Host σ] (world : World (Observed σ)) : world.unobserved.now = world.now :=
  rfl

/-- A save has the same answer with and without an observer. -/
theorem save_unobserved [Host σ] {world after : World (Observed σ)} {record : Record}
    {answer : Except StoreError Record} (h : world.save record = (answer, after)) :
    world.unobserved.save record = (answer, after.unobserved) := by
  simp only [save, Host.save, Prod.mk.injEq] at h
  obtain ⟨rfl, rfl⟩ := h
  rfl

variable {world after : World (Observed UnreliableStore)} {record stored : Record}
  {answer : Except StoreError Record} {error : StoreError}

/-- The stored records of an observed world. -/
def memory (world : World (Observed UnreliableStore)) : Store :=
  world.host.host.memory

/-- A save in an observed world is one at its host, and is noted. -/
theorem save_observed (h : world.save record = (answer, after)) :
    world.host.host.save record = (answer, after.host.host) ∧
      after.host.calls = world.host.calls ++ [.save record] := by
  simp only [World.save, Host.save, Prod.mk.injEq] at h
  obtain ⟨rfl, rfl⟩ := h
  exact ⟨rfl, rfl⟩

/-- A save that is accepted in an observed world. -/
theorem save_observed_eq_ok (h : world.save record = (.ok stored, after)) :
    world.memory.version record.id = record.version ∧
      stored = record.withVersion (record.version + 1) ∧
      after.memory = world.memory.put stored ∧ after.now = world.now := by
  obtain ⟨hversion, hstored, hafter⟩ := UnreliableStore.save_eq_ok (save_observed h).1
  have hmemory := congrArg UnreliableStore.memory hafter
  have hclock := congrArg UnreliableStore.clock hafter
  exact ⟨hversion, hstored, hmemory, hclock⟩

/-- A save that is refused in an observed world. -/
theorem save_observed_eq_error (h : world.save record = (.error error, after)) :
    after.memory = world.memory ∧ after.now = world.now := by
  obtain ⟨hafter, -⟩ := UnreliableStore.save_eq_error (save_observed h).1
  have hmemory := congrArg UnreliableStore.memory hafter
  have hclock := congrArg UnreliableStore.clock hafter
  exact ⟨hmemory, hclock⟩

end World

namespace Operation

/-- The operation, with its calls noted by the observer. -/
def observed (operation : Operation σ ε) : Operation (Observed σ) ε := fun pending world =>
  let (answer, after) := operation pending world.unobserved
  (answer, after.observed (world.host.calls ++ [.operation pending]))

/-- With an observer, an operation does what another one does without. -/
def Mirrors (observed : Operation (Observed σ) ε) (operation : Operation σ ε) : Prop :=
  ∀ pending world, operation pending world.unobserved =
    ((observed pending world).1, (observed pending world).2.unobserved)

theorem mirrors_observed (operation : Operation σ ε) : operation.observed.Mirrors operation :=
  fun _ _ => rfl

/-- An operation answers in the same way with and without an observer. -/
theorem Mirrors.eq {operation : Operation σ ε} {mirror : Operation (Observed σ) ε}
    (hmirror : mirror.Mirrors operation) {pending : Record} {world after : World (Observed σ)}
    {answer : Except ε Record} (h : mirror pending world = (answer, after)) :
    operation pending world.unobserved = (answer, after.unobserved) := by
  rw [hmirror pending world, h]

/-- An operation does not touch the store: the stored records and the outages of saves are the same
after it as before. -/
def LeavesStore (operation : Operation UnreliableStore ε) : Prop :=
  ∀ pending world, (operation pending world).2.host.memory = world.host.memory ∧
    (operation pending world).2.host.saves = world.host.saves

/-- An observed operation that does not touch the store answers as it does unobserved, its call is
noted, and it leaves a host that answers saves as before. -/
theorem observed_eq {operation : Operation UnreliableStore ε} {pending : Record}
    {world after : World (Observed UnreliableStore)} {answer : Except ε Record}
    (hleaves : operation.LeavesStore) (h : operation.observed pending world = (answer, after)) :
    (operation pending world.unobserved).1 = answer ∧
      after.host.host.SavesAlike world.host.host ∧
      after.host.calls = world.host.calls ++ [.operation pending] := by
  have hunobserved := (mirrors_observed operation).eq h
  have hkept := hleaves pending world.unobserved
  rw [hunobserved] at hkept ⊢
  simp only [observed, Prod.mk.injEq] at h
  obtain ⟨-, rfl⟩ := h
  exact ⟨rfl, ⟨hkept.1, hkept.2⟩, rfl⟩

end Operation

namespace Machine

/-! ### Observing changes nothing -/

section Observing

variable {σ : Type u} {ε : Type v} [Host σ]

/-- Observed or not, a failure is dealt with in the same way. -/
theorem onFailure_unobserved [Fault ε] (machine : Machine) (context : Context) (record : Record)
    (target : State) (error : ε) (world : World (Observed σ)) :
    machine.onFailure context record target error world.unobserved =
      ((machine.onFailure context record target error world).1,
        (machine.onFailure context record target error world).2.unobserved) := by
  have hends := recovers_onFailure machine context record target error world
  generalize machine.onFailure context record target error world = ending at hends ⊢
  -- the observed course is known by now: the other one is computed along it
  unfold onFailure recover
  cases hends with
  | notConfigured hstate => rw [hstate]
  | alreadyRecovering hstate hcontext =>
    simp only [hstate, hcontext, ↓reduceIte]
    rfl
  | refused hstate hcontext hedge hrejected =>
    simp only [hstate, hcontext, Bool.false_eq_true, ↓reduceIte, divert_of_ne hedge, hrejected]
    rfl
  | unsaved hstate hcontext hedge hsave | recovered hstate hcontext hedge hsave =>
    simp only [hstate, hcontext, Bool.false_eq_true, ↓reduceIte, divert_of_target hedge,
      World.now_unobserved, World.save_unobserved hsave]
    rfl

/-- Observed or not, an execution takes the same course, if its operation does. -/
theorem executeIn_mirrored [OperationFault ε] (machine : Machine) (context : Context)
    (record : Record) (transition : String) (target : State) {operation : Operation σ ε}
    {mirror : Operation (Observed σ) ε} (hmirror : mirror.Mirrors operation)
    (world : World (Observed σ)) :
    let observed := machine.executeIn context record transition target mirror world
    machine.executeIn context record transition target operation world.unobserved =
      (observed.1, observed.2.unobserved) := by
  intro observed
  have hends : Executes machine context record transition target mirror world observed :=
    executes_executeIn machine context record transition target mirror world
  -- from here on, the observed course is known by the way in which it ended
  clear_value observed
  unfold executeIn attempt prepare
  cases hends with
  | refused hedge =>
    simp only [move_of_ne false hedge]
    rfl
  | committed hedge hoperation hsave =>
    simp only [move_of_target false hedge, World.now_unobserved, hmirror.eq hoperation,
      World.save_unobserved hsave]
    rfl
  | failed hedge hfails =>
    simp only [move_of_target false hedge, World.now_unobserved]
    cases hfails with
    | operation hoperation =>
      simp only [hmirror.eq hoperation]
      exact congrArg (Prod.mk _) (congrArg Prod.snd (onFailure_unobserved machine context record
        target _ (World.emit _ _)))
    | commit hoperation hsave =>
      simp only [hmirror.eq hoperation, World.save_unobserved hsave]
      exact congrArg (Prod.mk _) (congrArg Prod.snd (onFailure_unobserved machine context record
        target _ (World.emit _ _)))

/-- Observed or not, an execution takes the same course. -/
theorem executeIn_unobserved [OperationFault ε] (machine : Machine) (context : Context)
    (record : Record) (transition : String) (target : State) (operation : Operation σ ε)
    (world : World (Observed σ)) :
    let observed := machine.executeIn context record transition target operation.observed world
    machine.executeIn context record transition target operation world.unobserved =
      (observed.1, observed.2.unobserved) :=
  executeIn_mirrored machine context record transition target operation.mirrors_observed world

end Observing

/-! ### The three outcomes -/

section Outcomes

variable (machine : Machine) (context : Context) (record : Record) (transition : String)
  (target : State) (before after : World (Observed UnreliableStore))

/-- A refused execution made no call, and its host is as before. -/
structure Refused (rejected : InvalidTransition) : Prop where
  /-- The transition does not lead to the target. -/
  edge : machine.target? record.state transition ≠ some target
  /-- The error says so. -/
  rejected_eq : rejected = { origin := record.state, attempted := target, transition }
  /-- Neither the operation nor the store was called. -/
  calls_eq : after.host.calls = before.host.calls
  /-- The store did not change. -/
  host_eq : after.host.host = before.host.host

/-- A committed execution called the operation once and saved once. -/
structure Committed (operation : Operation UnreliableStore ε) (changed stored : Record) : Prop where
  /-- The transition leads to the target. -/
  edge : machine.target? record.state transition = some target
  /-- The operation returned a record. -/
  returned : (operation (record.apply transition target false before.now) before.unobserved).1 =
    .ok changed
  /-- The operation was called on the pending record, and what it returned was offered. -/
  calls_eq : after.host.calls = before.host.calls ++
    [.operation (record.apply transition target false before.now), .save changed]
  /-- The store accepted what the operation returned. -/
  accepted : (before.host.host.save changed).1 = .ok stored
  /-- The result is what the operation returned, under another version. -/
  stored_eq : stored = { changed with version := stored.version }
  /-- The version was increased by one. -/
  version_eq : stored.version.toNat = changed.version.toNat + 1
  /-- The entry of the result was replaced by it, and every other entry was kept. -/
  replaced : before.memory.Replaced stored after.memory

/-- Between two stores, the recovered copy of the original record replaced its entry. -/
structure Recovered (stores : Store × Store) (report : ErrorReport) (time : Instant)
    (recovered : Record) : Prop where
  /-- The copy differs from the diverted copy of the original record in its version alone. -/
  recovered_eq : ∃ errorState, machine.errorState = some errorState ∧
    machine.target? record.state Transition.recoveryName = some errorState ∧
    recovered = { record.diverted target report errorState time with version := recovered.version }
  /-- The execution was not part of a recovery. -/
  context_eq : context.isRecovering = false
  /-- The original record carried the stored version. -/
  stored_version : stores.1.version record.id = record.version
  /-- The version was increased by one. -/
  version_eq : recovered.version.toNat = record.version.toNat + 1
  /-- The entry of the record was replaced by the copy, and every other entry was kept. -/
  replaced : stores.1.Replaced recovered stores.2

/-- What an execution failed with, and the records that its commit had offered to the store. -/
inductive FailureCause [OperationFault ε] (operation : Operation UnreliableStore ε)
    (pending : Record) (before : World UnreliableStore) : ε → List Record → Prop where
  /-- The operation failed, and nothing was offered. -/
  | operation {error : ε} (hreturned : (operation pending before).1 = .error error) :
      FailureCause operation pending before error []
  /-- The store refused what the operation returned. The error stands for that of the store. -/
  | commit {changed : Record} {storeError : StoreError}
      (hreturned : (operation pending before).1 = .ok changed)
      (hrefused : (before.host.save changed).1 = .error storeError) :
      FailureCause operation pending before (OperationFault.ofStore storeError) [changed]

/-- The stored records that a recovery left at a host, and the records that it had offered. -/
inductive RecoveryEnds (report : ErrorReport) (time : Instant) (host : UnreliableStore) :
    Store → List Record → Prop where
  /-- There was no recovery to make, or the machine refused it. -/
  | unoffered (hnone : ∀ errorState, machine.errorState = some errorState →
        context.isRecovering = false →
          machine.target? record.state Transition.recoveryName ≠ some errorState) :
      RecoveryEnds report time host host.memory []
  /-- The store refused the diverted copy of the original record. -/
  | unsaved {errorState : State} {storeError : StoreError}
      (hstate : machine.errorState = some errorState) (hcontext : context.isRecovering = false)
      (hedge : machine.target? record.state Transition.recoveryName = some errorState)
      (hrefused : (host.save (record.diverted target report errorState time)).1 =
        .error storeError) :
      RecoveryEnds report time host host.memory [record.diverted target report errorState time]
  /-- The store accepted the diverted copy of the original record. -/
  | recovered {errorState : State} {stored : Record} {memory : Store}
      (hstate : machine.errorState = some errorState)
      (haccepted : (host.save (record.diverted target report errorState time)).1 = .ok stored)
      (hrecovered : Recovered machine context record target (host.memory, memory) report time
        stored) :
      RecoveryEnds report time host memory [record.diverted target report errorState time]

/-- A failed execution called the operation once, and otherwise only the store. -/
structure Failed [OperationFault ε] (operation : Operation UnreliableStore ε) (error : ε)
    (commits recoveries : List Record) : Prop where
  /-- The transition leads to the target. -/
  edge : machine.target? record.state transition = some target
  /-- The operation was called on the pending record. Then records were offered, first by the commit
  and then by the recovery. -/
  calls_eq : after.host.calls = before.host.calls ++
    .operation (record.apply transition target false before.now) ::
      (commits ++ recoveries).map .save
  /-- The operation failed, or the store refused the commit. -/
  cause : FailureCause operation (record.apply transition target false before.now)
    before.unobserved error commits
  /-- The recovery went on at the host to which the commit had offered its record. -/
  recovery : RecoveryEnds machine context record target (ErrorReport.ofFault error) after.now
    (before.host.host.offered commits) after.memory recoveries
  /-- The stored records are as before, or the recovered copy of the original record replaced it. -/
  stored : after.memory = before.memory ∨
    ∃ recovered, Recovered machine context record target (before.memory, after.memory)
      (ErrorReport.ofFault error) after.now recovered

end Outcomes

variable {machine : Machine} {context : Context} {record : Record} {transition : String}
  {target : State} {world : World (Observed UnreliableStore)}

section Ending

variable {report : ErrorReport} {time : Instant} {host other : UnreliableStore} {memory : Store}
  {recoveries : List Record}

/-- A recovery depends on how its host answers saves, and on nothing else of it. -/
theorem RecoveryEnds.congr
    (h : RecoveryEnds machine context record target report time host memory recoveries)
    (halike : host.SavesAlike other) :
    RecoveryEnds machine context record target report time other memory recoveries := by
  cases h with
  | unoffered hnone =>
    rw [halike.memory_eq]
    exact .unoffered hnone
  | unsaved hstate hcontext hedge hrefused =>
    rw [(halike.save _).1] at hrefused
    rw [halike.memory_eq]
    exact .unsaved hstate hcontext hedge hrefused
  | recovered hstate haccepted hrecovered =>
    rw [(halike.save _).1] at haccepted
    rw [halike.memory_eq] at hrecovered
    exact .recovered hstate haccepted hrecovered

/-- A recovery leaves the stored records as they are, or replaces the original record by its
recovered copy. -/
theorem RecoveryEnds.memory_eq_or
    (h : RecoveryEnds machine context record target report time host memory recoveries) :
    memory = host.memory ∨
      ∃ recovered, Recovered machine context record target (host.memory, memory) report time
        recovered := by
  cases h with
  | unoffered hnone => exact .inl rfl
  | unsaved hstate hcontext hedge hrefused => exact .inl rfl
  | recovered hstate haccepted hrecovered => exact .inr ⟨_, hrecovered⟩

end Ending

/-- A recovery calls nothing but the store, and ends in one of three ways. -/
theorem onFailure_atomic [Fault ε] (machine : Machine) (context : Context) (record : Record)
    (target : State) (error : ε) (world : World (Observed UnreliableStore))
    (hroom : ∀ stored ∈ world.memory.records, stored.version.toNat + 1 < 2 ^ 64) :
    let after := (machine.onFailure context record target error world).2
    ∃ recoveries : List Record, after.host.calls = world.host.calls ++ recoveries.map .save ∧
      RecoveryEnds machine context record target (ErrorReport.ofFault error) after.now
        world.host.host after.memory recoveries := by
  have hends := recovers_onFailure machine context record target error world
  generalize machine.onFailure context record target error world = ending at hends ⊢
  cases hends with
  -- where nothing is offered to the store, nothing changes
  | notConfigured hstate =>
    exact ⟨[], by simp, .unoffered fun _ hsome => by simp [hstate] at hsome⟩
  | alreadyRecovering hstate hcontext =>
    exact ⟨[], by simp [World.emit], .unoffered fun _ _ hroot => by simp [hcontext] at hroot⟩
  | refused hstate hcontext hedge hrejected =>
    refine ⟨[], by simp [World.emit], .unoffered fun other hsome _ => ?_⟩
    rwa [← Option.some.inj (hstate.symm.trans hsome)]
  | @unsaved errorState storeError after hstate hcontext hedge hsave =>
    obtain ⟨hmemory, hnow⟩ := World.save_observed_eq_error hsave
    obtain ⟨hhost, hcalls⟩ := World.save_observed hsave
    refine ⟨[_], hcalls, ?_⟩
    change RecoveryEnds machine context record target _ after.now world.host.host after.memory _
    rw [hmemory, hnow]
    exact .unsaved hstate hcontext hedge (congrArg Prod.fst hhost)
  | @recovered errorState stored after hstate hcontext hedge hsave =>
    obtain ⟨hversion, hstored, hmemory, hnow⟩ := World.save_observed_eq_ok hsave
    obtain ⟨hhost, hcalls⟩ := World.save_observed hsave
    -- diverting a record changes neither its identifier nor its version
    have hsame : world.memory.version record.id = record.version := hversion
    have hroomId := Store.version_room hroom record.id
    rw [hsame] at hroomId
    refine ⟨[_], hcalls, ?_⟩
    change RecoveryEnds machine context record target _ after.now world.host.host after.memory _
    rw [hnow]
    refine .recovered hstate (congrArg Prod.fst hhost) ?_
    exact
      { recovered_eq := ⟨errorState, hstate, hedge, by rw [hstored]; rfl⟩
        context_eq := hcontext
        stored_version := hsame
        version_eq := by
          rw [hstored]
          exact Store.toNat_next_version hroomId
        replaced := by
          rw [hmemory]
          exact Store.replaced_put _ _ }

/-- A failure of an observed operation or its commit leaves the stored records as they are, at a host
that goes on as if nothing but the commit had been offered to it. -/
theorem fails_atomic [OperationFault ε] {operation : Operation UnreliableStore ε} {pending : Record}
    {after : World (Observed UnreliableStore)} {error : ε} (hleaves : operation.LeavesStore)
    (hfails : Fails operation.observed pending world error after) :
    after.memory = world.memory ∧ ∃ commits : List Record,
      after.host.calls = world.host.calls ++ .operation pending :: commits.map .save ∧
      FailureCause operation pending world.unobserved error commits ∧
      after.host.host.SavesAlike (world.host.host.offered commits) := by
  cases hfails with
  | operation hoperation =>
    obtain ⟨hanswer, halike, hcalls⟩ := Operation.observed_eq hleaves hoperation
    exact ⟨halike.memory_eq, [], hcalls, .operation hanswer, halike⟩
  -- the refused record was offered after the call of the operation
  | @commit changed inner after storeError hoperation hsave =>
    obtain ⟨hanswer, halike, hcalls⟩ := Operation.observed_eq hleaves hoperation
    obtain ⟨hhost, hcalls'⟩ := World.save_observed hsave
    obtain ⟨hsame, hleft⟩ := halike.save changed
    rw [hhost] at hsame hleft
    refine ⟨?_, [changed], ?_, .commit hanswer hsame.symm, hleft⟩
    · exact (World.save_observed_eq_error hsave).1.trans halike.memory_eq
    · rw [hcalls', hcalls, List.append_assoc]
      rfl

/-- What an observed operation returned, and the store accepted, is a commit. -/
theorem committed_of_save {operation : Operation UnreliableStore ε} {changed stored : Record}
    {inner after : World (Observed UnreliableStore)} (hleaves : operation.LeavesStore)
    (hroom : ∀ stored ∈ world.memory.records, stored.version.toNat + 1 < 2 ^ 64)
    (hedge : machine.target? record.state transition = some target)
    (hoperation : operation.observed (record.apply transition target false world.now) world =
      (.ok changed, inner))
    (hsave : inner.save changed = (.ok stored, after)) (event : Event) :
    Committed machine record transition target world (after.emit event) operation changed
      stored := by
  obtain ⟨hanswer, halike, hcalls⟩ := Operation.observed_eq hleaves hoperation
  obtain ⟨hhost, hcalls'⟩ := World.save_observed hsave
  obtain ⟨hversion, hstored, hsaved, -⟩ := World.save_observed_eq_ok hsave
  -- the operation left the store alone, so that the commit found it as the execution did
  have hmemory : inner.memory = world.memory := halike.memory_eq
  rw [hmemory] at hversion hsaved
  have hroomId := Store.version_room hroom changed.id
  rw [hversion] at hroomId
  exact
    { edge := hedge
      returned := hanswer
      calls_eq := by
        change after.host.calls = _
        rw [hcalls', hcalls, List.append_assoc]
        rfl
      accepted := by
        rw [← (halike.save changed).1, hhost]
      stored_eq := by
        rw [hstored]
        rfl
      version_eq := by
        rw [hstored]
        exact Store.toNat_next_version hroomId
      replaced := by
        change world.memory.Replaced _ after.memory
        rw [hsaved]
        exact Store.replaced_put _ _ }

/-- After an observed operation or its commit failed, the recovery ends the execution. -/
theorem exists_failed_of_fails [OperationFault ε] {operation : Operation UnreliableStore ε}
    {failing : World (Observed UnreliableStore)} {error : ε} (hleaves : operation.LeavesStore)
    (hroom : ∀ stored ∈ world.memory.records, stored.version.toNat + 1 < 2 ^ 64)
    (hedge : machine.target? record.state transition = some target)
    (hfails : Fails operation.observed (record.apply transition target false world.now) world error
      failing) (event : Event) :
    ∃ commits recoveries, Failed machine context record transition target world
      (machine.onFailure context record target error (failing.emit event)).2 operation error commits
      recoveries := by
  obtain ⟨hmemory, commits, hcalls, hcause, halike⟩ := fails_atomic hleaves hfails
  have hfailing : ∀ stored ∈ (failing.emit event).memory.records,
      stored.version.toNat + 1 < 2 ^ 64 := by
    change ∀ stored ∈ failing.memory.records, _
    rwa [hmemory]
  obtain ⟨recoveries, hcalls', hrecovery⟩ :=
    onFailure_atomic machine context record target error (failing.emit event) hfailing
  -- the recovery starts from the world that the failure left, with one more event
  change _ = failing.host.calls ++ _ at hcalls'
  change RecoveryEnds machine context record target _ _ failing.host.host _ recoveries at hrecovery
  have hkept : failing.host.host.memory = world.memory := hmemory
  have hstored := hrecovery.memory_eq_or
  rw [hkept] at hstored
  refine ⟨commits, recoveries, ?_⟩
  exact
    { edge := hedge
      calls_eq := by
        rw [hcalls', hcalls, List.append_assoc, List.cons_append, List.map_append]
      cause := hcause
      recovery := hrecovery.congr halike
      stored := hstored }

/-- An execution has exactly one of three outcomes. It is refused exactly when the transition does
not lead from the state of the record to the target, and then nothing happened. If it returns a
record, the operation ran once, the store accepted what it returned, and the one entry of this record
was replaced. If it failed, the operation ran once, and failed or returned what the store refused;
the stored records are as before, or the one entry of the original record was replaced by its
recovered copy. -/
theorem executeIn_atomic [OperationFault ε] (machine : Machine) (context : Context)
    (record : Record) (transition : String) (target : State)
    (operation : Operation UnreliableStore ε) (hleaves : operation.LeavesStore)
    (world : World (Observed UnreliableStore))
    (hroom : ∀ stored ∈ world.memory.records, stored.version.toNat + 1 < 2 ^ 64) :
    let (result, after) :=
      machine.executeIn context record transition target operation.observed world
    machine.executeIn context record transition target operation world.unobserved =
      (result, after.unobserved) ∧
    ((∃ rejected, result = .error (.invalidTransition rejected)) ↔
      machine.target? record.state transition ≠ some target) ∧
    match result with
    | .error (.invalidTransition rejected) =>
      Refused machine record transition target world after rejected
    | .ok stored =>
      ∃ changed, Committed machine record transition target world after operation changed stored
    | .error (.operationFailure name error) =>
      name = transition ∧ ∃ commits recoveries,
        Failed machine context record transition target world after operation error commits
          recoveries := by
  have hends := executes_executeIn machine context record transition target operation.observed world
  have hcourse := executeIn_unobserved machine context record transition target operation world
  generalize machine.executeIn context record transition target operation.observed world = ending
    at hends hcourse
  refine ⟨hcourse, ?_⟩
  -- each way to end is one of the outcomes
  cases hends with
  | refused hedge => exact ⟨by simpa using hedge, ⟨hedge, rfl, rfl, rfl⟩⟩
  | committed hedge hoperation hsave =>
    exact ⟨by simpa using hedge, _, committed_of_save hleaves hroom hedge hoperation hsave _⟩
  | failed hedge hfails =>
    exact ⟨by simpa using hedge, rfl, exists_failed_of_fails hleaves hroom hedge hfails _⟩

/-- A stored delivery is refused a loop, or confirmed, or its confirmation fails: there are outcomes
of each kind. -/
theorem executeIn_atomic_delivery :
    let record := { Record.create delivery (.ofNat 1) with version := 1 }
    let world : World (Observed UnreliableStore) :=
      { host := { host := { memory := Store.empty.put record } } }
    let failing : Operation UnreliableStore StoreError := fun _ world =>
      (.error (.unavailable "disk full"), world)
    let succeeding : Operation UnreliableStore StoreError := .unchanged
    let refused := delivery.executeIn .root record "confirm" ⟨"pending"⟩ failing.observed world
    let committed :=
      delivery.executeIn .root record "confirm" ⟨"confirmed"⟩ succeeding.observed world
    let failed := delivery.executeIn .root record "confirm" ⟨"confirmed"⟩ failing.observed world
    failing.LeavesStore ∧ succeeding.LeavesStore ∧
      (∀ stored ∈ world.memory.records, stored.version.toNat + 1 < 2 ^ 64) ∧
      (∃ rejected, refused.1 = .error (.invalidTransition rejected) ∧
        Refused delivery record "confirm" ⟨"pending"⟩ world refused.2 rejected) ∧
      (∃ changed stored, committed.1 = .ok stored ∧
        Committed delivery record "confirm" ⟨"confirmed"⟩ world committed.2 succeeding changed
          stored) ∧
      ∃ commits recoveries, Failed delivery .root record "confirm" ⟨"confirmed"⟩ world failed.2
        failing (.unavailable "disk full") commits recoveries := by
  intro record world failing succeeding refused committed failed
  have hfailing : failing.LeavesStore := fun _ _ => ⟨rfl, rfl⟩
  have hsucceeding : succeeding.LeavesStore := fun _ _ => ⟨rfl, rfl⟩
  have hroom : ∀ stored ∈ world.memory.records, stored.version.toNat + 1 < 2 ^ 64 := by decide
  have hrefused := executeIn_atomic delivery .root record "confirm" ⟨"pending"⟩ failing hfailing
    world hroom
  have hcommitted := executeIn_atomic delivery .root record "confirm" ⟨"confirmed"⟩ succeeding
    hsucceeding world hroom
  have hfailed := executeIn_atomic delivery .root record "confirm" ⟨"confirmed"⟩ failing hfailing
    world hroom
  obtain ⟨changed, hchanged⟩ := hcommitted.2.2
  exact ⟨hfailing, hsucceeding, hroom, ⟨_, rfl, hrefused.2.2⟩, ⟨changed, _, rfl, hchanged⟩,
    hfailed.2.2.2⟩

end Machine

end Lifecycle
