import Lifecycle.Proofs.Binary.Snapshot
import Lifecycle.Proofs.Execution.Events
import Lifecycle.Proofs.Execution.Recovery
import Lifecycle.Proofs.Execution.Reports

/-!
# Where a record comes from

A recovery leaves two things behind: a step in the history that says so, and two attributes that hold
a report on the failure and the state to which the record was heading. The step and the attributes
are written by different hands, and copies of a record go through many more of them.

`Provenance` follows a record from its creation through all calls that made something of it, and
keeps what each recovery on the way was given. Nobody but a recovery writes the two attributes, which
is what `Record.Derived` and `Record.EditedTo` leave out. Then the attributes are those of the last
recovery, as `Provenance.evidenced` says.
-/

namespace Lifecycle

open Time (Instant)

namespace Record

/-- The attributes that recoveries write. -/
def IsEvidence (name : String) : Prop :=
  name = errorAttribute ∨ name = errorStateAttribute

instance (name : String) : Decidable (IsEvidence name) := by
  unfold IsEvidence
  infer_instance

/-- The records that a host creates. -/
inductive Created (machine : Machine) : Record → Prop where
  /-- In the default initial state. -/
  | create (id : Uuid) : Created machine (.create machine id)
  /-- In a chosen initial state. -/
  | createIn {id : Uuid} {state : State} {record : Record}
      (hcreated : Record.createIn machine id state = .ok record) : Created machine record

/-- The records that a host makes of another one, without writing evidence. -/
inductive Derived (machine : Machine) (now : Instant) (copy : Record) : Record → Prop where
  /-- The copy with an attribute written. -/
  | setAttribute {name : String} (text : String) (hname : ¬ IsEvidence name) :
      Derived machine now copy (copy.setAttribute name text)
  /-- The pending record of a transition. -/
  | prepare {transition : String} {target : State} {pending : Record}
      (hprepare : machine.prepare copy transition target now = .ok pending) :
      Derived machine now copy pending
  /-- The copy, restored from its snapshot as a document. -/
  | ofText {snapshot : Snapshot} {takenAt : Instant}
      (hread : Snapshot.ofText (Snapshot.take copy takenAt).toText = .ok snapshot) :
      Derived machine now copy snapshot.record
  /-- The copy, restored from its snapshot as bytes, of which there are at most as many as a machine
  word can count. -/
  | ofBytes {snapshot : Snapshot} {takenAt : Instant}
      (hlength : (Snapshot.take copy takenAt).toBytes.length < 2 ^ 64)
      (hread : Snapshot.ofBytes (Snapshot.take copy takenAt).toBytes = .ok snapshot) :
      Derived machine now copy snapshot.record

/-- An operation returns the pending record with attributes written, none of them evidence. -/
def EditedTo (pending changed : Record) : Prop :=
  ∃ entries : List (String × String), (∀ entry ∈ entries, ¬ IsEvidence entry.1) ∧
    changed = pending.setAttributes entries

end Record

/-- What a recovery was given: the state to which the transition was heading that failed, and a
report on the failure. The state before the recovery and the time tell which recovery it was. -/
structure Recovery where
  /-- The state to which the transition was heading. -/
  failedTarget : State
  /-- The report on the failure. -/
  report : ErrorReport
  /-- The state of the record before. -/
  origin : State
  /-- The moment at which the record recovered. -/
  time : Instant

/-- Where a record comes from, and what the recoveries on its way were given, oldest first. -/
inductive Provenance (machine : Machine) : Record → List Recovery → Prop where
  | created {record : Record} (hcreated : record.Created machine) : Provenance machine record []
  | derived {copy record : Record} {recoveries : List Recovery} {now : Instant}
      (hcopy : Provenance machine copy recoveries) (hderived : copy.Derived machine now record) :
      Provenance machine record recoveries
  | saved {record stored : Record} {recoveries : List Recovery} {world after : World UnreliableStore}
      (hrecord : Provenance machine record recoveries)
      (hsave : world.save record = (.ok stored, after)) : Provenance machine stored recoveries
  | loaded {record loaded : Record} {recoveries : List Recovery} {id : Uuid}
      {world after : World UnreliableStore} (hrecord : Provenance machine record recoveries)
      (hstored : world.host.memory.get? id = some record)
      (hload : world.load id = (.ok loaded, after)) : Provenance machine loaded recoveries
  /-- A transition was executed, and the operation returned the pending record with attributes
  written. -/
  | executed {ε : Type} [OperationFault ε] {record stored : Record} {recoveries : List Recovery}
      {context : Context} {transition : String} {target : State}
      {operation : Operation UnreliableStore ε} {world after : World UnreliableStore}
      (hrecord : Provenance machine record recoveries)
      (hreturns : ∀ changed,
        (operation (record.apply transition target false world.now) world).1 = .ok changed →
          (record.apply transition target false world.now).EditedTo changed)
      (hends : machine.executeIn context record transition target operation world =
        (.ok stored, after)) :
      Provenance machine stored recoveries
  /-- A failure was dealt with, and the record recovered. -/
  | recovered {ε : Type} [Fault ε] {record stored : Record} {recoveries : List Recovery}
      {context : Context} {failedTarget : State} {error : ε} {world after : World UnreliableStore}
      (hrecord : Provenance machine record recoveries)
      (hends : machine.onFailure context record failedTarget error world =
        (.recovered stored, after)) :
      Provenance machine stored
        (recoveries ++ [⟨failedTarget, .ofFault error, record.state, world.now⟩])
  /-- An execution failed, and its last event says that the record recovered. -/
  | failed {ε : Type} [OperationFault ε] {record stored : Record} {recoveries : List Recovery}
      {context : Context} {transition : String} {target errorState : State} {error : ε}
      {operation : Operation UnreliableStore ε} {world after : World UnreliableStore}
      (hrecord : Provenance machine record recoveries)
      (hends : machine.executeIn context record transition target operation world =
        (.error (.operationFailure transition error), after))
      (hevent : after.log.getLast? = some (.recovered record.id record.state target errorState))
      (hstored : after.host.memory.get? record.id = some stored) :
      Provenance machine stored
        (recoveries ++ [⟨target, .ofFault error, record.state, after.now⟩])

namespace Record

variable {record copy changed : Record} {recoveries : List Recovery} {machine : Machine}

/-- The history of a record has the steps of these recoveries, and its attributes are evidence of the
last one. -/
structure Bears (record : Record) (recoveries : List Recovery) : Prop where
  /-- The steps of recoveries are those of the recoveries, in this order. -/
  steps_eq : (record.history.steps.filter Step.recovery).map (fun step => (step.origin, step.time)) =
    recoveries.map fun recovery => (recovery.origin, recovery.time)
  /-- The report is that of the last recovery. -/
  error_eq : record.error? = recoveries.getLast?.map fun recovery => recovery.report.text
  /-- The failed target is that of the last recovery. -/
  errorState_eq : record.errorState? = recoveries.getLast?.map Recovery.failedTarget

/-- Evidence is found where the history has a recovery, and it is that of the last one. -/
structure Evidenced (record : Record) (recoveries : List Recovery) : Prop where
  /-- The recoveries in the history are those that were given something, in this order. -/
  steps_eq : (record.history.steps.filter Step.recovery).map (fun step => (step.origin, step.time)) =
    recoveries.map fun recovery => (recovery.origin, recovery.time)
  error_iff : (record.attribute? "error").isSome = true ↔
    ∃ step ∈ record.history.steps, step.recovery = true
  errorState_iff : (record.attribute? "error_state").isSome = true ↔
    ∃ step ∈ record.history.steps, step.recovery = true
  report_iff : (ErrorReport.ofRecord? record).isSome = true ↔
    ∃ step ∈ record.history.steps, step.recovery = true
  report_eq : ErrorReport.ofRecord? record = recoveries.getLast?.map Recovery.report
  failedTarget_eq : record.errorState? = recoveries.getLast?.map Recovery.failedTarget

/-- Attributes that are evidence are evidence of something in the history. -/
theorem Bears.evidenced (h : record.Bears recoveries) : record.Evidenced recoveries := by
  obtain ⟨hsteps, herror, hstate⟩ := h
  -- there is a last recovery where there is a step of one
  have hlast : recoveries.getLast?.isSome = true ↔
      ∃ step ∈ record.history.steps, step.recovery = true := by
    have hlength : (record.history.steps.filter Step.recovery).length = recoveries.length := by
      simpa using congrArg List.length hsteps
    rw [List.getLast?_isSome, ← List.length_pos_iff, ← hlength, List.length_pos_iff_exists_mem]
    simp only [List.mem_filter]
  have hreport : ErrorReport.ofRecord? record = recoveries.getLast?.map Recovery.report := by
    rcases hrecovery : recoveries.getLast? with _ | recovery
    · rw [ErrorReport.ofRecord?, herror, hrecovery]
      rfl
    · rw [hrecovery] at herror
      exact ErrorReport.ofRecord?_of_error? herror
  refine
    { steps_eq := hsteps
      error_iff := ?_
      errorState_iff := ?_
      report_iff := ?_
      report_eq := hreport
      failedTarget_eq := hstate }
  · show record.error?.isSome = true ↔ _
    rw [herror, Option.isSome_map, hlast]
  · -- the state is read off the attribute, whatever its text is
    have hread : record.errorState?.isSome = (record.attribute? "error_state").isSome :=
      Option.isSome_map
    rw [← hread, hstate, Option.isSome_map, hlast]
  · rw [hreport, Option.isSome_map, hlast]

/-! ### What keeps the evidence -/

/-- Evidence is read off the history and two attributes, so that nothing else matters. -/
theorem Bears.congr (h : copy.Bears recoveries) (hhistory : record.history = copy.history)
    (hattribute : ∀ name, IsEvidence name → record.attribute? name = copy.attribute? name) :
    record.Bears recoveries := by
  refine ⟨by rw [hhistory]; exact h.steps_eq, ?_, ?_⟩
  · rw [← h.error_eq]
    exact hattribute _ (.inl rfl)
  · rw [← h.errorState_eq, errorState?, errorState?, hattribute _ (.inr rfl)]

/-- A record without a past bears nothing. -/
theorem bears_inState (id : Uuid) (state : State) : (inState id state).Bears [] :=
  ⟨rfl, rfl, rfl⟩

theorem Created.bears (h : record.Created machine) : record.Bears [] := by
  rcases h with id | hcreated
  · exact bears_inState ..
  · rw [Record.createIn] at hcreated
    split at hcreated
    · rw [← Except.ok.inj hcreated]
      exact bears_inState ..
    · exact nomatch hcreated

/-- Writing an attribute that is no evidence keeps the evidence. -/
theorem Bears.setAttribute {name : String} (h : copy.Bears recoveries) (text : String)
    (hname : ¬ IsEvidence name) : (copy.setAttribute name text).Bears recoveries := by
  refine h.congr rfl fun other hother => ?_
  show (copy.attributes.insert name text).get? other = _
  have hne : other ≠ name := fun heq => hname (heq ▸ hother)
  rw [Attributes.get?_insert, if_neg hne]
  rfl

theorem Bears.withVersion (h : copy.Bears recoveries) (version : UInt64) :
    (copy.withVersion version).Bears recoveries :=
  h.congr rfl fun _ _ => rfl

/-- A transition that is no recovery keeps the evidence. -/
theorem Bears.apply (h : copy.Bears recoveries) (transition : String) (target : State)
    (time : Instant) : (copy.apply transition target false time).Bears recoveries := by
  refine ⟨?_, h.error_eq, h.errorState_eq⟩
  -- the new step is not one of a recovery
  show ((copy.history.steps ++ [_]).filter Step.recovery).map _ = _
  rw [List.filter_append, ← h.steps_eq, List.map_append]
  exact List.append_nil _

/-- A recovery adds its step and writes its evidence over that of the one before. -/
theorem Bears.diverted (h : copy.Bears recoveries) (failedTarget : State) (report : ErrorReport)
    (errorState : State) (time : Instant) :
    (copy.diverted failedTarget report errorState time).Bears
      (recoveries ++ [⟨failedTarget, report, copy.state, time⟩]) := by
  refine ⟨?_, ?_, ?_⟩
  · show ((copy.history.steps ++ [_]).filter Step.recovery).map _ = _
    rw [List.filter_append, List.map_append, List.map_append, h.steps_eq]
    rfl
  · rw [error?, attribute?_diverted, List.getLast?_concat]
    rfl
  · rw [errorState?, attribute?_diverted, List.getLast?_concat]
    rfl

theorem Derived.bears {now : Instant} (hderived : copy.Derived machine now record)
    (h : copy.Bears recoveries) : record.Bears recoveries := by
  rcases hderived with ⟨text, hname⟩ | hprepare | hread | ⟨hlength, hread⟩
  · exact h.setAttribute text hname
  · rw [(Machine.prepare_eq_ok hprepare).2]
    exact h.apply ..
  · rwa [Snapshot.record_of_ofText hread]
  · rwa [Snapshot.record_of_ofBytes hlength hread]

/-- Writing attributes that are no evidence keeps the evidence. -/
theorem EditedTo.bears {pending : Record} (hedited : pending.EditedTo changed)
    (h : pending.Bears recoveries) : changed.Bears recoveries := by
  obtain ⟨entries, hnames, rfl⟩ := hedited
  -- the attributes are written one after the other, each into what the last one left
  induction entries generalizing pending with
  | nil => exact h
  | cons entry entries ih =>
    have hwritten := h.setAttribute entry.2 (hnames entry List.mem_cons_self)
    exact ih hwritten fun other hother => hnames other (List.mem_cons_of_mem _ hother)

end Record

namespace Machine

variable {ε : Type} {machine : Machine} {context : Context} {record stored : Record}
  {failedTarget : State} {error : ε} {world after : World UnreliableStore}

/-- The record that is returned by a recovery is what the store made of the diverted copy, and it is
stored. -/
theorem stored_of_recovered [Fault ε]
    (hends : machine.onFailure context record failedTarget error world =
      (.recovered stored, after)) :
    (∃ errorState, stored = (record.diverted failedTarget (.ofFault error) errorState
        world.now).withVersion (record.version + 1)) ∧
      after.now = world.now ∧ after.host.memory.get? record.id = some stored := by
  have hrecovers := recovers_onFailure machine context record failedTarget error world
  rw [hends] at hrecovers
  -- there is one way only to return a recovered record
  rcases hrecovers with _ | _ | _ | _ | @⟨errorState, _, saved, hstate, hcontext, hedge, hsave⟩
  obtain ⟨-, rfl, hsaved⟩ := UnreliableStore.save_eq_ok (World.save_host hsave)
  refine ⟨⟨errorState, rfl⟩, ?_, ?_⟩
  · show saved.host.clock = world.host.clock
    rw [hsaved]
  · show saved.host.memory.get? record.id = _
    rw [hsaved]
    exact Store.get?_put_self ..

/-- Where the last event of a failure says that the record recovered, it did. -/
theorem recovered_of_event [Fault ε] {failure : Event} {outcome : RecoveryOutcome}
    {errorState : State}
    (hends : machine.onFailure context record failedTarget error (world.emit failure) =
      (outcome, after))
    (hfailure : failure ≠ .recovered record.id record.state failedTarget errorState)
    (hevent : after.log.getLast? =
      some (.recovered record.id record.state failedTarget errorState)) :
    ∃ stored, outcome = .recovered stored := by
  have hrecovers := recovers_onFailure machine context record failedTarget error
    (world.emit failure)
  rw [hends] at hrecovers
  -- in all cases but the last, the last event is another one
  cases hrecovers with
  | notConfigured hstate =>
    rw [World.emit, List.getLast?_concat] at hevent
    exact absurd (Option.some.inj hevent) hfailure
  | alreadyRecovering | refused | unsaved =>
    rw [World.emit, List.getLast?_concat] at hevent
    cases Option.some.inj hevent
  | recovered => exact ⟨_, rfl⟩

/-- After a failed execution whose last event says that the record recovered, the diverted copy is
what is stored. -/
theorem stored_of_failed [OperationFault ε] {transition : String} {errorState : State}
    {operation : Operation UnreliableStore ε}
    (hends : machine.executeIn context record transition failedTarget operation world =
      (.error (.operationFailure transition error), after))
    (hevent : after.log.getLast? =
      some (.recovered record.id record.state failedTarget errorState))
    (hstored : after.host.memory.get? record.id = some stored) :
    ∃ errorState, stored = (record.diverted failedTarget (.ofFault error) errorState
      after.now).withVersion (record.version + 1) := by
  have hexecutes := executes_executeIn machine context record transition failedTarget operation world
  rw [hends] at hexecutes
  rcases hexecutes with _ | _ | @⟨_, failing, hedge, hfails⟩
  -- the failure was dealt with behind its own event, in the world that the attempt left
  obtain ⟨outcome, dealt, hdealt⟩ : ∃ outcome dealt, machine.onFailure context record failedTarget
      error (failing.emit (.failed record.id transition record.state failedTarget
        (Fault.message error))) = (outcome, dealt) := ⟨_, _, rfl⟩
  rw [hdealt] at hevent hstored ⊢
  -- the event of the failure itself is not one of a recovery
  obtain ⟨returned, rfl⟩ := recovered_of_event hdealt nofun hevent
  obtain ⟨hdiverted, hnow, hreturned⟩ := stored_of_recovered hdealt
  obtain rfl : stored = returned := Option.some.inj (hstored.symm.trans hreturned)
  show ∃ errorState, stored = (record.diverted failedTarget (.ofFault error) errorState
    dealt.now).withVersion (record.version + 1)
  rw [hnow]
  exact hdiverted

end Machine

namespace Provenance

variable {machine : Machine} {record : Record} {recoveries : List Recovery}

/-- Through all calls, the attributes of a record are evidence of its last recovery. -/
theorem bears (h : Provenance machine record recoveries) : record.Bears recoveries := by
  induction h with
  | created hcreated => exact hcreated.bears
  | derived hcopy hderived ih => exact hderived.bears ih
  | saved hrecord hsave ih =>
    obtain ⟨-, rfl, -⟩ := UnreliableStore.save_eq_ok (World.save_host hsave)
    exact ih.withVersion _
  | loaded hrecord hstored hload ih =>
    -- what was loaded is what was stored, of which the history is known
    obtain ⟨-, -, hfound⟩ := UnreliableStore.load_eq (World.load_host hload)
    have hsame := Option.some.inj (hstored.symm.trans (hfound _ rfl))
    rwa [← hsame]
  | @executed ε _ record stored recoveries context transition target operation world after hrecord
      hreturns hends ih =>
    have hexecutes := Machine.executes_executeIn machine context record transition target operation
      world
    rw [hends] at hexecutes
    -- the commit stores what the operation returned, which is the pending record but for attributes
    rcases hexecutes with _ | @⟨changed, _, inner, left, hedge, hoperation, hsave⟩
    obtain ⟨-, rfl, -⟩ := UnreliableStore.save_eq_ok (World.save_host hsave)
    rw [hoperation] at hreturns
    have hedited := hreturns changed rfl
    exact (hedited.bears (ih.apply ..)).withVersion _
  | recovered hrecord hends ih =>
    obtain ⟨⟨errorState, rfl⟩, -, -⟩ := Machine.stored_of_recovered hends
    exact (ih.diverted ..).withVersion _
  | @failed ε _ record stored recoveries context transition target errorState error operation world
      after hrecord hends hevent hstored ih =>
    obtain ⟨recoveredState, rfl⟩ := Machine.stored_of_failed hends hevent hstored
    exact (ih.diverted ..).withVersion _

/-- A record has evidence of a failure where its history has a recovery. It tells of the last one:
what it was given, in whichever way the record came about. -/
theorem evidenced (h : Provenance machine record recoveries) : record.Evidenced recoveries :=
  h.bears.evidenced

end Provenance

end Lifecycle
