import Lifecycle.Proofs.Record.Provenance
import Lifecycle.Proofs.Run.Desk

/-!
# Evidence in runs

A host that leaves the evidence of failures to recoveries may do everything else, in any order and on
any number of copies: conflicts, failed recoveries and repeated ones included. `Desk.SparingStep` is a
step of such a host.

All records of its runs have a provenance, which each step preserves: `Desk.IsTraced.sparingStep`. So
each of them has evidence of a failure where its history has a recovery, and of the last one:
`Desk.evidence_matches_history`.
-/

namespace Lifecycle

namespace Desk

variable {machine : Machine} {desk after : Desk}

/-- One step of a host that leaves the evidence to recoveries. It makes records in fewer ways, and
does everything else as any host does. -/
inductive SparingStep (machine : Machine) : Desk → Desk → Prop where
  /-- A record is created. -/
  | create {desk : Desk} {record : Record} (hcreated : record.Created machine) :
      SparingStep machine desk (desk.hold record)
  /-- A record is made of a copy, with the same evidence. -/
  | derive {desk : Desk} {copy record : Record} (hcopy : copy ∈ desk.copies)
      (hderived : copy.Derived machine desk.world.now record) :
      SparingStep machine desk (desk.hold record)
  /-- Anything is done but to make a record. Operations return the pending record with attributes
  written. -/
  | act {desk after : Desk}
      (hact : Act machine (fun pending _ changed => pending.EditedTo changed) desk after) :
      SparingStep machine desk after

/-- From one desk, a host that leaves the evidence to recoveries can reach another. -/
def ReachesSparing (machine : Machine) : Desk → Desk → Prop :=
  Relation.ReflTransGen (SparingStep machine)

end Desk

namespace Machine

variable {machine : Machine} {record : Record} {world after : World UnreliableStore}

/-- It is known where a record comes from. -/
def Traces (machine : Machine) (record : Record) : Prop :=
  ∃ recoveries, Provenance machine record recoveries

/-- It is known of all stored records where they come from. -/
def TracesStored (machine : Machine) (world : World UnreliableStore) : Prop :=
  ∀ id stored, world.host.memory.get? id = some stored → machine.Traces stored

theorem Traces.save {stored : Record} (h : machine.Traces record)
    (hsave : world.save record = (.ok stored, after)) : machine.Traces stored := by
  obtain ⟨recoveries, hrecord⟩ := h
  exact ⟨recoveries, hrecord.saved hsave⟩

/-- A save stores what it returns, and keeps all else that is stored. -/
theorem TracesStored.save {answer : Except StoreError Record} (h : machine.TracesStored world)
    (hsave : world.save record = (answer, after))
    (hanswer : ∀ stored, answer = .ok stored → machine.Traces stored) :
    machine.TracesStored after := by
  have hhost := World.save_host hsave
  intro id found hfound
  rcases answer with error | stored
  · rw [(UnreliableStore.save_eq_error hhost).1] at hfound
    exact h id found hfound
  · obtain ⟨-, -, hafter⟩ := UnreliableStore.save_eq_ok hhost
    rw [hafter, Store.get?_put] at hfound
    -- under its identifier the returned copy is found, and elsewhere what was there before
    split at hfound
    · exact hanswer found (congrArg Except.ok (Option.some.inj hfound))
    · exact h id found hfound

/-- A record that recovered has one more recovery, and nothing else came to be stored. -/
theorem TracesStored.onFailure {ε : Type} [Fault ε] {context : Context} {failedTarget : State}
    {error : ε} {outcome : RecoveryOutcome} (h : machine.TracesStored world)
    (hrecord : machine.Traces record)
    (hends : machine.onFailure context record failedTarget error world = (outcome, after)) :
    machine.TracesStored after ∧
      ∀ stored, outcome.record? = some stored → machine.Traces stored := by
  obtain ⟨recoveries, hrecoveries⟩ := hrecord
  -- the call itself is the next recovery of what it returns
  have hreturned (stored : Record) (houtcome : outcome = .recovered stored) :
      machine.Traces stored := by
    subst houtcome
    exact ⟨_, hrecoveries.recovered hends⟩
  have hrecovers := recovers_onFailure machine context record failedTarget error world
  rw [hends] at hrecovers
  cases hrecovers with
  -- without a save there is nothing new
  | notConfigured | alreadyRecovering | refused => exact ⟨h, nofun⟩
  | @unsaved errorState storeError saved hstate hcontext hedge hsave =>
    have hkept : machine.TracesStored saved := h.save hsave fun stored hstored => nomatch hstored
    exact ⟨hkept, nofun⟩
  | @recovered errorState stored saved hstate hcontext hedge hsave =>
    have hstored := hreturned stored rfl
    have hkept : machine.TracesStored saved := h.save hsave fun _ hsame => by
      rwa [← Except.ok.inj hsame]
    refine ⟨hkept, fun _ hsame => ?_⟩
    rwa [← Option.some.inj hsame]

/-- The commit of a failed execution was refused, if it came to that, and nothing is stored that was
not stored where the operation ended. -/
theorem TracesStored.fails {ε : Type} [OperationFault ε] {operation : Operation UnreliableStore ε}
    {pending : Record} {error : ε} (h : machine.TracesStored (operation pending world).2)
    (hfails : Fails operation pending world error after) : machine.TracesStored after := by
  rcases hfails with hoperation | ⟨hoperation, hsave⟩
  · rwa [hoperation] at h
  · rw [hoperation] at h
    exact h.save hsave fun stored hstored => nomatch hstored

end Machine

namespace Desk

open Machine (delivery)

variable {machine : Machine} {desk after : Desk}

/-- It is known of all records of a host where they come from. -/
structure IsTraced (machine : Machine) (desk : Desk) : Prop where
  copies : ∀ copy ∈ desk.copies, machine.Traces copy
  stored : machine.TracesStored desk.world

theorem IsTraced.hold {record : Record} (h : desk.IsTraced machine)
    (hrecord : machine.Traces record) : (desk.hold record).IsTraced machine := by
  refine ⟨fun copy hcopy => ?_, h.stored⟩
  rcases List.mem_cons.1 hcopy with rfl | hcopy
  · exact hrecord
  · exact h.copies copy hcopy

theorem IsTraced.receive {answer : Option Record} {world : World UnreliableStore}
    (h : desk.IsTraced machine) (hworld : machine.TracesStored world)
    (hanswer : ∀ stored, answer = some stored → machine.Traces stored) :
    (desk.receive answer world).IsTraced machine := by
  refine ⟨fun copy hcopy => ?_, hworld⟩
  rcases List.mem_append.1 hcopy with hcopy | hcopy
  · exact hanswer copy (Option.mem_toList.1 hcopy)
  · exact h.copies copy hcopy

/-- A copy that was saved, or is being committed, is returned as it is stored. -/
theorem IsTraced.save {record : Record} {after : World UnreliableStore}
    {answer : Except StoreError Record} (h : desk.IsTraced machine)
    (hsave : desk.world.save record = (answer, after))
    (hanswer : ∀ stored, answer = .ok stored → machine.Traces stored) :
    (desk.receive answer.toOption after).IsTraced machine := by
  refine h.receive (h.stored.save hsave hanswer) fun stored hstored => hanswer stored ?_
  rcases answer with error | stored
  · exact nomatch hstored
  · exact congrArg Except.ok (Option.some.inj hstored)

/-- A call that does not make a record keeps track of all records. -/
theorem IsTraced.call (h : desk.IsTraced machine) (hcall : Call machine desk after) :
    after.IsTraced machine := by
  cases hcall with
  | save hrecord hsave =>
    refine h.save hsave ?_
    rintro stored rfl
    exact (h.copies _ hrecord).save hsave
  | @load _ id answer after hload =>
    obtain ⟨hmemory, -, hfound⟩ := UnreliableStore.load_eq (World.load_host hload)
    -- a load stores nothing, and returns what is stored
    have hkept : machine.TracesStored after := fun id stored hstored =>
      h.stored id stored (hmemory ▸ hstored)
    refine h.receive hkept fun loaded hloaded => ?_
    rcases answer with error | record
    · exact nomatch hloaded
    · obtain rfl := Option.some.inj hloaded
      exact h.stored id record (hfound record rfl)
  | onFailure hrecord hends =>
    obtain ⟨hstored, hreturned⟩ := h.stored.onFailure (h.copies _ hrecord) hends
    exact h.receive hstored hreturned
  | wait time => exact ⟨h.copies, h.stored⟩

/-- A step that does not make a record keeps track of all records. -/
theorem IsTraced.act (h : desk.IsTraced machine)
    (hact : Act machine (fun pending _ changed => pending.EditedTo changed) desk after) :
    after.IsTraced machine := by
  cases hact with
  | call hcall => exact h.call hcall
  | @refuse ε _ _ context record transition target operation answer after hrecord hedge hends =>
    have hexecutes := Machine.executes_executeIn machine context record transition target operation
      desk.world
    rw [hends] at hexecutes
    cases hexecutes with
    | refused _ => exact h.receive h.stored nofun
    | committed hleads _ _ => exact absurd hleads hedge
    | failed hleads _ => exact absurd hleads hedge
  | @conclude ε _ _ earlier after context record pending transition target operation answer
      hrecord hpending hprepare hearlier hreturns hends =>
    obtain ⟨hleads, rfl⟩ := Machine.prepare_eq_ok hprepare
    -- the operation has ended in the world of the desk, where the commit and the recovery go on
    have hexecutes := Machine.executes_executeIn machine context record transition target operation
      earlier
    rw [hends] at hexecutes
    cases hexecutes with
    | refused hedge => exact absurd hleads hedge
    -- whatever was stored in the meantime was stored at this desk
    | @committed changed stored left saved _ hoperation hsave =>
      obtain ⟨recoveries, hrecoveries⟩ := h.copies record hrecord
      have hstored : machine.Traces stored := ⟨recoveries, hrecoveries.executed hreturns hends⟩
      rw [hoperation] at hearlier
      obtain rfl : left = desk.world := hearlier
      have hkept := h.save hsave fun _ hsame => by rwa [← Except.ok.inj hsame]
      exact ⟨hkept.copies, hkept.stored⟩
    | @failed error failing _ hfails =>
      have hinner : machine.TracesStored (operation _ earlier).2 := hearlier ▸ h.stored
      have hkept : machine.TracesStored failing := hinner.fails hfails
      have hfailing : machine.TracesStored (failing.emit
          (.failed record.id transition record.state target (Fault.message error))) := hkept
      obtain ⟨outcome, dealt, hdealt⟩ : ∃ outcome dealt, machine.onFailure context record target
          error (failing.emit (.failed record.id transition record.state target
            (Fault.message error))) = (outcome, dealt) := ⟨_, _, rfl⟩
      rw [hdealt]
      exact h.receive (hfailing.onFailure (h.copies record hrecord) hdealt).1 nofun

/-- A step of a host that leaves the evidence to recoveries keeps track of all records. -/
theorem IsTraced.sparingStep (h : desk.IsTraced machine)
    (hstep : SparingStep machine desk after) : after.IsTraced machine := by
  rcases hstep with hcreated | ⟨hcopy, hderived⟩ | hact
  · exact h.hold ⟨[], .created hcreated⟩
  · obtain ⟨recoveries, hrecoveries⟩ := h.copies _ hcopy
    exact h.hold ⟨recoveries, hrecoveries.derived hderived⟩
  · exact h.act hact

theorem IsFresh.isTraced (h : desk.IsFresh) : desk.IsTraced machine := by
  refine ⟨fun copy hcopy => ?_, fun id stored hstored => ?_⟩
  · rw [h.copies_eq] at hcopy
    exact absurd hcopy List.not_mem_nil
  · have hempty : desk.world.host.memory = .empty := h.memory_eq
    rw [hempty, Store.get?_empty] at hstored
    exact nomatch hstored

/-- Where a host starts afresh and leaves the evidence to recoveries, it is known of all records
where they come from. -/
theorem IsTraced.reaches {start : Desk} (h : start.IsTraced machine)
    (hreaches : ReachesSparing machine start desk) : desk.IsTraced machine := by
  induction hreaches with
  | refl => exact h
  | tail hreaches hstep ih => exact ih.sparingStep hstep

/-- Evidence matches the history. Each record that a host comes across comes from somewhere; and it
has evidence of a failure where its history has a recovery, of the last one, whichever way it came
from there. -/
theorem evidence_matches_history (machine : Machine) {start desk : Desk} (hfresh : start.IsFresh)
    (hreaches : ReachesSparing machine start desk) {record : Record}
    (hrecord : record ∈ desk.copies ∨ ∃ id, desk.stored? id = some record) :
    (∃ recoveries, Provenance machine record recoveries) ∧
      ∀ recoveries, Provenance machine record recoveries → record.Evidenced recoveries := by
  have htraced : desk.IsTraced machine := hfresh.isTraced.reaches hreaches
  refine ⟨?_, fun recoveries hrecoveries => hrecoveries.evidenced⟩
  rcases hrecord with hcopy | ⟨id, hfound⟩
  · exact htraced.copies record hcopy
  · exact htraced.stored id record hfound

/-- The store is down while a delivery is confirmed. What is stored then tells of it. -/
theorem evidence_matches_history_delivery :
    let record := Record.create delivery (.ofNat 1)
    let fresh : Desk := { world := { host := {} } }
    let desk := fresh.hold record
    let pending := record.apply "confirm" ⟨"confirmed"⟩ false desk.world.now
    let down := StoreError.unavailable "down"
    let operation : Operation UnreliableStore StoreError := fun _ world => (.error down, world)
    let ending := delivery.executeIn .root record "confirm" ⟨"confirmed"⟩ operation desk.world
    let after := (desk.hold pending).receive ending.1.toOption ending.2
    let stored := (record.diverted ⟨"confirmed"⟩ (.ofFault down) ⟨"error"⟩ .epoch).withVersion 1
    let given : List Recovery := [⟨⟨"confirmed"⟩, .ofFault down, ⟨"pending"⟩, .epoch⟩]
    fresh.IsFresh ∧ ReachesSparing delivery fresh after ∧ after.stored? record.id = some stored ∧
      Provenance delivery stored given ∧ stored.Evidenced given := by
  intro record fresh desk pending down operation ending after stored given
  have hfresh : fresh.IsFresh := ⟨rfl, rfl, rfl⟩
  have hprepare : delivery.prepare record "confirm" ⟨"confirmed"⟩ desk.world.now = .ok pending :=
    rfl
  have hends : delivery.executeIn .root record "confirm" ⟨"confirmed"⟩ operation desk.world =
      (.error (.operationFailure "confirm" down), ending.2) := rfl
  have hreturns (changed : Record)
      (hchanged : (operation pending desk.world).1 = .ok changed) : pending.EditedTo changed := by
    have hfailed : Except.error down = Except.ok changed := hchanged
    exact nomatch hfailed
  have hstored : after.stored? record.id = some stored := rfl
  have hreaches : ReachesSparing delivery fresh after := by
    have hcreated : SparingStep delivery fresh desk := .create (.create _)
    have hprepared : SparingStep delivery desk (desk.hold pending) :=
      .derive List.mem_cons_self (.prepare hprepare)
    refine .tail (.tail (.single hcreated) hprepared) (.act ?_)
    exact .conclude (List.mem_cons_of_mem _ List.mem_cons_self) List.mem_cons_self hprepare rfl
      hreturns hends
  have hprovenance : Provenance delivery stored given := by
    have hcreated : Provenance delivery record [] := .created (.create _)
    have hevent : ending.2.log.getLast? =
        some (.recovered record.id record.state ⟨"confirmed"⟩ ⟨"error"⟩) := rfl
    exact .failed hcreated hends hevent hstored
  have hmatches := evidence_matches_history delivery hfresh hreaches (.inr ⟨_, hstored⟩)
  exact ⟨hfresh, hreaches, hstored, hprovenance, hmatches.2 given hprovenance⟩

end Desk

end Lifecycle
