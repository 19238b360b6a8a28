import Lifecycle.Proofs.Binary.Snapshot
import Lifecycle.Proofs.Document.Snapshot
import Lifecycle.Proofs.Execution.Outcome
import Lifecycle.Proofs.Machine.Soundness
import Lifecycle.Proofs.Run.Desk
import Lifecycle.Proofs.Store.Saving

/-!
# Invariants of runs

What holds of a desk throughout a run is proved once, here, from what the single effects preserve: a
record is made, diverted, saved or loaded. An invariant has two parts, one for what is stored and
one for each copy next to what is stored. Both may depend on the number of saves so far.

`Desk.Invariant.reaches` lifts such an invariant to every run, nested executions included.
-/

namespace Lifecycle

open Time (Instant)

/-- A record that a host makes is new, or a copy with other attributes, or the pending record of a
transition of a copy. Restoring a copy from its snapshot gives the copy. -/
theorem made_cases {machine : Machine} {copies : List Record} {now : Instant} {record : Record}
    (hmade : Made machine copies now record) :
    (∃ id, ∃ state ∈ machine.initialStates, record = .inState id state) ∨
      (∃ copy ∈ copies, record = { copy with attributes := record.attributes }) ∨
      ∃ copy ∈ copies, ∃ transition target, machine.target? copy.state transition = some target ∧
        record = copy.apply transition target false now := by
  cases hmade with
  | create id => exact .inl ⟨id, _, Machine.defaultInitialState_mem machine, rfl⟩
  | @createIn id state record hcreated =>
    rw [Record.createIn] at hcreated
    split at hcreated
    · next hstate =>
      exact .inl ⟨id, state, Machine.isInitialState_iff.1 hstate, (Except.ok.inj hcreated).symm⟩
    · exact nomatch hcreated
  | @setAttribute copy hcopy name text => exact .inr (.inl ⟨copy, hcopy, rfl⟩)
  | @prepare copy pending transition target hcopy hprepare =>
    obtain ⟨hedge, hpending⟩ := Machine.prepare_eq_ok hprepare
    exact .inr (.inr ⟨copy, hcopy, transition, target, hedge, hpending⟩)
  | @ofText copy snapshot takenAt hcopy hread =>
    rw [Snapshot.record_of_ofText hread]
    exact .inr (.inl ⟨copy, hcopy, rfl⟩)
  | @ofBytes copy snapshot takenAt hcopy hlength hread =>
    rw [Snapshot.record_of_ofBytes hlength hread]
    exact .inr (.inl ⟨copy, hcopy, rfl⟩)

namespace Desk

variable {machine : Machine} {Returns : Record → Desk → Record → Prop} {Base : Store → Nat → Prop}
  {Good : Store → Nat → Record → Prop}

/-- What the single effects preserve of the stored records and of the copies. -/
structure Invariant (machine : Machine) (Returns : Record → Desk → Record → Prop)
    (Base : Store → Nat → Prop) (Good : Store → Nat → Record → Prop) : Prop where
  /-- Records made of good copies are good. -/
  made : ∀ {memory saves copies now record}, Base memory saves →
    (∀ copy ∈ copies, Good memory saves copy) → Made machine copies now record →
      Good memory saves record
  /-- The copy that a recovery offers is good. -/
  diverted : ∀ {memory saves record errorState} (failedTarget report time),
    Good memory saves record → machine.errorState = some errorState →
      machine.target? record.state Transition.recoveryName = some errorState →
        Good memory saves (record.diverted failedTarget report errorState time)
  /-- A refused save only counts. -/
  unsaved : ∀ {memory saves}, Base memory saves → Base memory (saves + 1) ∧
    ∀ copy, Good memory saves copy → Good memory (saves + 1) copy
  /-- A good copy that carries the stored version may be stored under the next one. -/
  saved : ∀ {memory saves record}, Base memory saves → Good memory saves record →
    memory.version record.id = record.version →
      Base (memory.put (record.withVersion (record.version + 1))) (saves + 1) ∧
        Good (memory.put (record.withVersion (record.version + 1))) (saves + 1)
          (record.withVersion (record.version + 1)) ∧
        ∀ copy, Good memory saves copy →
          Good (memory.put (record.withVersion (record.version + 1))) (saves + 1) copy
  /-- What is stored is good. -/
  loaded : ∀ {memory saves id record}, Base memory saves → memory.get? id = some record →
    Good memory saves record
  /-- What an operation returns is good. -/
  returned : ∀ {pending inner changed}, pending ∈ inner.copies →
    (∀ copy ∈ inner.copies, Good inner.store.memory inner.store.saves.calls copy) →
      Returns pending inner changed → Good inner.store.memory inner.store.saves.calls changed

/-- What is stored is sound, and so is every copy next to it. -/
def Holds (Base : Store → Nat → Prop) (Good : Store → Nat → Record → Prop) (copies : List Record)
    (store : UnreliableStore) : Prop :=
  Base store.memory store.saves.calls ∧
    ∀ copy ∈ copies, Good store.memory store.saves.calls copy

variable {copies : List Record}

/-- Only the stored records and the number of saves matter. -/
theorem holds_congr {store after : UnreliableStore} (hmemory : after.memory = store.memory)
    (hsaves : after.saves = store.saves) :
    Holds Base Good copies after ↔ Holds Base Good copies store := by
  rw [Holds, Holds, hmemory, hsaves]

theorem Holds.cons {store : UnreliableStore} {record : Record}
    (h : Holds Base Good copies store)
    (hgood : Good store.memory store.saves.calls record) :
    Holds Base Good (record :: copies) store := by
  refine ⟨h.1, fun copy hcopy => ?_⟩
  rcases List.mem_cons.1 hcopy with rfl | hcopy
  · exact hgood
  · exact h.2 copy hcopy

theorem Holds.mono {store : UnreliableStore} {fewer : List Record}
    (h : Holds Base Good copies store) (hfewer : fewer ⊆ copies) : Holds Base Good fewer store :=
  ⟨h.1, fun copy hcopy => h.2 copy (hfewer hcopy)⟩

/-- What a step does to what is stored: nothing, or one good record, offered under the stored
version, is put there under the next one. The number of saves never decreases. -/
structure Effect (Good : Store → Nat → Record → Prop) (before after : UnreliableStore) : Prop where
  /-- Saves are counted. -/
  calls_le : before.saves.calls ≤ after.saves.calls
  /-- At most one record is put into the store. -/
  memory_eq : after.memory = before.memory ∨ ∃ offered saves,
    (before.saves.calls ≤ saves ∧ saves < after.saves.calls) ∧ Good before.memory saves offered ∧
      before.memory.version offered.id = offered.version ∧
      after.memory = before.memory.put (offered.withVersion (offered.version + 1))

theorem Effect.refl (store : UnreliableStore) : Effect Good store store :=
  ⟨Nat.le_refl _, .inl rfl⟩

/-- A save that changes nothing comes before another one. -/
theorem Effect.after_unsaved {before between after : UnreliableStore}
    (h : Effect Good between after) (hcalls : before.saves.calls ≤ between.saves.calls)
    (hmemory : between.memory = before.memory) : Effect Good before after := by
  obtain ⟨hle, heffect⟩ := h
  rw [hmemory] at heffect
  refine ⟨Nat.le_trans hcalls hle, heffect.imp_right ?_⟩
  rintro ⟨offered, saves, ⟨hlow, hhigh⟩, hput⟩
  exact ⟨offered, saves, ⟨Nat.le_trans hcalls hlow, hhigh⟩, hput⟩

/-- A save of a good copy keeps an invariant, with the answer as one more copy. -/
theorem Invariant.save (hinvariant : Invariant machine Returns Base Good)
    {world after : World UnreliableStore} {record : Record} {answer : Except StoreError Record}
    (hholds : Holds Base Good copies world.host)
    (hgood : Good world.host.memory world.host.saves.calls record)
    (hsave : world.save record = (answer, after)) :
    Holds Base Good (answer.toOption.toList ++ copies) after.host ∧
      Effect Good world.host after.host := by
  have hhost := World.save_host hsave
  have hcalls : world.host.saves.calls < world.host.saves.advance.calls := Nat.lt_succ_self _
  cases answer with
  | error error =>
    obtain ⟨hafter, -⟩ := UnreliableStore.save_eq_error hhost
    obtain ⟨hbase, hkept⟩ := hinvariant.unsaved hholds.1
    rw [hafter]
    refine ⟨⟨hbase, ?_⟩, Nat.le_of_lt hcalls, .inl rfl⟩
    intro copy hcopy
    exact hkept copy (hholds.2 copy hcopy)
  | ok stored =>
    obtain ⟨hversion, rfl, hafter⟩ := UnreliableStore.save_eq_ok hhost
    obtain ⟨hbase, hstored, hkept⟩ := hinvariant.saved hholds.1 hgood hversion
    rw [hafter]
    have hcopies : Holds Base Good copies
        { world.host with saves := world.host.saves.advance
                          memory := world.host.memory.put
                            (record.withVersion (record.version + 1)) } :=
      ⟨hbase, fun copy hcopy => hkept copy (hholds.2 copy hcopy)⟩
    exact ⟨hcopies.cons hstored, Nat.le_of_lt hcalls,
      .inr ⟨record, world.host.saves.calls, ⟨Nat.le_refl _, hcalls⟩, hgood, hversion, rfl⟩⟩

/-- Dealing with a failure keeps an invariant, with the recovered copy as one more. -/
theorem Invariant.onFailure {ε : Type} [Fault ε] (hinvariant : Invariant machine Returns Base Good)
    (context : Context) (record : Record) (failedTarget : State) (error : ε)
    (world : World UnreliableStore) (hholds : Holds Base Good copies world.host)
    (hgood : Good world.host.memory world.host.saves.calls record) :
    Holds Base Good
        ((machine.onFailure context record failedTarget error world).1.record?.toList ++ copies)
        (machine.onFailure context record failedTarget error world).2.host ∧
      Effect Good world.host
        (machine.onFailure context record failedTarget error world).2.host := by
  have hrecovers := Machine.recovers_onFailure machine context record failedTarget error world
  generalize machine.onFailure context record failedTarget error world = ending at hrecovers ⊢
  cases hrecovers with
  -- without a save there is nothing to keep
  | notConfigured hstate => exact ⟨hholds, .refl _⟩
  | alreadyRecovering hstate hcontext => exact ⟨hholds, .refl _⟩
  | refused hstate hcontext hedge hrejected => exact ⟨hholds, .refl _⟩
  | unsaved hstate hcontext hedge hsave =>
    exact hinvariant.save hholds (hinvariant.diverted _ _ _ hgood hstate hedge) hsave
  | recovered hstate hcontext hedge hsave =>
    exact hinvariant.save hholds (hinvariant.diverted _ _ _ hgood hstate hedge) hsave

theorem Invariant.call (hinvariant : Invariant machine Returns Base Good) {desk after : Desk}
    (hcall : Call machine desk after) (hholds : Holds Base Good desk.copies desk.store) :
    Holds Base Good after.copies after.store ∧ Effect Good desk.store after.store := by
  cases hcall with
  | save hrecord hsave => exact hinvariant.save hholds (hholds.2 _ hrecord) hsave
  -- a load leaves the store as it is, and what it returns is stored
  | @load _ id answer after hload =>
    obtain ⟨hmemory, hsaves, hfound⟩ := UnreliableStore.load_eq (World.load_host hload)
    have hkept : Holds Base Good desk.copies after.host := by
      rw [holds_congr hmemory hsaves]
      exact hholds
    have heffect : Effect Good desk.store after.host :=
      ⟨Nat.le_of_eq (congrArg Outages.calls hsaves.symm), .inl hmemory⟩
    cases answer with
    | error error => exact ⟨hkept, heffect⟩
    | ok record =>
      refine ⟨hkept.cons ?_, heffect⟩
      rw [hmemory, hsaves]
      exact hinvariant.loaded hholds.1 (hfound record rfl)
  | @onFailure ε _ _ context record failedTarget error outcome after hrecord hends =>
    have hended := hinvariant.onFailure context record failedTarget error desk.world hholds
      (hholds.2 record hrecord)
    rwa [hends] at hended
  | wait time => exact ⟨hholds, Nat.le_refl _, .inl rfl⟩

/-- A failed operation or commit keeps an invariant, and changes nothing that is stored. -/
theorem Invariant.fails {ε : Type} [OperationFault ε]
    (hinvariant : Invariant machine Returns Base Good) {desk : Desk}
    {operation : Operation UnreliableStore ε} {pending : Record}
    {earlier failing : World UnreliableStore} {error : ε}
    (hholds : Holds Base Good desk.copies desk.store) (hpending : pending ∈ desk.copies)
    (hworld : (operation pending earlier).2 = desk.world)
    (hreturns : ∀ changed, (operation pending earlier).1 = .ok changed →
      Returns pending desk changed)
    (hfails : Machine.Fails operation pending earlier error failing) :
    Holds Base Good desk.copies failing.host ∧
      desk.store.saves.calls ≤ failing.host.saves.calls ∧
      failing.host.memory = desk.store.memory := by
  cases hfails with
  | operation hoperation =>
    rw [hoperation] at hworld
    obtain rfl : failing = desk.world := hworld
    exact ⟨hholds, Nat.le_refl _, rfl⟩
  | @commit changed left _ storeError hoperation hsave =>
    rw [hoperation] at hworld hreturns
    -- the refused commit is a save in the world of the desk
    obtain rfl : left = desk.world := hworld
    have hgood := hinvariant.returned hpending hholds.2 (hreturns changed rfl)
    obtain ⟨hkept, heffect⟩ := hinvariant.save hholds hgood hsave
    have hmemory : failing.host.memory = desk.world.host.memory := by
      rw [(UnreliableStore.save_eq_error (World.save_host hsave)).1]
    exact ⟨hkept, heffect.calls_le, hmemory⟩

/-- A step that does not make a record keeps an invariant. -/
theorem Invariant.act (hinvariant : Invariant machine Returns Base Good) {desk after : Desk}
    (hact : Act machine Returns desk after) (hholds : Holds Base Good desk.copies desk.store) :
    Holds Base Good after.copies after.store ∧ Effect Good desk.store after.store := by
  cases hact with
  | call hcall => exact hinvariant.call hcall hholds
  | @refuse ε _ _ context record transition target operation answer after hrecord hedge hends =>
    have hexecutes := Machine.executes_executeIn machine context record transition target operation
      desk.world
    rw [hends] at hexecutes
    cases hexecutes with
    | refused _ => exact ⟨hholds, .refl _⟩
    | committed hleads _ _ => exact absurd hleads hedge
    | failed hleads _ => exact absurd hleads hedge
  | @conclude ε _ _ earlier after context record pending transition target operation answer
      hrecord hpending hprepare hworld hreturns hends =>
    obtain ⟨hleads, rfl⟩ := Machine.prepare_eq_ok hprepare
    -- the operation has ended in the world of the desk, where the commit and the recovery go on
    have hexecutes := Machine.executes_executeIn machine context record transition target operation
      earlier
    rw [hends] at hexecutes
    cases hexecutes with
    | refused hedge => exact absurd hleads hedge
    | @committed changed stored left after _ hoperation hsave =>
      rw [hoperation] at hworld hreturns
      obtain rfl : left = desk.world := hworld
      have hgood := hinvariant.returned hpending hholds.2 (hreturns changed rfl)
      exact hinvariant.save hholds hgood hsave
    | @failed error failing _ hfails =>
      obtain ⟨hkept, hcalls, hmemory⟩ := hinvariant.fails hholds hpending hworld hreturns hfails
      obtain ⟨hended, heffect⟩ := hinvariant.onFailure context record target error
        (failing.emit (.failed record.id transition record.state target (Fault.message error)))
        hkept (hkept.2 record hrecord)
      exact ⟨hended.mono (List.subset_append_right _ _), heffect.after_unsaved hcalls hmemory⟩

/-- A step keeps an invariant. -/
theorem Invariant.step (hinvariant : Invariant machine Returns Base Good) {desk after : Desk}
    (hstep : Step machine Returns desk after) (hholds : Holds Base Good desk.copies desk.store) :
    Holds Base Good after.copies after.store ∧ Effect Good desk.store after.store := by
  cases hstep with
  | make hmade => exact ⟨hholds.cons (hinvariant.made hholds.1 hholds.2 hmade), .refl _⟩
  | act hact => exact hinvariant.act hact hholds

/-- A run keeps an invariant. -/
theorem Invariant.reaches (hinvariant : Invariant machine Returns Base Good) {start desk : Desk}
    (hreaches : Reaches machine Returns start desk)
    (hholds : Holds Base Good start.copies start.store) :
    Holds Base Good desk.copies desk.store := by
  induction hreaches with
  | refl => exact hholds
  | tail hreaches hstep ih => exact (hinvariant.step hstep ih).1

end Desk

end Lifecycle
