import Lifecycle.Proofs.Run.Invariant

/-!
# The stored audit trail

The history that is stored under an identifier only ever grows at its end, and only together with
the version. Copies of a record at many versions are at hand at once, and any of them may be offered
to the store at any time, edited, diverted or never saved. What saves the trail is an invariant of
every copy: `Store.Descends` says that a copy is no newer than what is stored, and that one of the
same version continues the stored history. An accepted save carries the stored version.
-/

namespace Lifecycle

open Time (Instant)

namespace Record

variable {record : Record}

theorem setAttributes_eq (record : Record) (entries : List (String × String)) :
    record.setAttributes entries =
      { record with attributes := (record.setAttributes entries).attributes } := by
  induction entries generalizing record with
  | nil => rfl
  | cons entry entries ih =>
    have hrest := ih (record.setAttribute entry.1 entry.2)
    rw [setAttributes, List.foldl_cons, ← setAttributes]
    rw [hrest]
    rfl

end Record

namespace Store

variable {memory before between after : Store} {copy record : Record} {id : Uuid} {saves : Nat}

/-- The history that is stored under an identifier, without a step where nothing is stored. -/
def steps (memory : Store) (id : Uuid) : List Step :=
  ((memory.get? id).map fun record => record.history.steps).getD []

theorem steps_of_get? (h : memory.get? id = some record) :
    memory.steps id = record.history.steps := by
  rw [steps, h]
  rfl

/-- A copy is not newer than what is stored, and one of the same version continues its history. -/
structure Descends (memory : Store) (copy : Record) : Prop where
  /-- The copy is not newer. -/
  version_le : copy.version.toNat ≤ (memory.version copy.id).toNat
  /-- A copy of the stored version continues the stored history. -/
  steps_prefix : copy.version = memory.version copy.id →
    memory.steps copy.id <+: copy.history.steps

/-- Versions are at most the number of saves, and whatever is stored was saved at least once. -/
structure Counted (memory : Store) (saves : Nat) : Prop where
  /-- No version is greater than the number of saves. -/
  version_le : ∀ id, (memory.version id).toNat ≤ saves
  /-- A stored record has a version other than zero. -/
  get?_eq_none : ∀ id, memory.version id = 0 → memory.get? id = none

/-- Between two moments, one more version is stored under an identifier, and its history continues
the one before. -/
structure Advances (id : Uuid) (before after : Store) : Prop where
  /-- The version goes up by one. -/
  version_eq : (after.version id).toNat = (before.version id).toNat + 1
  /-- No step of the history is lost or changed. -/
  steps_prefix : before.steps id <+: after.steps id

/-- Between two moments, the history that is stored under an identifier was at most continued, and
what is stored is the same while the version is. -/
structure Continues (id : Uuid) (before after : Store) : Prop where
  /-- Versions never go down. -/
  version_le : (before.version id).toNat ≤ (after.version id).toNat
  /-- No step of the history is lost or changed. -/
  steps_prefix : before.steps id <+: after.steps id
  /-- Under one version, one record is stored. -/
  get?_eq : after.version id = before.version id → after.get? id = before.get? id

theorem Continues.of_eq (h : after.get? id = before.get? id) : Continues id before after := by
  have hversion : before.version id = after.version id := by rw [version, version, h]
  have hsteps : before.steps id = after.steps id := by rw [steps, steps, h]
  refine ⟨Nat.le_of_eq (congrArg UInt64.toNat hversion), ?_, fun _ => h⟩
  exact ⟨[], (List.append_nil _).trans hsteps⟩

theorem Advances.continues (h : Advances id before after) : Continues id before after := by
  refine ⟨?_, h.steps_prefix, fun hsame => ?_⟩
  · rw [h.version_eq]
    exact Nat.le_succ _
  · have hversion := h.version_eq
    rw [hsame] at hversion
    omega

theorem Continues.trans (hfirst : Continues id before between)
    (hsecond : Continues id between after) : Continues id before after := by
  refine ⟨Nat.le_trans hfirst.version_le hsecond.version_le,
    hfirst.steps_prefix.trans hsecond.steps_prefix, fun hsame => ?_⟩
  -- the version in between is caught between two equal ones
  have hbetween : between.version id = before.version id := by
    have hlow := hfirst.version_le
    have hhigh := hsecond.version_le
    rw [hsame] at hhigh
    exact UInt64.toNat_inj.1 (Nat.le_antisymm hhigh hlow)
  rw [hsecond.get?_eq (hsame.trans hbetween.symm), hfirst.get?_eq hbetween]

/-- Of two copies with the same identifier and version, one descends when its history continues that
of the other, which does. -/
theorem Descends.extend (h : memory.Descends record) (hid : copy.id = record.id)
    (hversion : copy.version = record.version)
    (hsteps : record.history.steps <+: copy.history.steps) : memory.Descends copy := by
  refine ⟨?_, fun hsame => ?_⟩
  · rw [hid, hversion]
    exact h.version_le
  · rw [hid, hversion] at hsame
    rw [hid]
    exact (h.steps_prefix hsame).trans hsteps

/-- A new record descends from whatever is stored. -/
theorem descends_inState (hcounted : memory.Counted saves) (id : Uuid) (state : State) :
    memory.Descends (.inState id state) := by
  refine ⟨Nat.zero_le _, fun hsame => ?_⟩
  have hnone : memory.get? id = none := hcounted.get?_eq_none id hsame.symm
  change memory.steps id <+: []
  rw [steps, hnone]
  exact List.prefix_refl []

theorem descends_of_get? (h : memory.get? id = some record) : memory.Descends record := by
  obtain ⟨-, rfl⟩ := mem_and_id_eq_of_get? h
  refine ⟨?_, fun _ => ?_⟩
  · exact Nat.le_of_eq (congrArg UInt64.toNat (version_of_get? h).symm)
  · exact ⟨[], (List.append_nil _).trans (steps_of_get? h)⟩

section Saving

variable (hcounted : memory.Counted saves) (hsaves : saves + 1 < 2 ^ 64)
  (hversion : memory.version record.id = record.version)

include hcounted hsaves hversion

/-- The version that a save assigns is one above the one that it found. -/
theorem toNat_assigned : (record.version + 1).toNat = record.version.toNat + 1 := by
  have hle := hcounted.version_le record.id
  rw [hversion] at hle
  exact toNat_next_version (by omega)

/-- After a save, versions are still counted. -/
theorem Counted.saved :
    (memory.put (record.withVersion (record.version + 1))).Counted (saves + 1) := by
  have hassigned := toNat_assigned hcounted hsaves hversion
  have hle := hcounted.version_le record.id
  rw [hversion] at hle
  constructor
  case version_le =>
    intro id
    rw [version_put]
    split
    · change (record.version + 1).toNat ≤ saves + 1
      omega
    · exact Nat.le_succ_of_le (hcounted.version_le id)
  case get?_eq_none =>
    intro id hzero
    rw [version_put] at hzero
    rw [get?_put]
    split at hzero
    · have hpositive : (record.version + 1).toNat = 0 := congrArg UInt64.toNat hzero
      omega
    · next hother =>
      rw [if_neg hother]
      exact hcounted.get?_eq_none id hzero

/-- Every other copy falls behind a saved one, and copies of other records do not notice. -/
theorem Descends.saved (hcopy : memory.Descends copy) :
    (memory.put (record.withVersion (record.version + 1))).Descends copy := by
  have hassigned := toNat_assigned hcounted hsaves hversion
  by_cases hid : copy.id = record.id
  -- a copy of the same record is older than the saved one, so that its history does not matter
  · have hbehind : copy.version.toNat < (record.version + 1).toNat := by
      have hle := hcopy.version_le
      rw [hid, hversion] at hle
      omega
    have hstored : (memory.put (record.withVersion (record.version + 1))).version copy.id =
        record.version + 1 := by
      rw [hid]
      exact version_put_self memory record _
    refine ⟨?_, fun hsame => ?_⟩
    · rw [hstored]
      exact Nat.le_of_lt hbehind
    · rw [hsame, hstored] at hbehind
      exact absurd hbehind (Nat.lt_irrefl _)
  · have hget : (memory.put (record.withVersion (record.version + 1))).get? copy.id =
        memory.get? copy.id := by
      rw [get?_put]
      exact if_neg hid
    refine ⟨?_, fun hsame => ?_⟩
    · rw [version, hget]
      exact hcopy.version_le
    · rw [version, hget] at hsame
      rw [steps, hget]
      exact hcopy.steps_prefix hsame

/-- A save of a copy that descends advances what is stored under its identifier, and changes nothing
else. -/
theorem Descends.advances (hrecord : memory.Descends record) (id : Uuid) :
    (memory.put (record.withVersion (record.version + 1))).get? id = memory.get? id ∨
      Advances id memory (memory.put (record.withVersion (record.version + 1))) := by
  by_cases hid : id = record.id
  · subst hid
    have hget := memory.get?_put_self record (record.version + 1)
    refine .inr ⟨?_, ?_⟩
    · rw [version_of_get? hget, hversion]
      exact toNat_assigned hcounted hsaves hversion
    · rw [steps_of_get? hget]
      exact hrecord.steps_prefix hversion.symm
  · rw [get?_put]
    exact .inl (if_neg hid)

end Saving

end Store

namespace Desk

/-- An operation returns the pending record with attributes set. -/
def Edits (pending : Record) (_ : Desk) (changed : Record) : Prop :=
  ∃ entries, changed = pending.setAttributes entries

variable {machine : Machine} {memory : Store} {saves : Nat}

/-- The records that a host makes descend if the copies do. -/
theorem descends_of_made {copies : List Record} {now : Instant} {record : Record}
    (hcounted : memory.Counted saves) (hcopies : ∀ copy ∈ copies, memory.Descends copy)
    (hmade : Made machine copies now record) : memory.Descends record := by
  rcases made_cases hmade with ⟨id, state, -, rfl⟩ | ⟨copy, hcopy, hsame⟩ |
    ⟨copy, hcopy, transition, target, -, rfl⟩
  · exact Store.descends_inState hcounted id state
  · rw [hsame]
    exact (hcopies copy hcopy).extend rfl rfl (List.prefix_refl _)
  · exact (hcopies copy hcopy).extend rfl rfl (List.prefix_append _ _)

/-- That every copy descends from what is stored is an invariant, when operations only set
attributes and there are fewer saves than versions. -/
theorem invariant_descends (machine : Machine) :
    Invariant machine Edits (fun memory saves => saves < 2 ^ 64 → memory.Counted saves)
      (fun memory saves copy => saves < 2 ^ 64 → memory.Descends copy) where
  made := by
    intro memory saves copies now record hbase hcopies hmade hsaves
    exact descends_of_made (hbase hsaves) (fun copy hcopy => hcopies copy hcopy hsaves) hmade
  diverted := by
    intro memory saves record errorState failedTarget report time hrecord _ _ hsaves
    exact (hrecord hsaves).extend rfl rfl (List.prefix_append _ _)
  unsaved := by
    -- a refused save counts as a save, but no version goes up
    intro memory saves hbase
    refine ⟨fun hsaves => ?_, fun copy hcopy hsaves => hcopy (by omega)⟩
    obtain ⟨hle, hnone⟩ := hbase (by omega)
    exact ⟨fun id => Nat.le_succ_of_le (hle id), hnone⟩
  saved := by
    intro memory saves record hbase hrecord hversion
    refine ⟨fun hsaves => ?_, fun hsaves => ?_, fun copy hcopy hsaves => ?_⟩
    · exact (hbase (by omega)).saved hsaves hversion
    · exact Store.descends_of_get? (memory.get?_put_self record (record.version + 1))
    · exact Store.Descends.saved (hbase (by omega)) hsaves hversion (hcopy (by omega))
  loaded _ hfound _ := Store.descends_of_get? hfound
  returned := by
    intro pending inner changed hpending hcopies hedits hsaves
    obtain ⟨entries, rfl⟩ := hedits
    rw [Record.setAttributes_eq]
    exact (hcopies pending hpending hsaves).extend rfl rfl (List.prefix_refl _)

/-- While there are fewer saves than versions, versions are counted and every copy descends from
what is stored. -/
def IsAccounted (desk : Desk) : Prop :=
  Holds (fun memory saves => saves < 2 ^ 64 → memory.Counted saves)
    (fun memory saves copy => saves < 2 ^ 64 → memory.Descends copy) desk.copies desk.store

/-- A fresh desk is accounted for. -/
theorem IsFresh.isAccounted {start : Desk} (hfresh : start.IsFresh) : start.IsAccounted := by
  constructor
  · intro _
    rw [hfresh.memory_eq]
    exact ⟨fun _ => Nat.zero_le _, fun _ _ => rfl⟩
  · intro copy hcopy
    rw [hfresh.copies_eq] at hcopy
    exact absurd hcopy List.not_mem_nil

/-- From one moment to the next, what is stored under an identifier did not change, or it
advanced. -/
def AppendsOnly (id : Uuid) (before after : Desk) : Prop :=
  after.stored? id = before.stored? id ∨ Store.Advances id before.store.memory after.store.memory

theorem AppendsOnly.continues {id : Uuid} {before after : Desk} (h : AppendsOnly id before after) :
    Store.Continues id before.store.memory after.store.memory := by
  rcases h with hsame | hadvances
  · exact .of_eq hsame
  · exact hadvances.continues

/-- A step appends only. -/
theorem Step.appendsOnly {before after : Desk} (hstep : Step machine Edits before after)
    (haccounted : before.IsAccounted) (hsaves : after.store.saves.calls < 2 ^ 64) (id : Uuid) :
    AppendsOnly id before after := by
  obtain ⟨-, heffect⟩ := (invariant_descends machine).step hstep haccounted
  rcases heffect.memory_eq with hsame | ⟨offered, saves, ⟨hlow, hhigh⟩, hoffered, hversion, hput⟩
  · left
    rw [stored?, stored?, hsame]
  -- the one record that was put into the store descends from what was stored
  · have hroom : before.store.saves.calls + 1 < 2 ^ 64 := by omega
    have hcounted := haccounted.1 (by omega)
    rw [AppendsOnly, stored?, stored?, hput]
    exact (hoffered (by omega)).advances hcounted hroom hversion id

/-- A run from an accounted desk ends at one, and saves are counted all along. -/
theorem IsAccounted.reaches {desk later : Desk} (haccounted : desk.IsAccounted)
    (hlater : Reaches machine Edits desk later) :
    later.IsAccounted ∧ desk.store.saves.calls ≤ later.store.saves.calls := by
  induction hlater with
  | refl => exact ⟨haccounted, Nat.le_refl _⟩
  | tail hbetween hstep ih =>
    obtain ⟨hkept, heffect⟩ := (invariant_descends machine).step hstep ih.1
    exact ⟨hkept, Nat.le_trans ih.2 heffect.calls_le⟩

/-- The stored histories are append-only. Between any two moments of a run, every step leaves what is
stored under an identifier as it is, or its version goes up by one and its history continues the one
before. So no stored history ever loses or changes a step, and under one version one record is
stored. -/
theorem stored_append_only (machine : Machine) {start desk later : Desk} (hfresh : start.IsFresh)
    (hdesk : Reaches machine Edits start desk) (hlater : Reaches machine Edits desk later)
    (hsaves : later.store.saves.calls < 2 ^ 64) :
    (∀ before after, Reaches machine Edits desk before → Step machine Edits before after →
        Reaches machine Edits after later → ∀ id, AppendsOnly id before after) ∧
      ∀ id, Store.Continues id desk.store.memory later.store.memory := by
  have haccounted : desk.IsAccounted := (hfresh.isAccounted.reaches hdesk).1
  constructor
  · -- there were no more saves at any moment in between than there are at the end
    intro before after hbefore hstep hafter id
    have hheld := (haccounted.reaches hbefore).1
    have hkept : after.IsAccounted := ((invariant_descends machine).step hstep hheld).1
    exact hstep.appendsOnly hheld (Nat.lt_of_le_of_lt (hkept.reaches hafter).2 hsaves) id
  · intro id
    induction hlater with
    | refl => exact .of_eq rfl
    | @tail between later hbetween hstep ih =>
      have hheld := (haccounted.reaches hbetween).1
      have hcalls := ((invariant_descends machine).step hstep hheld).2.calls_le
      exact (ih (by omega)).trans (hstep.appendsOnly hheld hsaves id).continues

/-- A delivery is created, saved and then confirmed with a courier: the empty history that was
stored first continues to that of the confirmation. -/
theorem stored_append_only_delivery :
    let record := Record.create .delivery (.ofNat 1)
    let fresh : Desk := { world := { host := {} } }
    let created := fresh.hold record
    let saving := created.world.save record
    let desk := created.receive saving.1.toOption saving.2
    let stored := record.withVersion 1
    let pending := stored.apply "confirm" ⟨"confirmed"⟩ false desk.world.now
    let operation : Operation UnreliableStore StoreError := fun pending world =>
      (.ok (pending.setAttributes [("courier", "anna")]), world)
    let ending :=
      Machine.delivery.executeIn .root stored "confirm" ⟨"confirmed"⟩ operation desk.world
    let later := (desk.hold pending).receive ending.1.toOption ending.2
    fresh.IsFresh ∧ Reaches .delivery Edits fresh desk ∧ Reaches .delivery Edits desk later ∧
      later.store.saves.calls < 2 ^ 64 ∧ desk.stored? record.id = some stored ∧
      (later.store.memory.version record.id).toNat = 2 ∧
      Store.Continues record.id desk.store.memory later.store.memory := by
  intro record fresh created saving desk stored pending operation ending later
  have hfresh : fresh.IsFresh := ⟨rfl, rfl, rfl⟩
  have hdesk : Reaches .delivery Edits fresh desk := by
    have hcreated : Step .delivery Edits fresh created := .make (.create _)
    have hsaved : Call .delivery created desk := .save List.mem_cons_self rfl
    exact .tail (.single hcreated) (.act (.call hsaved))
  have hprepare : Machine.delivery.prepare stored "confirm" ⟨"confirmed"⟩ desk.world.now =
      .ok pending := rfl
  have hreturns (changed : Record) (hchanged : (operation pending desk.world).1 = .ok changed) :
      Edits pending (desk.hold pending) changed :=
    ⟨_, (Except.ok.inj hchanged).symm⟩
  have hends :
      Machine.delivery.executeIn .root stored "confirm" ⟨"confirmed"⟩ operation desk.world =
        (ending.1, ending.2) := rfl
  have hlater : Reaches .delivery Edits desk later := by
    have hprepared : Step .delivery Edits desk (desk.hold pending) :=
      .make (.prepare List.mem_cons_self hprepare)
    refine .tail (.single hprepared) (.act ?_)
    exact .conclude (List.mem_cons_of_mem _ List.mem_cons_self) List.mem_cons_self hprepare rfl
      hreturns hends
  have hsaves : later.store.saves.calls < 2 ^ 64 := by decide
  have happend := stored_append_only .delivery hfresh hdesk hlater hsaves
  exact ⟨hfresh, hdesk, hlater, hsaves, by decide, by decide, happend.2 record.id⟩

end Desk

end Lifecycle
