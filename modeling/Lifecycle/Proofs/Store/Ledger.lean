import Lifecycle.Proofs.Store.AuditTrail

/-!
# Ledgers

A store with a ledger of all records that were offered to it. An accepted save takes its version out
of circulation: from then on the stored version is greater, for good. So of all offers under one
version of one record, at most one is accepted.
-/

namespace Lifecycle

/-- A record that was offered to a store, and what came of it. -/
structure Offer where
  /-- The record that was offered. -/
  record : Record
  /-- What was stored before. -/
  before : Store
  /-- What the store answered. -/
  answer : Except StoreError Record
  /-- What was stored afterwards. -/
  after : Store

namespace Offer

/-- The store accepted the record. -/
def IsAccepted (offer : Offer) : Prop :=
  ∃ stored, offer.answer = .ok stored

/-- Of two offers under one version of one record, at most one is accepted. -/
def Excludes (first second : Offer) : Prop :=
  first.record.id = second.record.id → first.record.version = second.record.version →
    first.IsAccepted → ¬ second.IsAccepted

end Offer

/-- A store behind planned outages, with a ledger of the offers so far. -/
structure Ledger where
  /-- The store. -/
  store : UnreliableStore
  /-- The offers so far, oldest first. -/
  offers : List Offer := []

namespace Ledger

/-- The stored records. -/
def memory (ledger : Ledger) : Store :=
  ledger.store.memory

/-- The entry for a save, between two moments. -/
def offer (before after : Ledger) (record : Record) (answer : Except StoreError Record) :
    Offer where
  record := record
  before := before.memory
  answer := answer
  after := after.memory

/-- The offers that were made since an earlier moment. -/
def since (ledger earlier : Ledger) : List Offer :=
  ledger.offers.drop earlier.offers.length

/-- A store with a ledger does what the store does, and notes every save. -/
instance : Host Ledger where
  now ledger := Host.now ledger.store
  load id ledger :=
    let (answer, store) := Host.load id ledger.store
    (answer, { ledger with store })
  save record ledger :=
    let (answer, store) := Host.save record ledger.store
    let offer : Offer := { record, before := ledger.memory, answer, after := store.memory }
    (answer, { store, offers := ledger.offers ++ [offer] })

variable {before after : Ledger} {record : Record} {answer : Except StoreError Record}

/-- What one save does to a ledger: the offer is noted, and an accepted record carries the stored
version and is stored under the next one. -/
inductive Saves (before after : Ledger) (record : Record) : Except StoreError Record → Prop where
  /-- The record is accepted. -/
  | accepted (hversion : before.memory.version record.id = record.version)
      (hmemory : after.memory = before.memory.put (record.withVersion (record.version + 1)))
      (hoffers : after.offers = before.offers ++
        [before.offer after record (.ok (record.withVersion (record.version + 1)))]) :
      Saves before after record (.ok (record.withVersion (record.version + 1)))
  /-- The record is refused. -/
  | refused {error : StoreError} (hmemory : after.memory = before.memory)
      (hoffers : after.offers = before.offers ++ [before.offer after record (.error error)]) :
      Saves before after record (.error error)

/-- A save in a world with a ledger is one of these. -/
theorem saves_save {world after : World Ledger} (h : world.save record = (answer, after)) :
    world.host.Saves after.host record answer := by
  cases hsave : world.host.store.save record with
  | mk found store =>
    simp only [World.save, Host.save, hsave, Prod.mk.injEq] at h
    obtain ⟨rfl, rfl⟩ := h
    cases found with
    | ok stored =>
      obtain ⟨hversion, rfl, rfl⟩ := UnreliableStore.save_eq_ok hsave
      exact .accepted hversion rfl rfl
    | error error =>
      obtain ⟨rfl, -⟩ := UnreliableStore.save_eq_error hsave
      exact .refused rfl rfl

theorem Saves.offers_eq (h : before.Saves after record answer) :
    after.offers = before.offers ++ [before.offer after record answer] := by
  cases h with
  | accepted _ _ hoffers | refused _ hoffers => exact hoffers

/-- This is the only offer since. -/
theorem Saves.since_eq (h : before.Saves after record answer) :
    after.since before = [before.offer after record answer] := by
  rw [since, h.offers_eq]
  exact List.drop_left

/-- Where offers are known to a ledger, they are known after a save, together with the new one. -/
theorem Saves.noted (h : before.Saves after record answer) {earlier later : List Offer}
    (hknown : earlier ++ later ⊆ before.offers) :
    earlier ++ before.offer after record answer :: later ⊆ after.offers := by
  intro offer hoffer
  rw [h.offers_eq]
  rw [List.mem_append, List.mem_cons] at hoffer
  rcases hoffer with hoffer | rfl | hoffer
  · exact List.mem_append_left _ (hknown (List.mem_append_left _ hoffer))
  · exact List.mem_append_right _ List.mem_cons_self
  · exact List.mem_append_left _ (hknown (List.mem_append_right _ hoffer))

/-- A load leaves the ledger and the stored records as they are. If it returns a record, this is
what is stored. -/
theorem load_eq {world after : World Ledger} {id : Uuid} (h : world.load id = (answer, after)) :
    after.host.memory = world.host.memory ∧ after.host.offers = world.host.offers ∧
      ∀ record, answer = .ok record → world.host.memory.get? id = some record := by
  cases hload : world.host.store.load id with
  | mk found store =>
    simp only [World.load, Host.load, hload, Prod.mk.injEq] at h
    obtain ⟨rfl, rfl⟩ := h
    obtain ⟨hmemory, -, hfound⟩ := UnreliableStore.load_eq hload
    exact ⟨hmemory, rfl, hfound⟩

/-- One step does at most one save. -/
inductive Turn (before after : Ledger) : Prop where
  /-- Nothing is saved. -/
  | idle (hmemory : after.memory = before.memory) (hoffers : after.offers = before.offers)
  /-- A record is offered. -/
  | save {record : Record} {answer : Except StoreError Record}
      (hsaves : before.Saves after record answer)

theorem Turn.length_le (h : before.Turn after) : before.offers.length ≤ after.offers.length := by
  cases h with
  | idle _ hoffers => exact Nat.le_of_eq (congrArg List.length hoffers.symm)
  | save hsaves =>
    rw [hsaves.offers_eq, List.length_append]
    exact Nat.le_add_right _ _

/-- What is true of a ledger at any time. -/
structure Sound (ledger : Ledger) : Prop where
  /-- There are at least as many offers as versions. -/
  counted : ledger.memory.Counted ledger.offers.length
  /-- The version of an accepted record was superseded. -/
  superseded : ∀ offer ∈ ledger.offers, offer.IsAccepted →
    offer.record.version.toNat < (ledger.memory.version offer.record.id).toNat
  /-- No two records were accepted under one version. -/
  exclusive : ledger.offers.Pairwise Offer.Excludes

/-- What is true between two moments. -/
structure Continues (before after : Ledger) : Prop where
  /-- No version decreases. -/
  version_le : ∀ id, (before.memory.version id).toNat ≤ (after.memory.version id).toNat
  /-- Copies stay copies. -/
  descends : ∀ copy, before.memory.Descends copy → after.memory.Descends copy
  /-- No offer is forgotten. -/
  offers_subset : before.offers ⊆ after.offers

/-- Where nothing is saved, everything stays as it is. -/
theorem Continues.of_eq (hmemory : after.memory = before.memory)
    (hoffers : after.offers = before.offers) : before.Continues after := by
  constructor
  · intro id
    exact Nat.le_of_eq (by rw [hmemory])
  · intro copy hcopy
    rwa [hmemory]
  · rw [hoffers]
    exact List.Subset.refl _

/-- No version decreases in a save. -/
theorem Saves.continues (hsound : before.Sound) (hsaves : before.Saves after record answer)
    (hroom : after.offers.length < 2 ^ 64) : before.Continues after := by
  cases hsaves with
  | refused hmemory hoffers =>
    refine ⟨fun id => ?_, fun copy hcopy => ?_, ?_⟩
    · exact Nat.le_of_eq (by rw [hmemory])
    · rwa [hmemory]
    · rw [hoffers]
      exact List.subset_append_left _ _
  | accepted hversion hmemory hoffers =>
    rw [hoffers, List.length_append] at hroom
    have hassigned := Store.toNat_assigned hsound.counted hroom hversion
    refine ⟨fun id => ?_, fun copy hcopy => ?_, ?_⟩
    -- the version under the identifier of the record goes up by one, and no other changes
    · by_cases hid : id = record.id
      · rw [hid, hmemory, Store.version_put_self, hversion, hassigned]
        exact Nat.le_succ _
      · rw [hmemory, Store.version_put]
        exact Nat.le_of_eq (congrArg UInt64.toNat (if_neg hid).symm)
    · rw [hmemory]
      exact hcopy.saved hsound.counted hroom hversion
    · rw [hoffers]
      exact List.subset_append_left _ _

/-- A save keeps a ledger sound. -/
theorem Saves.sound (hsound : before.Sound) (hsaves : before.Saves after record answer)
    (hroom : after.offers.length < 2 ^ 64) : after.Sound := by
  have hcontinues := hsaves.continues hsound hroom
  have hsuperseded (offer : Offer) (hoffer : offer ∈ before.offers) (haccepted : offer.IsAccepted) :
      offer.record.version.toNat < (after.memory.version offer.record.id).toNat :=
    Nat.lt_of_lt_of_le (hsound.superseded offer hoffer haccepted) (hcontinues.version_le _)
  cases hsaves with
  | @refused error hmemory hoffers =>
    -- a refused offer is not in question
    have hunaccepted : ¬ (before.offer after record (.error error)).IsAccepted :=
      fun ⟨stored, hstored⟩ => nomatch hstored
    constructor
    case counted =>
      rw [hmemory, hoffers, List.length_append]
      exact ⟨fun id => Nat.le_succ_of_le (hsound.counted.version_le id),
        hsound.counted.get?_eq_none⟩
    case superseded =>
      intro offer hoffer haccepted
      rw [hoffers, List.mem_append, List.mem_singleton] at hoffer
      rcases hoffer with hoffer | rfl
      · exact hsuperseded offer hoffer haccepted
      · exact absurd haccepted hunaccepted
    case exclusive =>
      rw [hoffers, List.pairwise_append]
      refine ⟨hsound.exclusive, List.pairwise_singleton _ _, fun first hfirst second hsecond => ?_⟩
      rw [List.mem_singleton.1 hsecond]
      exact fun _ _ _ => hunaccepted
  | accepted hversion hmemory hoffers =>
    have hlength := hroom
    rw [hoffers, List.length_append] at hlength
    have hassigned := Store.toNat_assigned hsound.counted hlength hversion
    constructor
    case counted =>
      rw [hmemory, hoffers, List.length_append]
      exact hsound.counted.saved hlength hversion
    case superseded =>
      intro offer hoffer haccepted
      rw [hoffers, List.mem_append, List.mem_singleton] at hoffer
      rcases hoffer with hoffer | rfl
      · exact hsuperseded offer hoffer haccepted
      · change record.version.toNat < (after.memory.version record.id).toNat
        rw [hmemory, Store.version_put_self, hassigned]
        exact Nat.lt_succ_self _
    case exclusive =>
      rw [hoffers, List.pairwise_append]
      refine ⟨hsound.exclusive, List.pairwise_singleton _ _, fun first hfirst second hsecond => ?_⟩
      rw [List.mem_singleton.1 hsecond]
      intro (hid : first.record.id = record.id) (hsame : first.record.version = record.version)
        haccepted
      -- the version of an earlier accepted offer is not the stored one any more
      have hlt := hsound.superseded first hfirst haccepted
      rw [hid, hversion, ← hsame] at hlt
      exact absurd hlt (Nat.lt_irrefl _)

/-- A step keeps a ledger sound, and continues it. -/
theorem Turn.sound (hsound : before.Sound) (hturn : before.Turn after)
    (hroom : after.offers.length < 2 ^ 64) : after.Sound ∧ before.Continues after := by
  cases hturn with
  | idle hmemory hoffers =>
    refine ⟨?_, .of_eq hmemory hoffers⟩
    obtain ⟨hcounted, hsuperseded, hexclusive⟩ := hsound
    rw [← hmemory, ← hoffers] at hcounted
    rw [← hmemory, ← hoffers] at hsuperseded
    rw [← hoffers] at hexclusive
    exact ⟨hcounted, hsuperseded, hexclusive⟩
  | save hsaves => exact ⟨hsaves.sound hsound hroom, hsaves.continues hsound hroom⟩

end Ledger

end Lifecycle
