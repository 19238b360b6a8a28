import Lifecycle.Store.Outage
import Mathlib.Algebra.Group.Nat.Defs

/-!
# What a save does to a store

A store is characterised by what `Store.get?` finds. `Store.get?_put` says what is found after a
record was put into the store, and `UnreliableStore.save_eq_ok` and `UnreliableStore.save_eq_error`
say what a save must have been like, given its answer: an accepted save carries the stored version
and puts the record there under the next one, and a refused save leaves the records as they are.
-/

namespace Lifecycle

namespace Store

variable {store : Store} {record : Record} {id : Uuid}

/-- What is found under an identifier is stored and has this identifier. -/
theorem mem_and_id_eq_of_get? (h : store.get? id = some record) :
    record ∈ store.records ∧ record.id = id := by
  rw [get?] at h
  exact ⟨List.mem_of_find?_eq_some h, by simpa using List.find?_some h⟩

@[simp]
theorem get?_empty (id : Uuid) : empty.get? id = none := rfl

theorem version_of_get? (h : store.get? id = some record) : store.version id = record.version := by
  rw [version, h]
  rfl

/-- A version below the greatest has a next one. -/
theorem toNat_next_version {version : UInt64} (hroom : version.toNat + 1 < 2 ^ 64) :
    (version + 1).toNat = version.toNat + 1 := by
  rw [UInt64.toNat_add]
  exact Nat.mod_eq_of_lt hroom

/-- Where every stored version is below the greatest, so is that of any identifier. -/
theorem version_room (hroom : ∀ stored ∈ store.records, stored.version.toNat + 1 < 2 ^ 64)
    (id : Uuid) : (store.version id).toNat + 1 < 2 ^ 64 := by
  cases hget : store.get? id with
  | none => simp [version, hget]
  | some stored =>
    rw [version_of_get? hget]
    exact hroom stored (mem_and_id_eq_of_get? hget).1

theorem isSome_get?_iff : (store.get? id).isSome = true ↔ id ∈ store.records.map Record.id := by
  simp [get?]

/-- Replacing a copy in a list of records changes what is found under its identifier only. -/
theorem find?_map_replace (records : List Record) (record : Record) (id : Uuid) :
    (records.map (replace record)).find? (fun stored => stored.id == id) =
      (records.find? fun stored => stored.id == id).map (replace record) := by
  have hsame : (fun stored : Record => stored.id == id) ∘ replace record =
      fun stored => stored.id == id := by
    ext stored
    rw [Function.comp_apply, id_replace]
  rw [List.find?_map, hsame]

/-- After a record was put into the store, it is found under its identifier, and what is found
under any other is as before. -/
theorem get?_put (store : Store) (record : Record) (id : Uuid) :
    (store.put record).get? id = if id = record.id then some record else store.get? id := by
  by_cases hknown : record.id ∈ store.records.map Record.id
  -- a stored copy is replaced in its place
  · simp only [put, hknown, ↓reduceDIte, get?, find?_map_replace]
    split
    · next hid =>
      subst hid
      obtain ⟨stored, hstored⟩ := Option.isSome_iff_exists.1 (isSome_get?_iff.2 hknown)
      have hstoredId := (mem_and_id_eq_of_get? hstored).2
      rw [get?] at hstored
      simp [hstored, replace, hstoredId]
    · next hid =>
      cases hfound : store.records.find? fun stored => stored.id == id with
      | none => rfl
      | some stored =>
        have hstoredId : stored.id = id := (mem_and_id_eq_of_get? hfound).2
        simp [replace, hstoredId, hid]
  -- a record that is not stored yet is appended
  · simp only [put, hknown, ↓reduceDIte, get?, List.find?_append]
    split
    · next hid =>
      subst hid
      have hnone : store.get? record.id = none := by
        rw [← Option.not_isSome_iff_eq_none, isSome_get?_iff]
        exact hknown
      rw [get?] at hnone
      simp [hnone]
    · next hid =>
      have hother : record.id ≠ id := fun h => hid h.symm
      simp [hother]

/-- Putting a record into the store sets the version under its identifier only. -/
theorem version_put (store : Store) (record : Record) (id : Uuid) :
    (store.put record).version id =
      if id = record.id then record.version else store.version id := by
  simp only [version, get?_put]
  split <;> rfl

theorem get?_put_self (store : Store) (record : Record) (version : UInt64) :
    (store.put (record.withVersion version)).get? record.id =
      some (record.withVersion version) := by
  rw [get?_put]
  exact if_pos rfl

theorem version_put_self (store : Store) (record : Record) (version : UInt64) :
    (store.put (record.withVersion version)).version record.id = version :=
  version_of_get? (store.get?_put_self record version)

/-- The entry of a record was replaced by the record, and every other entry was kept. -/
def Replaced (before : Store) (record : Record) (after : Store) : Prop :=
  ∀ id, after.get? id = if id = record.id then some record else before.get? id

theorem replaced_put (store : Store) (record : Record) : store.Replaced record (store.put record) :=
  store.get?_put record

end Store

namespace UnreliableStore

variable {store after : UnreliableStore} {record stored : Record} {error : StoreError}

/-- A save that is accepted carries the stored version. It puts the record under the next version
into the store and returns this copy. -/
theorem save_eq_ok (h : store.save record = (.ok stored, after)) :
    store.memory.version record.id = record.version ∧
      stored = record.withVersion (record.version + 1) ∧
      after = { store with saves := store.saves.advance, memory := store.memory.put stored } := by
  simp only [save] at h
  split at h
  · simp at h
  · rw [Store.save] at h
    split at h
    · next hversion =>
      simp only [Prod.mk.injEq, Except.ok.injEq] at h
      obtain ⟨rfl, rfl⟩ := h
      exact ⟨hversion, by rw [hversion], rfl⟩
    · simp at h

/-- A save that is refused leaves the stored records as they are. Unless the store did not answer,
the record carried another version than the stored one. -/
theorem save_eq_error (h : store.save record = (.error error, after)) :
    after = { store with saves := store.saves.advance } ∧
      ((∃ reason, error = .unavailable reason) ∨
        store.memory.version record.id ≠ record.version) := by
  simp only [save] at h
  -- either the store did not answer, or it found another version
  split at h
  · next reason _ =>
    simp only [Prod.mk.injEq, Except.error.injEq] at h
    obtain ⟨rfl, rfl⟩ := h
    exact ⟨rfl, .inl ⟨reason, rfl⟩⟩
  · rw [Store.save] at h
    split at h
    · simp at h
    · next hversion =>
      simp only [Prod.mk.injEq, Except.error.injEq] at h
      obtain ⟨rfl, rfl⟩ := h
      exact ⟨rfl, .inr hversion⟩

/-- A load changes neither the stored records nor the outages of saves. If it returns a record, this
is what is stored. -/
theorem load_eq {id : Uuid} {answer : Except StoreError Record}
    (h : store.load id = (answer, after)) :
    after.memory = store.memory ∧ after.saves = store.saves ∧
      ∀ record, answer = .ok record → store.memory.get? id = some record := by
  simp only [load] at h
  split at h
  · obtain ⟨rfl, rfl⟩ := Prod.mk.inj h
    exact ⟨rfl, rfl, fun record hrecord => nomatch hrecord⟩
  · obtain ⟨rfl, rfl⟩ := Prod.mk.inj h
    refine ⟨rfl, rfl, fun record hrecord => ?_⟩
    rw [Store.load] at hrecord
    split at hrecord
    · next found hfound => rw [hfound, Except.ok.inj hrecord]
    · exact nomatch hrecord

end UnreliableStore

namespace World

theorem save_host {world after : World UnreliableStore} {record : Record}
    {answer : Except StoreError Record} (h : world.save record = (answer, after)) :
    world.host.save record = (answer, after.host) := by
  simp only [World.save, Host.save, Prod.mk.injEq] at h
  obtain ⟨rfl, rfl⟩ := h
  rfl

theorem load_host {world after : World UnreliableStore} {id : Uuid}
    {answer : Except StoreError Record} (h : world.load id = (answer, after)) :
    world.host.load id = (answer, after.host) := by
  simp only [World.load, Host.load, Prod.mk.injEq] at h
  obtain ⟨rfl, rfl⟩ := h
  rfl

end World

end Lifecycle
