import Lifecycle.Record

/-!
# Stores

A store keeps one copy of each record under the record's identifier. Saving is guarded by
optimistic locking: a record is accepted only under the version that is stored, and is stored
under the next one, so that of two saves on top of the same version the second is refused.
-/

namespace Lifecycle

/-- Why a record was not loaded or saved. -/
inductive StoreError where
  /-- No record has this identifier. -/
  | notFound (id : Uuid)
  /-- The stored record has another version than the one that was offered. -/
  | conflict (id : Uuid) (expected found : UInt64)
  /-- The store did not answer. -/
  | unavailable (reason : String)
deriving DecidableEq, Repr

namespace StoreError

/-- The error in words. -/
def message : StoreError → String
  | notFound id => "Record " ++ id.text ++ " not found"
  | conflict id expected found =>
    "Record " ++ id.text ++ " was modified concurrently (expected version " ++
      toString expected.toNat ++ ", found " ++ toString found.toNat ++ ")"
  | unavailable reason => "Store unavailable: " ++ reason

end StoreError

/-- The stored records, each under its own identifier. -/
structure Store where
  /-- The stored copies, in the order of their first save. -/
  records : List Record
  /-- There is one copy of each record. -/
  distinct : (records.map Record.id).Nodup
deriving DecidableEq

namespace Store

/-- Nothing is stored. -/
def empty : Store where
  records := []
  distinct := .nil

/-- The number of stored records. -/
def size (store : Store) : Nat :=
  store.records.length

/-- The stored copy of a record. -/
def get? (store : Store) (id : Uuid) : Option Record :=
  store.records.find? fun record => record.id == id

/-- The version under which a record is stored, zero when it is not. -/
def version (store : Store) (id : Uuid) : UInt64 :=
  ((store.get? id).map Record.version).getD 0

/-- Put a record in the place of the copy that has the same identifier. -/
def replace (record : Record) (stored : Record) : Record :=
  if stored.id = record.id then record else stored

/-- Replacing a copy keeps all identifiers. -/
theorem id_replace (record stored : Record) : (replace record stored).id = stored.id := by
  unfold replace
  split
  · next h => exact h.symm
  · rfl

/-- Replacing a copy keeps the list of identifiers. -/
theorem map_id_replace (record : Record) (records : List Record) :
    (records.map (replace record)).map Record.id = records.map Record.id := by
  simp [List.map_map, Function.comp_def, id_replace]

/-- Store a copy of a record, whatever its version. -/
def put (store : Store) (record : Record) : Store :=
  if known : record.id ∈ store.records.map Record.id then
    { records := store.records.map (replace record)
      distinct := by rw [map_id_replace]; exact store.distinct }
  else
    { records := store.records ++ [record]
      distinct := by
        rw [List.map_append, List.nodup_append]
        refine ⟨store.distinct, by simp, ?_⟩
        rintro id member other single rfl
        simp only [List.map_cons, List.map_nil, List.mem_singleton] at single
        exact known (single ▸ member) }

/-- Load the stored copy of a record. -/
def load (store : Store) (id : Uuid) : Except StoreError Record :=
  match store.get? id with
  | some record => .ok record
  | none => .error (.notFound id)

/-- Save a record that carries the stored version, and return the stored copy with its new version.
Any other record is refused, and the store stays as it is. -/
def save (store : Store) (record : Record) : Except StoreError Record × Store :=
  let stored := store.version record.id
  if stored = record.version then
    let saved := record.withVersion (stored + 1)
    (.ok saved, store.put saved)
  else (.error (.conflict record.id record.version stored), store)

end Store

end Lifecycle
