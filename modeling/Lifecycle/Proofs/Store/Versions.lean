import Lifecycle.Proofs.Machine.Soundness
import Lifecycle.Proofs.Store.Saving
import Mathlib.Data.List.Dedup
import Mathlib.Data.List.Induction

/-!
# Versions count saves

A store is asked to save and to load records, in any order and on behalf of anybody: the records
that are offered may carry any version. A `Journal` keeps, next to the store, the copies that its
saves returned. It is bookkeeping of the proof, from which everything about the store can be told:
what is stored of a record is its last save, under the number of its saves.

- `Journal.Faithful.after`: one call keeps the store in agreement with the journal;
- `Journal.faithful_ofCalls`: so do all calls, as long as the saves of each record can be counted in
  a version;
- `Journal.serves_ofCalls`: what calls answer, and what they leave stored.
-/

namespace Lifecycle

namespace Store

/-- One call to a store. -/
inductive Call where
  /-- Save a record. -/
  | save (record : Record)
  /-- Load a record. -/
  | load (id : Uuid)

/-- What a store answers to a call, and the store that the call leaves. -/
def perform (store : Store) : Call → Except StoreError Record × Store
  | .save record => store.save record
  | .load id => (store.load id, store)

/-- The copy that a call saves, if it saves one. -/
def savedBy (store : Store) : Call → Option Record
  | .save record => (store.save record).1.toOption
  | .load _ => none

theorem save_of_eq {store : Store} {record : Record}
    (h : store.version record.id = record.version) :
    store.save record = (.ok (record.withVersion (record.version + 1)),
      store.put (record.withVersion (record.version + 1))) := by
  rw [save, if_pos h, h]

theorem save_of_ne {store : Store} {record : Record}
    (h : store.version record.id ≠ record.version) :
    store.save record =
      (.error (.conflict record.id record.version (store.version record.id)), store) := by
  rw [save, if_neg h]

theorem load_eq_ok_iff {store : Store} {id : Uuid} {record : Record} :
    store.load id = .ok record ↔ store.get? id = some record := by
  rw [load]
  cases store.get? id with
  | none => simp
  | some found => simp

theorem load_eq_notFound_iff {store : Store} {id : Uuid} :
    store.load id = .error (.notFound id) ↔ store.get? id = none := by
  rw [load]
  cases store.get? id with
  | none => simp
  | some found => simp

end Store

/-- A store, and the copies that its saves returned, oldest first. -/
structure Journal where
  store : Store
  saved : List Record

namespace Journal

open Store (Call)

/-- Nothing was saved yet. -/
def fresh : Journal where
  store := .empty
  saved := []

/-- The journal after one more call. -/
def after (journal : Journal) (call : Call) : Journal where
  store := (journal.store.perform call).2
  saved := journal.saved ++ (journal.store.savedBy call).toList

/-- The journal of calls to a store that was empty before. -/
def ofCalls (calls : List Call) : Journal :=
  calls.foldl after fresh

/-- The saves of one record. -/
def savesOf (journal : Journal) (id : Uuid) : List Record :=
  journal.saved.filter fun record => record.id == id

/-- Of each record the last save is stored, under the number of its saves. -/
structure Faithful (journal : Journal) : Prop where
  version_eq : ∀ id, (journal.store.version id).toNat = (journal.savesOf id).length
  get?_eq : ∀ id, journal.store.get? id = (journal.savesOf id).getLast?

/-! ### One call -/

variable {journal : Journal} {record stored : Record} {call : Call} {calls : List Call} {id : Uuid}

theorem faithful_fresh : fresh.Faithful where
  version_eq _ := rfl
  get?_eq _ := rfl

theorem after_save_of_eq (h : journal.store.version record.id = record.version) :
    journal.after (.save record) =
      { store := journal.store.put (record.withVersion (record.version + 1))
        saved := journal.saved ++ [record.withVersion (record.version + 1)] } := by
  simp only [after, Store.perform, Store.savedBy, Store.save_of_eq h]
  rfl

/-- A call that saves nothing changes nothing. -/
theorem after_of_savedBy_eq_none (h : journal.store.savedBy call = none) :
    journal.after call = journal := by
  cases call with
  | load id => simp [after, Store.perform, Store.savedBy]
  | save record =>
    by_cases hversion : journal.store.version record.id = record.version
    · rw [Store.savedBy, Store.save_of_eq hversion] at h
      exact nomatch h
    · simp [after, Store.perform, Store.savedBy, Store.save_of_ne hversion, Except.toOption]

/-- What the journal takes down is a successful save. -/
theorem save_of_savedBy_eq_some (h : journal.store.savedBy call = some stored) :
    ∃ record, call = .save record ∧ journal.store.version record.id = record.version := by
  cases call with
  | load id => exact nomatch h
  | save record =>
    refine ⟨record, rfl, ?_⟩
    by_contra hversion
    rw [Store.savedBy, Store.save_of_ne hversion] at h
    exact nomatch h

theorem savesOf_after (journal : Journal) (call : Call) (id : Uuid) :
    (journal.after call).savesOf id = journal.savesOf id ++
      (journal.store.savedBy call).toList.filter fun record => record.id == id :=
  List.filter_append _ _

/-- A successful save counts as one of its own record. -/
theorem savesOf_after_save (h : journal.store.version record.id = record.version) (id : Uuid) :
    (journal.after (.save record)).savesOf id =
      if id = record.id then journal.savesOf id ++ [record.withVersion (record.version + 1)]
      else journal.savesOf id := by
  rw [after_save_of_eq h, savesOf, List.filter_append]
  by_cases hid : id = record.id
  · simp [hid, Record.withVersion, savesOf]
  · simp [hid, Record.withVersion, savesOf, Ne.symm hid]

/-- As long as the saves of a record can be counted in a version, its version can be increased. -/
theorem Faithful.room (h : journal.Faithful)
    (hversion : journal.store.version record.id = record.version)
    (hfew : ((journal.after (.save record)).savesOf record.id).length < 2 ^ 64) :
    record.version.toNat + 1 < 2 ^ 64 := by
  rw [savesOf_after_save hversion, if_pos rfl, List.length_append, List.length_singleton] at hfew
  rwa [← hversion, h.version_eq]

/-- One more call keeps the store in agreement with the journal. -/
theorem Faithful.after (h : journal.Faithful) (call : Call)
    (hfew : ∀ id, ((journal.after call).savesOf id).length < 2 ^ 64) :
    (journal.after call).Faithful := by
  cases hsaved : journal.store.savedBy call with
  | none =>
    rw [after_of_savedBy_eq_none hsaved]
    exact h
  | some stored =>
    obtain ⟨record, rfl, hversion⟩ := save_of_savedBy_eq_some hsaved
    have hroom := h.room hversion (hfew record.id)
    constructor
    · intro id
      rw [savesOf_after_save hversion, after_save_of_eq hversion]
      by_cases hid : id = record.id
      · subst hid
        rw [if_pos rfl, List.length_append, List.length_singleton, Store.version_put_self,
          Store.toNat_next_version hroom, ← hversion, h.version_eq]
      · simp only [hid, ↓reduceIte, Store.version_put, Record.withVersion, h.version_eq]
    · intro id
      rw [savesOf_after_save hversion, after_save_of_eq hversion]
      by_cases hid : id = record.id
      · subst hid
        rw [if_pos rfl, List.getLast?_concat, Store.get?_put_self]
      · simp only [hid, ↓reduceIte, Store.get?_put, Record.withVersion, h.get?_eq]

/-! ### All calls -/

theorem ofCalls_concat (calls : List Call) (call : Call) :
    ofCalls (calls ++ [call]) = (ofCalls calls).after call := by
  rw [ofCalls, List.foldl_concat]
  rfl

/-- Later calls save the same record again, or do not. -/
theorem savesOf_grows (before later : List Call) (id : Uuid) :
    (ofCalls before).savesOf id <+: (ofCalls (before ++ later)).savesOf id := by
  induction later using List.reverseRecOn with
  | nil => simp only [List.append_nil, List.prefix_rfl]
  | append_singleton later call ih =>
    rw [← List.append_assoc, ofCalls_concat, savesOf_after]
    exact ih.trans (List.prefix_append _ _)

theorem faithful_ofCalls (calls : List Call)
    (hfew : ∀ id, ((ofCalls calls).savesOf id).length < 2 ^ 64) : (ofCalls calls).Faithful := by
  induction calls using List.reverseRecOn with
  | nil => exact faithful_fresh
  | append_singleton calls call ih =>
    have hfewer (id : Uuid) : ((ofCalls calls).savesOf id).length < 2 ^ 64 :=
      Nat.lt_of_le_of_lt (savesOf_grows calls [call] id).length_le (hfew id)
    rw [ofCalls_concat] at hfew ⊢
    exact (ih hfewer).after call hfew

/-! ### What is stored and answered -/

theorem mem_map_saved : id ∈ journal.saved.map Record.id ↔ journal.savesOf id ≠ [] := by
  simp [savesOf, List.filter_eq_nil_iff]

theorem Faithful.isSome_get?_iff (h : journal.Faithful) :
    (journal.store.get? id).isSome = true ↔ journal.savesOf id ≠ [] := by
  rw [h.get?_eq, Option.isSome_iff_ne_none, ne_eq, List.getLast?_eq_none_iff]

/-- The records that are stored are those that were saved. -/
theorem Faithful.size_eq (h : journal.Faithful) :
    journal.store.size = (journal.saved.map Record.id).dedup.length := by
  have hperm : (journal.store.records.map Record.id).Perm (journal.saved.map Record.id).dedup := by
    refine (List.perm_ext_iff_of_nodup journal.store.distinct (List.nodup_dedup _)).2 fun id => ?_
    rw [List.mem_dedup, mem_map_saved, ← Store.isSome_get?_iff, h.isSome_get?_iff]
  rw [Store.size, ← hperm.length_eq, List.length_map]

/-- What a store answers to a record that is offered to it, and what it leaves stored. -/
structure Answers (journal : Journal) (record : Record) : Prop where
  /-- A record is accepted exactly when its version is the number of its saves. -/
  accepts_iff : (∃ stored, (journal.store.save record).1 = .ok stored) ↔
    record.version.toNat = (journal.savesOf record.id).length
  /-- It is returned with only its version increased, and by no more than one. -/
  accepted : ∀ stored, (journal.store.save record).1 = .ok stored →
    stored = record.withVersion (record.version + 1) ∧
      stored.version.toNat = record.version.toNat + 1
  /-- Any other record is refused, and the store stays as it is. -/
  rejected : ∀ error, (journal.store.save record).1 = .error error →
    error = .conflict record.id record.version (journal.store.version record.id) ∧
      (journal.store.save record).2 = journal.store
  /-- What is stored of other records stays in any case. -/
  get?_other : ∀ id, id ≠ record.id →
    (journal.store.save record).2.get? id = journal.store.get? id

/-- What calls leave stored in a store that was empty before, and what it answered to them. -/
structure Serves (calls : List Call) : Prop where
  /-- The version of a record is the number of its saves, and zero without any. -/
  version_eq : ∀ id, ((ofCalls calls).store.version id).toNat = ((ofCalls calls).savesOf id).length
  /-- A record is stored under its own identifier, and never under the version zero. -/
  stored : ∀ id record, (ofCalls calls).store.get? id = some record →
    record.id = id ∧ 1 ≤ record.version.toNat
  /-- A record cannot be found exactly when it was never saved. -/
  notFound_iff : ∀ id, (ofCalls calls).store.load id = .error (.notFound id) ↔
    (ofCalls calls).savesOf id = []
  /-- There are as many records as different ones were saved. -/
  size_eq : (ofCalls calls).store.size = ((ofCalls calls).saved.map Record.id).dedup.length
  answers : ∀ before record later, calls = before ++ .save record :: later →
    (ofCalls before).Answers record
  /-- What a save returned is loaded until the record is saved again. -/
  load_eq : ∀ before record stored between later,
    calls = before ++ .save record :: (between ++ later) →
      ((ofCalls before).store.save record).1 = .ok stored →
        (ofCalls (before ++ .save record :: between)).savesOf record.id =
          (ofCalls (before ++ [.save record])).savesOf record.id →
        (ofCalls (before ++ .save record :: between)).store.load record.id = .ok stored

theorem Faithful.answers (h : journal.Faithful)
    (hfew : ((journal.after (.save record)).savesOf record.id).length < 2 ^ 64) :
    journal.Answers record := by
  have hcount : journal.store.version record.id = record.version ↔
      record.version.toNat = (journal.savesOf record.id).length := by
    rw [← h.version_eq, UInt64.toNat_inj, eq_comm]
  by_cases hversion : journal.store.version record.id = record.version
  · have hroom := h.room hversion hfew
    have hsave := Store.save_of_eq hversion
    exact
      { accepts_iff := ⟨fun _ => hcount.1 hversion, fun _ => ⟨_, congrArg Prod.fst hsave⟩⟩
        accepted := by
          intro stored hstored
          rw [hsave] at hstored
          obtain rfl := Except.ok.inj hstored
          exact ⟨rfl, Store.toNat_next_version hroom⟩
        rejected := by
          intro error herror
          rw [hsave] at herror
          exact nomatch herror
        get?_other := by
          intro id hid
          rw [hsave, Store.get?_put]
          exact if_neg hid }
  · have hsave := Store.save_of_ne hversion
    exact
      { accepts_iff := by
          rw [← hcount, hsave]
          constructor
          · rintro ⟨stored, hstored⟩
            exact nomatch hstored
          · intro hsame
            exact absurd hsame hversion
        accepted := by
          intro stored hstored
          rw [hsave] at hstored
          exact nomatch hstored
        rejected := by
          intro error herror
          rw [hsave] at herror ⊢
          exact ⟨(Except.error.inj herror).symm, rfl⟩
        get?_other := by
          intro id _
          rw [hsave] }

/-- A store that was empty before serves all calls, whatever records are offered to it and in
whatever order, as long as no record is saved more often than a version can count. -/
theorem serves_ofCalls (calls : List Call)
    (hfew : ∀ id, ((ofCalls calls).savesOf id).length < 2 ^ 64) : Serves calls := by
  have hfaithful := faithful_ofCalls calls hfew
  -- what holds after all calls holds after the first of them too
  have hfewer (before later : List Call) (hcalls : calls = before ++ later) (id : Uuid) :
      ((ofCalls before).savesOf id).length < 2 ^ 64 :=
    Nat.lt_of_le_of_lt (savesOf_grows before later id).length_le (hcalls ▸ hfew id)
  have hbefore (before later : List Call) (hcalls : calls = before ++ later) :
      (ofCalls before).Faithful :=
    faithful_ofCalls before (hfewer before later hcalls)
  exact
    { version_eq := hfaithful.version_eq
      stored := by
        intro id record hget
        refine ⟨(Store.mem_and_id_eq_of_get? hget).2, ?_⟩
        have hsaved := hfaithful.isSome_get?_iff.1 (Option.isSome_of_eq_some hget)
        rw [← Store.version_of_get? hget, hfaithful.version_eq]
        exact List.length_pos_of_ne_nil hsaved
      notFound_iff := by
        intro id
        rw [Store.load_eq_notFound_iff, hfaithful.get?_eq, List.getLast?_eq_none_iff]
      size_eq := hfaithful.size_eq
      answers := by
        rintro before record later rfl
        have hsplit : before ++ .save record :: later = (before ++ [.save record]) ++ later := by
          simp
        have hcount := hfewer _ _ hsplit record.id
        rw [ofCalls_concat] at hcount
        exact (hbefore _ _ rfl).answers hcount
      load_eq := by
        intro before record stored between later hcalls hsave hsame
        have hversion : (ofCalls before).store.version record.id = record.version := by
          by_contra hversion
          rw [Store.save_of_ne hversion] at hsave
          exact nomatch hsave
        rw [Store.save_of_eq hversion] at hsave
        obtain rfl := Except.ok.inj hsave
        have hlater : calls = (before ++ .save record :: between) ++ later := by
          simp [hcalls]
        -- the last of the saves is still the one that returned the record
        rw [Store.load_eq_ok_iff, (hbefore _ _ hlater).get?_eq, hsame, ofCalls_concat,
          savesOf_after_save hversion, if_pos rfl, List.getLast?_concat] }

/-- A forged record with the greatest version is refused. Of two saves on top of the same version
the second one is refused, and what the first one returned is loaded. -/
theorem serves_ofCalls_delivery :
    let record := Record.create .delivery (.ofNat 1)
    let calls : List Call :=
      [.save (record.withVersion (-1)), .save record, .load (.ofNat 1), .save record]
    Serves calls ∧ (ofCalls calls).saved = [record.withVersion 1] ∧
      (ofCalls calls).store.load (.ofNat 1) = .ok (record.withVersion 1) := by
  intro record calls
  have hserves : Serves calls := by
    refine serves_ofCalls calls fun id => ?_
    have hsaved : (ofCalls calls).saved.length < 2 ^ 64 := by decide
    exact Nat.lt_of_le_of_lt (List.length_filter_le _ _) hsaved
  refine ⟨hserves, rfl, ?_⟩
  exact hserves.load_eq [.save (record.withVersion (-1))] record (record.withVersion 1)
    [.load (.ofNat 1), .save record] [] rfl rfl rfl

end Journal

end Lifecycle
