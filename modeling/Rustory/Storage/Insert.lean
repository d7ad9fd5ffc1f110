import Rustory.Storage.Store

namespace Rustory.LocalStore

open Foundations

/-- The columns a batch writes, in batch order. -/
def rowsOf (entries : List Entry) : List EntryRow := entries.map Entry.toRow

theorem mem_rowsOf_id {entries : List Entry} {id : EntryId} :
    (∃ row ∈ rowsOf entries, row.entryId = id) ↔ ∃ e ∈ entries, e.entryId = id := by
  simp [rowsOf, Entry.toRow]

theorem executeInserts_ok {faults : TxFaults} {index : Nat} {entries : List Entry}
    {table result : EntriesTable} {inserted total : Nat}
    (h : executeInserts faults index entries (table, inserted) = .ok (result, total)) :
    result = (table.insertAll (rowsOf entries)).1 ∧
      total = inserted + (table.insertAll (rowsOf entries)).2 := by
  induction entries generalizing index table inserted with
  | nil =>
    cases h
    exact ⟨rfl, rfl⟩
  | cons e rest ih =>
    simp only [executeInserts] at h
    split at h
    · cases h
    · obtain ⟨rows, count⟩ := ih h
      refine ⟨rows, ?_⟩
      rw [count]
      simp only [rowsOf, List.map_cons, NumberedTable.insertAll, Nat.add_assoc]

theorem insertTx_ok {faults : TxFaults} {table result : EntriesTable} {entries : List Entry}
    {total : Nat} (h : insertTx faults table entries = .ok (result, total)) :
    result = (table.insertAll (rowsOf entries)).1 ∧ total = (table.insertAll (rowsOf entries)).2 := by
  unfold insertTx at h
  simp only [bind, Except.bind, pure, Except.pure] at h
  split at h
  · cases h
  split at h
  · cases h
  split at h
  · cases h
  rename_i tx executed
  split at h
  · cases h
  cases h
  simpa using executeInserts_ok executed

theorem executeInserts_noFaults (index : Nat) (entries : List Entry) (table : EntriesTable)
    (inserted : Nat) :
    executeInserts noFaults index entries (table, inserted) =
      .ok ((table.insertAll (rowsOf entries)).1, inserted + (table.insertAll (rowsOf entries)).2) := by
  induction entries generalizing index table inserted with
  | nil => rfl
  | cons e rest ih =>
    simp only [executeInserts, failsAt, noFaults]
    rw [ih]
    simp only [rowsOf, List.map_cons, NumberedTable.insertAll, Nat.add_assoc]

theorem insertTx_noFaults (table : EntriesTable) (entries : List Entry) :
    insertTx noFaults table entries = .ok (table.insertAll (rowsOf entries)) := by
  simp only [insertTx, executeInserts_noFaults, Nat.zero_add]
  rfl

def inserted (store : LocalStore) (entries : List Entry) : LocalStore :=
  { store with entries := (store.entries.insertAll (rowsOf entries)).1 }

def insertedStats (store : LocalStore) (entries : List Entry) : InsertStats :=
  let changed := (store.entries.insertAll (rowsOf entries)).2
  ⟨changed, entries.length - changed⟩

/-- The one thing a transaction can do: commit the whole batch, or leave the store as it was. -/
theorem insertEntriesWithStats_cases (store : LocalStore) (entries : List Entry) (faults : TxFaults) :
    (∃ err, store.insertEntriesWithStats entries faults = (.error err, store)) ∨
      store.insertEntriesWithStats entries faults =
        (.ok (store.insertedStats entries), store.inserted entries) := by
  unfold insertEntriesWithStats
  split
  · rename_i none
    rw [List.isEmpty_iff.mp none]
    exact Or.inr rfl
  · split
    · rename_i err _
      exact Or.inl ⟨err, rfl⟩
    · rename_i table changed committed
      obtain ⟨rfl, rfl⟩ := insertTx_ok committed
      exact Or.inr rfl

theorem insertEntriesWithStats_noFaults (store : LocalStore) (entries : List Entry) :
    store.insertEntriesWithStats entries =
      (.ok (store.insertedStats entries), store.inserted entries) := by
  unfold insertEntriesWithStats
  split
  · rename_i none
    rw [List.isEmpty_iff.mp none]
    rfl
  · rw [insertTx_noFaults]
    rfl

theorem insertEntriesWithStats_error {store after : LocalStore} {entries : List Entry}
    {faults : TxFaults} {err : Error}
    (h : store.insertEntriesWithStats entries faults = (.error err, after)) : after = store := by
  rcases store.insertEntriesWithStats_cases entries faults with ⟨_, failed⟩ | committed
  · rw [h] at failed
    cases failed
    rfl
  · rw [h] at committed
    cases committed

theorem insertEntriesWithStats_ok {store after : LocalStore} {entries : List Entry}
    {faults : TxFaults} {stats : InsertStats}
    (h : store.insertEntriesWithStats entries faults = (.ok stats, after)) :
    stats = store.insertedStats entries ∧ after = store.inserted entries := by
  rcases store.insertEntriesWithStats_cases entries faults with ⟨_, failed⟩ | committed
  · rw [h] at failed
    cases failed
  · rw [h] at committed
    cases committed
    exact ⟨rfl, rfl⟩

/-! What a committed batch does to the store. -/

theorem inserted_holds (store : LocalStore) (entries : List Entry) (id : EntryId) :
    (store.inserted entries).Holds id ↔ store.Holds id ∨ ∃ e ∈ entries, e.entryId = id := by
  rw [← mem_rowsOf_id]
  exact store.entries.insertAll_holds (rowsOf entries) id

theorem inserted_evolves (store : LocalStore) (entries : List Entry) :
    store.entries.Evolves (store.inserted entries).entries :=
  store.entries.evolves_insertAll (rowsOf entries)

theorem inserted_append (store : LocalStore) (first second : List Entry) :
    store.inserted (first ++ second) = (store.inserted first).inserted second := by
  simp only [inserted, rowsOf, List.map_append, NumberedTable.insertAll_append]

theorem inserted_rows (store : LocalStore) (entries : List Entry) :
    ∃ added, (store.inserted entries).entries.rows = store.entries.rows ++ added ∧
      added.map Numbered.val = store.entries.firstNew (rowsOf entries) ∧
      (store.insertedStats entries).inserted = added.length ∧
      ∀ row ∈ added, store.entries.sequence < row.seq :=
  store.entries.insertAll_rows (rowsOf entries)

theorem insertedStats_append (store : LocalStore) (first second : List Entry) :
    (store.insertedStats (first ++ second)).inserted =
      (store.insertedStats first).inserted + ((store.inserted first).insertedStats second).inserted := by
  simp only [insertedStats, inserted, rowsOf, List.map_append, NumberedTable.insertAll_append_changed]

theorem insertedStats_total (store : LocalStore) (entries : List Entry) :
    (store.insertedStats entries).inserted + (store.insertedStats entries).ignored = entries.length := by
  have bound := store.entries.insertAll_changed_le (rowsOf entries)
  simp only [insertedStats]
  simp only [rowsOf, List.length_map] at bound ⊢
  omega

/-! Whatever a transaction does, it keeps these. -/

theorem insertEntriesWithStats_evolves (store : LocalStore) (entries : List Entry)
    (faults : TxFaults) :
    store.entries.Evolves (store.insertEntriesWithStats entries faults).2.entries := by
  rcases store.insertEntriesWithStats_cases entries faults with ⟨err, h⟩ | h <;> rw [h]
  · exact .refl _
  · exact store.inserted_evolves entries

theorem insertEntriesWithStats_extends (store : LocalStore) (entries : List Entry) (faults : TxFaults) :
    store.entries.Extends (store.insertEntriesWithStats entries faults).2.entries := by
  rcases store.insertEntriesWithStats_cases entries faults with ⟨err, h⟩ | h <;> rw [h]
  · exact .refl _
  · exact store.entries.extends_insertAll (rowsOf entries)

theorem insertEntriesWithStats_holds {store : LocalStore} {entries : List Entry} {faults : TxFaults}
    {id : EntryId} (held : store.Holds id) :
    (store.insertEntriesWithStats entries faults).2.Holds id := by
  rcases store.insertEntriesWithStats_cases entries faults with ⟨err, h⟩ | h <;> rw [h]
  · exact held
  · exact (store.inserted_holds entries id).mpr (Or.inl held)

@[simp] theorem insertEntriesWithStats_peerState (store : LocalStore) (entries : List Entry)
    (faults : TxFaults) :
    (store.insertEntriesWithStats entries faults).2.peerState = store.peerState := by
  rcases store.insertEntriesWithStats_cases entries faults with ⟨err, h⟩ | h <;> rw [h]
  rfl

@[simp] theorem insertEntriesWithStats_peerPushState (store : LocalStore) (entries : List Entry)
    (faults : TxFaults) :
    (store.insertEntriesWithStats entries faults).2.peerPushState = store.peerPushState := by
  rcases store.insertEntriesWithStats_cases entries faults with ⟨err, h⟩ | h <;> rw [h]
  rfl

@[simp] theorem insertEntriesWithStats_peerBook (store : LocalStore) (entries : List Entry)
    (faults : TxFaults) :
    (store.insertEntriesWithStats entries faults).2.peerBook = store.peerBook := by
  rcases store.insertEntriesWithStats_cases entries faults with ⟨err, h⟩ | h <;> rw [h]
  rfl

/-! The rows without their numbers. -/

def values (store : LocalStore) : List EntryRow := store.entries.rows.map Numbered.val

theorem mem_values {store : LocalStore} {value : EntryRow} :
    value ∈ store.values ↔ ∃ row ∈ store.entries.rows, row.val = value := List.mem_map

theorem values_ids_nodup (store : LocalStore) : (store.values.map EntryRow.entryId).Nodup := by
  have nodup := store.entries.keys_nodup
  rw [values, List.map_map]
  exact nodup

theorem values_nodup (store : LocalStore) : store.values.Nodup := store.values_ids_nodup.of_map

theorem holds_iff_value {store : LocalStore} {id : EntryId} :
    store.Holds id ↔ ∃ value ∈ store.values, value.entryId = id := by
  simp [Holds, NumberedTable.Holds, values]

theorem values_inserted {store : LocalStore} {entries : List Entry} {value : EntryRow} :
    value ∈ (store.inserted entries).values ↔
      value ∈ store.values ∨ value ∈ store.entries.firstNew (rowsOf entries) := by
  obtain ⟨added, rows, vals, -⟩ := store.inserted_rows entries
  rw [values, rows, List.map_append, vals, List.mem_append]
  rfl

theorem values_inserted_one {store : LocalStore} {e : Entry} (absent : ¬ store.Holds e.entryId)
    (value : EntryRow) :
    value ∈ (store.inserted [e]).values ↔ value ∈ store.values ∨ value = e.toRow := by
  have new : store.entries.firstNew (rowsOf [e]) = [e.toRow] := by
    have unseen : ¬ store.entries.Holds e.toRow.entryId := absent
    simp [NumberedTable.firstNew, rowsOf, unseen, List.eraseDupsBy_cons, List.eraseDupsBy_nil]
  rw [values_inserted, new, List.mem_singleton]

theorem values_insert {store : LocalStore} {entries : List Entry} {faults : TxFaults}
    {value : EntryRow} (member : value ∈ (store.insertEntriesWithStats entries faults).2.values) :
    value ∈ store.values ∨ ∃ e ∈ entries, e.toRow = value := by
  rcases store.insertEntriesWithStats_cases entries faults with ⟨err, h⟩ | h
  · rw [h] at member
    exact Or.inl member
  · rw [h] at member
    rcases values_inserted.mp member with old | fresh
    · exact Or.inl old
    · exact Or.inr (List.mem_map.mp (NumberedTable.firstNew_subset _ _ fresh))

theorem values_insert_mono (store : LocalStore) (entries : List Entry) (faults : TxFaults) :
    store.values ⊆ (store.insertEntriesWithStats entries faults).2.values := by
  intro value member
  rcases store.insertEntriesWithStats_cases entries faults with ⟨err, h⟩ | h <;> rw [h]
  · exact member
  · exact values_inserted.mpr (Or.inl member)

end Rustory.LocalStore
