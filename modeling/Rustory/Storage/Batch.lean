import Rustory.Storage.Insert

namespace Rustory.LocalStore

open Foundations

/-- The batch holds exactly these rows, in order, and ends at the last of them. -/
structure BatchOf (rows : List IngestRow) (batch : PullBatch) : Prop where
  entries : rowsOf batch.entries = rows.map Numbered.val
  nextCursor : batch.nextCursor = rows.getLast?.map Numbered.seq

theorem collectBatch_ok {read rows : List IngestRow} {sofar batch : PullBatch}
    (progress : BatchOf read sofar) (h : collectBatch rows sofar = .ok batch) :
    BatchOf (read ++ rows) batch := by
  induction rows generalizing read sofar with
  | nil =>
    cases h
    simpa using progress
  | cons row rest ih =>
    simp only [collectBatch] at h
    split at h
    · cases h
    · rename_i entry parsed
      have extended : BatchOf (read ++ [row]) ⟨sofar.entries ++ [entry], some row.seq⟩ := by
        refine ⟨?_, by simp⟩
        have written := toRow_of_rowToEntry parsed
        have known := progress.entries
        simp only [rowsOf, List.map_append, List.map_cons, List.map_nil] at known ⊢
        rw [known, written]
      simpa using ih extended h

theorem collectBatch_of {rows : List IngestRow} {batch : PullBatch}
    (h : collectBatch rows ⟨[], none⟩ = .ok batch) : BatchOf rows batch := by
  have start : BatchOf [] ⟨[], none⟩ := ⟨rfl, rfl⟩
  exact collectBatch_ok start h

theorem collectBatch_readable {rows : List IngestRow} {sofar : PullBatch} :
    (∃ batch, collectBatch rows sofar = .ok batch) ↔ ∀ row ∈ rows, row.val.Readable := by
  induction rows generalizing sofar with
  | nil => simp [collectBatch]
  | cons row rest ih =>
    simp only [collectBatch, List.forall_mem_cons, ← @rowToEntry_readable row.val 1]
    cases rowToEntryWithOffset row.val 1 with
    | error err => simp
    | ok entry => simpa using ih

theorem BatchOf.entries_nil {rows : List IngestRow} {batch : PullBatch} (h : BatchOf rows batch) :
    batch.entries = [] ↔ rows = [] := by
  have same := h.entries
  constructor
  · intro none
    rw [none] at same
    exact List.map_eq_nil_iff.mp same.symm
  · intro none
    rw [none] at same
    exact List.map_eq_nil_iff.mp same

theorem BatchOf.nextCursor_some {rows : List IngestRow} {batch : PullBatch} (h : BatchOf rows batch)
    {nextCursor : Int} (next : batch.nextCursor = some nextCursor) :
    ∃ last, rows.getLast? = some last ∧ last.seq = nextCursor := by
  rw [h.nextCursor] at next
  exact Option.map_eq_some_iff.mp next

/-- A page that is not empty ends at a row above the cursor, with fewer rows still to come. -/
theorem BatchOf.page_last {table : EntriesTable} {p : EntryRow → Bool} {cursor limit : Int}
    {batch : PullBatch} (h : BatchOf (table.page p cursor limit) batch) (nonempty : batch.entries ≠ []) :
    ∃ last, (table.page p cursor limit).getLast? = some last ∧ batch.nextCursor = some last.seq ∧
      cursor < last.seq ∧ (table.after p last.seq).length < (table.after p cursor).length := by
  have rows : table.page p cursor limit ≠ [] := fun empty => nonempty (h.entries_nil.mpr empty)
  obtain ⟨last, ends⟩ : ∃ last, (table.page p cursor limit).getLast? = some last :=
    ⟨_, List.getLast?_eq_some_getLast rows⟩
  have above := (NumberedTable.mem_page (List.mem_of_getLast? ends)).2.1
  have found := h.nextCursor
  rw [ends] at found
  have split := congrArg List.length (NumberedTable.after_last ends)
  rw [List.length_append] at split
  have some_row := List.length_pos_iff.mpr rows
  exact ⟨last, ends, found, above, by omega⟩

theorem BatchOf.mem {rows : List IngestRow} {batch : PullBatch} (h : BatchOf rows batch)
    {row : IngestRow} (member : row ∈ rows) : ∃ e ∈ batch.entries, e.toRow = row.val := by
  have listed : row.val ∈ rowsOf batch.entries := by
    rw [h.entries]
    exact List.mem_map_of_mem member
  exact List.mem_map.mp listed

theorem BatchOf.entry_mem {rows : List IngestRow} {batch : PullBatch} (h : BatchOf rows batch)
    {e : Entry} (member : e ∈ batch.entries) : ∃ row ∈ rows, row.val = e.toRow := by
  have listed : e.toRow ∈ rows.map Numbered.val := by
    rw [← h.entries]
    exact List.mem_map_of_mem member
  exact List.mem_map.mp listed

theorem pullSinceCursor_of {store : LocalStore} {cursor : Int} {limit : UInt64} {batch : PullBatch}
    (h : store.pullSinceCursor cursor limit = .ok batch) :
    BatchOf (store.entries.page (fun _ => true) cursor (asI64 limit)) batch := collectBatch_of h

theorem pullSinceCursor_ok_iff {store : LocalStore} {cursor : Int} {limit : UInt64} :
    (∃ batch, store.pullSinceCursor cursor limit = .ok batch) ↔
      ∀ row ∈ store.entries.page (fun _ => true) cursor (asI64 limit), row.val.Readable :=
  collectBatch_readable

theorem pullSinceCursor_readable {store : LocalStore}
    (readable : ∀ value ∈ store.values, value.Readable) (cursor : Int) (limit : UInt64) :
    ∃ batch, store.pullSinceCursor cursor limit = .ok batch := by
  apply collectBatch_readable.mpr
  intro row listed
  exact readable row.val (mem_values.mpr ⟨row, (NumberedTable.mem_page listed).1, rfl⟩)

theorem pullSinceCursorForDevice_of {store : LocalStore} {cursor : Int} {limit : UInt64}
    {deviceId : String} {batch : PullBatch}
    (h : store.pullSinceCursorForDevice cursor limit deviceId = .ok batch) :
    BatchOf (store.entries.page (ofDevice deviceId) cursor (asI64 limit)) batch := collectBatch_of h

end Rustory.LocalStore
