import Rustory.Foundations.Transition
import Rustory.Storage.Insert
import Rustory.Storage.Prune

namespace Rustory

open Foundations LocalStore

inductive StoreOp
  | insert (entries : List Entry) (faults : TxFaults)
  | prune (cutoffUnix : Int) (keepRecent : UInt64) (dryRun : Bool)
  | setLastCursor (peerId : String) (cursor : Int)
  | setLastPushedSeq (peerId : String) (seq : Int)
  | upsertPeerBook (peer : PeerBookPeer)

def StoreOp.apply (store : LocalStore) : StoreOp → LocalStore
  | .insert entries faults => (store.insertEntriesWithStats entries faults).2
  | .prune cutoffUnix keepRecent dryRun => (store.pruneEntriesOlderThan cutoffUnix keepRecent dryRun).2
  | .setLastCursor peerId cursor => store.setLastCursor peerId cursor
  | .setLastPushedSeq peerId seq => store.setLastPushedSeq peerId seq
  | .upsertPeerBook peer => store.upsertPeerBook peer

def StoreStep (before : LocalStore) (op : StoreOp) (after : LocalStore) : Prop := after = op.apply before

theorem StoreStep.evolves {before after : LocalStore} {op : StoreOp} (step : StoreStep before op after) :
    before.entries.Evolves after.entries := by
  subst step
  cases op with
  | insert entries faults => exact insertEntriesWithStats_evolves before entries faults
  | prune cutoffUnix keepRecent dryRun =>
    exact pruneEntriesOlderThan_evolves before cutoffUnix keepRecent dryRun
  | setLastCursor => exact .refl _
  | setLastPushedSeq => exact .refl _
  | upsertPeerBook => exact .refl _

theorem store_run_evolves {before after : LocalStore} {ops : List StoreOp}
    (run : Run StoreStep before ops after) : before.entries.Evolves after.entries :=
  run.relates (fun a b => a.entries.Evolves b.entries) (fun _ => True) (fun _ => .refl _) .trans
    (fun _ _ => trivial) (fun _ step => step.evolves) trivial

/-- The rows of a batch, inserted: what the store promises about the numbers it gives them. -/
structure Appends (before : LocalStore) (entries : List Entry) (stats : InsertStats)
    (after : LocalStore) (added : List IngestRow) : Prop where
  rows : after.entries.rows = before.entries.rows ++ added
  firstNew : added.map Numbered.val = before.entries.firstNew (rowsOf entries)
  ascending : added.Pairwise (fun a b => a.seq < b.seq)
  inserted : stats.inserted = added.length
  total : stats.inserted + stats.ignored = entries.length

theorem insert_appends {before after : LocalStore} {entries : List Entry} {faults : TxFaults}
    {stats : InsertStats} (h : before.insertEntriesWithStats entries faults = (.ok stats, after)) :
    ∃ added, Appends before entries stats after added ∧
      ∀ row ∈ added, before.entries.sequence < row.seq := by
  obtain ⟨rfl, rfl⟩ := insertEntriesWithStats_ok h
  obtain ⟨added, rows, firstNew, changed, above⟩ := before.inserted_rows entries
  refine ⟨added, ⟨rows, firstNew, ?_, changed, ?_⟩, above⟩
  · have order := (before.inserted entries).entries.ascending
    rw [rows] at order
    exact (List.pairwise_append.mp order).2.1
  · exact before.insertedStats_total entries

theorem insert_again {before after again : LocalStore} {entries : List Entry}
    {faults faults' : TxFaults} {stats : InsertStats} {result : Except Error InsertStats}
    (first : before.insertEntriesWithStats entries faults = (.ok stats, after))
    (second : after.insertEntriesWithStats entries faults' = (result, again)) :
    again.entries.rows = after.entries.rows ∧
      ∀ stats', result = .ok stats' → stats' = ⟨0, entries.length⟩ := by
  obtain ⟨rfl, rfl⟩ := insertEntriesWithStats_ok first
  have present : ∀ row ∈ rowsOf entries, (before.inserted entries).entries.Holds row.entryId :=
    fun row member =>
      (before.entries.insertAll_holds (rowsOf entries) row.entryId).mpr (Or.inr ⟨row, member, rfl⟩)
  obtain ⟨rows, changed⟩ := NumberedTable.insertAll_present _ _ present
  cases result with
  | error err =>
    rw [insertEntriesWithStats_error second]
    apply And.intro rfl
    intro stats' failed
    cases failed
  | ok stats' =>
    obtain ⟨rfl, rfl⟩ := insertEntriesWithStats_ok second
    refine ⟨rows, fun stats' same => ?_⟩
    cases same
    simp only [insertedStats, changed, Nat.sub_zero]

/-- The store's representation over whole runs: `early` is any state of a run, the empty store
    included, and `store` any later one. -/
theorem store_history {early store : LocalStore} {ops : List StoreOp}
    (run : Run StoreStep early ops store) :
    (store.entries.rows.map (·.val.entryId)).Nodup ∧
    -- A row of a later state is a row of the earlier one, unchanged, or was added since
    -- under a number above all of them.
    (∀ row ∈ store.entries.rows, row ∈ early.entries.rows ∨
      ∀ old ∈ early.entries.rows, old.seq < row.seq) ∧
    (∀ cutoffUnix keepRecent dryRun,
      (store.pruneEntriesOlderThan cutoffUnix keepRecent dryRun).2.entries.rows.Sublist
        store.entries.rows) ∧
    ∀ entries faults result after, store.insertEntriesWithStats entries faults = (result, after) →
      match result with
      | .error _ => after = store
      | .ok stats =>
        (∃ added, Appends store entries stats after added ∧
          ∀ row ∈ added, ∀ old ∈ early.entries.rows, old.seq < row.seq) ∧
        ∀ faults' result' again, after.insertEntriesWithStats entries faults' = (result', again) →
          again.entries.rows = after.entries.rows ∧
            ∀ stats', result' = .ok stats' → stats' = ⟨0, entries.length⟩ := by
  have evolves := store_run_evolves run
  have below : ∀ {row : IngestRow}, early.entries.sequence < row.seq →
      ∀ old ∈ early.entries.rows, old.seq < row.seq := fun above old member =>
    lt_of_le_of_lt (early.entries.numbered old member).2 above
  refine ⟨store.entries.keys_nodup, fun row member => (evolves.rows row member).imp_right below, ?_, ?_⟩
  · intro cutoffUnix keepRecent dryRun
    rw [pruneEntriesOlderThan_rows]
    split
    · exact List.Sublist.refl _
    · exact List.filter_sublist
  · intro entries faults result after h
    cases result with
    | error err => exact insertEntriesWithStats_error h
    | ok stats =>
      obtain ⟨added, appends, above⟩ := insert_appends h
      refine ⟨⟨added, appends, fun row member => below ?_⟩, fun _ _ _ second => insert_again h second⟩
      exact lt_of_le_of_lt evolves.sequence (above row member)

/-- The number of a pruned row is not given again when its entry comes back. -/
theorem store_history_reinserted :
    let early := (opened.insertEntriesWithStats [firstEcho]).2
    let pruned := (early.pruneEntriesOlderThan 100 0 false).2
    let store := (pruned.insertEntriesWithStats [firstEcho]).2
    store.entries.rows.map Numbered.seq = [2] ∧ ∀ row ∈ store.entries.rows,
      row ∈ early.entries.rows ∨ ∀ old ∈ early.entries.rows, old.seq < row.seq := by
  intro early pruned store
  have run : Run StoreStep early [.prune 100 0 false, .insert [firstEcho] noFaults] store :=
    .cons rfl (.cons rfl (.nil _))
  exact ⟨by decide, (store_history run).2.1⟩

end Rustory
