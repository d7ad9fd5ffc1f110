import Rustory.Storage.Store

namespace Rustory.LocalStore

open Foundations

/-! What one prune deletes. -/

theorem pruneSelects_old {cutoffUnix : Int} {keepFloor pushedFloor : Option Int} {row : IngestRow}
    (selected : pruneSelects cutoffUnix keepFloor pushedFloor row = true) :
    row.val.ts < cutoffUnix := by
  unfold pruneSelects at selected
  cases keepFloor <;> cases pushedFloor <;> simp at selected <;> omega

theorem pruneSelects_pushed {cutoffUnix pushed : Int} {keepFloor : Option Int} {row : IngestRow}
    (selected : pruneSelects cutoffUnix keepFloor (some pushed) row = true) : row.seq ≤ pushed := by
  unfold pruneSelects at selected
  cases keepFloor <;> simp at selected <;> omega

theorem pruneSelects_kept {cutoffUnix keep : Int} {pushedFloor : Option Int} {row : IngestRow}
    (selected : pruneSelects cutoffUnix (some keep) pushedFloor row = true) : row.seq < keep := by
  unfold pruneSelects at selected
  cases pushedFloor <;> simp at selected <;> omega

theorem pushedFloor_le {store : LocalStore} {peerId : String} {seq : Int}
    (cursor : store.getLastPushedSeqOpt peerId = some seq) :
    ∃ floor, store.prunePushedFloorSeq = some floor ∧ floor ≤ seq := by
  have member : seq ∈ store.peerPushState.entries.map Sigma.snd :=
    List.mem_map_of_mem (AList.mem_lookup_iff.mp cursor)
  cases found : store.prunePushedFloorSeq with
  | none =>
    rw [prunePushedFloorSeq, List.min?_eq_none_iff] at found
    rw [found] at member
    exact absurd member List.not_mem_nil
  | some floor => exact ⟨floor, rfl, (List.min?_eq_some_iff.mp found).2 seq member⟩

theorem pushedFloor_mem {store : LocalStore} {floor : Int} (found : store.prunePushedFloorSeq = some floor) :
    ∃ peerId, store.getLastPushedSeqOpt peerId = some floor := by
  have member := (List.min?_eq_some_iff.mp found).1
  obtain ⟨⟨peerId, seq⟩, listed, rfl⟩ := List.mem_map.mp member
  exact ⟨peerId, AList.mem_lookup_iff.mpr listed⟩

theorem keepFloor_mem {store : LocalStore} {keepRecent : UInt64} {floor : Int}
    (found : store.pruneKeepFloorSeq keepRecent = some floor) :
    ∃ row ∈ store.entries.rows, row.seq = floor := by
  unfold pruneKeepFloorSeq at found
  split at found
  · cases found
  · have recent := (List.min?_eq_some_iff.mp found).1
    have listed := (limitRows_initial _ _).subset recent
    exact List.mem_map.mp (List.mem_reverse.mp listed)

/-- What a prune did, as the `DELETE` it ran; a dry run and an empty match delete nothing. -/
theorem pruneEntriesOlderThan_rows (store : LocalStore) (cutoffUnix : Int) (keepRecent : UInt64)
    (dryRun : Bool) :
    (store.pruneEntriesOlderThan cutoffUnix keepRecent dryRun).2.entries.rows =
      if dryRun then store.entries.rows else
        store.entries.rows.filter fun row => !pruneSelects cutoffUnix
          (store.pruneKeepFloorSeq keepRecent) store.prunePushedFloorSeq row := by
  cases dryRun
  · simp only [pruneEntriesOlderThan, Bool.false_or, decide_eq_true_eq, Bool.false_eq_true, ite_false]
    split
    · rename_i none
      rw [pruneCount, List.length_eq_zero_iff, List.filter_eq_nil_iff] at none
      rw [eq_comm, List.filter_eq_self]
      intro row member
      simpa using none row member
    · rfl
  · simp [pruneEntriesOlderThan]

theorem pruneEntriesOlderThan_cases (store : LocalStore) (cutoffUnix : Int) (keepRecent : UInt64)
    (dryRun : Bool) :
    (store.pruneEntriesOlderThan cutoffUnix keepRecent dryRun).2 = store ∨
      (store.pruneEntriesOlderThan cutoffUnix keepRecent dryRun).2 =
        (store.pruneDelete (pruneSelects cutoffUnix (store.pruneKeepFloorSeq keepRecent)
          store.prunePushedFloorSeq)).1 := by
  unfold pruneEntriesOlderThan
  dsimp only
  split
  · exact Or.inl rfl
  · exact Or.inr rfl

theorem mem_pruneDelete {store : LocalStore} {selects : IngestRow → Bool} {row : IngestRow} :
    row ∈ (store.pruneDelete selects).1.entries.rows ↔
      row ∈ store.entries.rows ∧ selects row = false := NumberedTable.mem_deleteWhere

theorem pruneDelete_evolves (store : LocalStore) (selects : IngestRow → Bool) :
    store.entries.Evolves (store.pruneDelete selects).1.entries :=
  NumberedTable.evolves_deleteWhere _ _

theorem pruneEntriesOlderThan_evolves (store : LocalStore) (cutoffUnix : Int) (keepRecent : UInt64)
    (dryRun : Bool) :
    store.entries.Evolves (store.pruneEntriesOlderThan cutoffUnix keepRecent dryRun).2.entries := by
  rcases store.pruneEntriesOlderThan_cases cutoffUnix keepRecent dryRun with h | h <;> rw [h]
  · exact .refl _
  · exact store.pruneDelete_evolves _

@[simp] theorem pruneEntriesOlderThan_peerPushState (store : LocalStore) (cutoffUnix : Int)
    (keepRecent : UInt64) (dryRun : Bool) :
    (store.pruneEntriesOlderThan cutoffUnix keepRecent dryRun).2.peerPushState =
      store.peerPushState := by
  rcases store.pruneEntriesOlderThan_cases cutoffUnix keepRecent dryRun with h | h <;> rw [h]
  rfl

/-- A prune deletes no row above the push cursor of any peer that has one. -/
theorem pruned_pushed {store : LocalStore} {cutoffUnix : Int} {keepRecent : UInt64} {dryRun : Bool}
    {row : IngestRow} (before : row ∈ store.entries.rows)
    (gone : row ∉ (store.pruneEntriesOlderThan cutoffUnix keepRecent dryRun).2.entries.rows)
    {peerId : String} {seq : Int} (cursor : store.getLastPushedSeqOpt peerId = some seq) :
    row.seq ≤ seq := by
  obtain ⟨floor, found, below⟩ := pushedFloor_le cursor
  rcases store.pruneEntriesOlderThan_cases cutoffUnix keepRecent dryRun with h | h
  · rw [h] at gone
    exact absurd before gone
  · rw [h, mem_pruneDelete, found] at gone
    have selected := eq_true_of_ne_false fun unselected => gone ⟨before, unselected⟩
    exact (pruneSelects_pushed selected).trans below

/-! The queue of pending uploads across a prune. -/

theorem countPendingPushEntries_device (store : LocalStore) (peerId deviceId : String) :
    store.countPendingPushEntries peerId (some deviceId) =
      (store.entries.rows.filter fun row => decide (store.getLastPushedSeq peerId < row.seq) &&
        ofDevice deviceId row.val).length := rfl

theorem getLastPushedSeq_pruned (store : LocalStore) (cutoffUnix : Int) (keepRecent : UInt64)
    (dryRun : Bool) (peerId : String) :
    (store.pruneEntriesOlderThan cutoffUnix keepRecent dryRun).2.getLastPushedSeq peerId =
      store.getLastPushedSeq peerId := by
  simp only [getLastPushedSeq, getLastPushedSeqOpt, pruneEntriesOlderThan_peerPushState]

theorem pending_pruned (store : LocalStore) (cutoffUnix : Int) (keepRecent : UInt64) (dryRun : Bool)
    (peerId deviceId : String) :
    (store.pruneEntriesOlderThan cutoffUnix keepRecent dryRun).2.countPendingPushEntries peerId
        (some deviceId) +
      (store.entries.rows.filter fun row =>
        decide (row ∉ (store.pruneEntriesOlderThan cutoffUnix keepRecent dryRun).2.entries.rows) &&
          (decide (store.getLastPushedSeq peerId < row.seq) && ofDevice deviceId row.val)).length =
      store.countPendingPushEntries peerId (some deviceId) := by
  rw [countPendingPushEntries_device, countPendingPushEntries_device, getLastPushedSeq_pruned]
  rcases store.pruneEntriesOlderThan_cases cutoffUnix keepRecent dryRun with h | h <;> rw [h]
  · simp +contextual [List.filter_eq_nil_iff]
  · refine Eq.trans (congrArg (_ + ·) (congrArg List.length ?_))
      (NumberedTable.length_filter_deleteWhere store.entries (pruneSelects cutoffUnix
        (store.pruneKeepFloorSeq keepRecent) store.prunePushedFloorSeq) _)
    apply List.filter_congr
    intro row member
    simp [mem_pruneDelete, member]

end Rustory.LocalStore
