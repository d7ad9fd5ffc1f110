import Rustory.Foundations.Newest
import Rustory.Storage.History
import Rustory.Storage.Recent

namespace Rustory

open Foundations

/-- `ingest_seq` is an SQLite rowid, an `i64`. -/
def maxRowid : Int := 0x7FFFFFFFFFFFFFFF

namespace LocalStore

/-! What `prune` is for: it deletes old rows, but none of the newest and none that a peer still
    has to receive. -/

def Prunable (store : LocalStore) (cutoffUnix : Int) (keepRecent : UInt64) (row : IngestRow) : Prop :=
  row.val.ts < cutoffUnix ∧ keepRecent.toNat ≤ store.entries.newer row ∧
    ∀ pushed ∈ store.peerPushState.entries, row.seq ≤ pushed.snd

instance (store : LocalStore) (cutoffUnix : Int) (keepRecent : UInt64) (row : IngestRow) :
    Decidable (store.Prunable cutoffUnix keepRecent row) := inferInstanceAs (Decidable (_ ∧ _ ∧ _))

theorem newer_ge_iff {store : LocalStore} (rowids : store.entries.sequence ≤ maxRowid) {row : IngestRow}
    (member : row ∈ store.entries.rows) (keepRecent : UInt64) :
    (0 ≤ asI64 keepRecent ∧ (asI64 keepRecent).toNat ≤ store.entries.newer row) ↔
      keepRecent.toNat ≤ store.entries.newer row := by
  have fewer := NumberedTable.newer_lt_length member
  have bound := store.entries.length_le_sequence
  have most : maxRowid = 0x7FFFFFFFFFFFFFFF := rfl
  have word := keepRecent.toNat_lt
  unfold asI64
  split <;> omega

theorem pushedFloor_iff {store : LocalStore} {seq : Int} :
    (∀ floor, store.prunePushedFloorSeq = some floor → seq ≤ floor) ↔
      ∀ pushed ∈ store.peerPushState.entries, seq ≤ pushed.snd := by
  constructor
  · intro below pushed listed
    have cursor : store.getLastPushedSeqOpt pushed.fst = some pushed.snd := AList.mem_lookup_iff.mpr listed
    obtain ⟨floor, found, least⟩ := pushedFloor_le cursor
    exact (below floor found).trans least
  · intro below floor found
    obtain ⟨peerId, cursor⟩ := pushedFloor_mem found
    exact below ⟨peerId, floor⟩ (AList.mem_lookup_iff.mp cursor)

theorem keepFloor_iff {store : LocalStore} (rowids : store.entries.sequence ≤ maxRowid)
    {keepRecent : UInt64} {row : IngestRow} (member : row ∈ store.entries.rows) :
    (∀ floor, store.pruneKeepFloorSeq keepRecent = some floor → row.seq < floor) ↔
      keepRecent.toNat ≤ store.entries.newer row := by
  by_cases unlimited : keepRecent = 0
  · subst unlimited
    have none_kept : store.pruneKeepFloorSeq 0 = none := rfl
    rw [none_kept]
    simp
  · have nonzero : asI64 keepRecent ≠ 0 := by
      have number : keepRecent.toNat ≠ 0 := fun zero => unlimited (UInt64.toNat_inj.mp zero)
      have word := keepRecent.toNat_lt
      unfold asI64
      split <;> omega
    obtain ⟨floor, found, below⟩ := NumberedTable.lt_newestFloor member nonzero
    have same : store.pruneKeepFloorSeq keepRecent = some floor := (if_neg unlimited).trans found
    rw [same, ← newer_ge_iff rowids member keepRecent, ← below]
    constructor
    · intro all
      exact all floor rfl
    · intro less _ equal
      cases equal
      exact less

/-- The `WHERE` clause selects exactly the rows that `prune` is meant to delete. -/
theorem pruneSelects_iff {store : LocalStore} (rowids : store.entries.sequence ≤ maxRowid)
    (cutoffUnix : Int) (keepRecent : UInt64) {row : IngestRow} (member : row ∈ store.entries.rows) :
    pruneSelects cutoffUnix (store.pruneKeepFloorSeq keepRecent) store.prunePushedFloorSeq row = true ↔
      store.Prunable cutoffUnix keepRecent row := by
  unfold Prunable pruneSelects
  rw [← pushedFloor_iff, ← keepFloor_iff rowids member]
  cases store.pruneKeepFloorSeq keepRecent <;> cases store.prunePushedFloorSeq <;>
    simp [and_assoc]

/-- What a prune reports: the `COUNT` it ran, and as many deletions unless it was a dry run. -/
theorem pruneEntriesOlderThan_stats (store : LocalStore) (cutoffUnix : Int) (keepRecent : UInt64)
    (dryRun : Bool) :
    let matched := store.pruneCount
      (pruneSelects cutoffUnix (store.pruneKeepFloorSeq keepRecent) store.prunePushedFloorSeq)
    (store.pruneEntriesOlderThan cutoffUnix keepRecent dryRun).1 =
      ⟨matched, if dryRun then 0 else matched⟩ := by
  intro matched
  cases dryRun
  · simp only [pruneEntriesOlderThan, Bool.false_or, decide_eq_true_eq, Bool.false_eq_true, ite_false]
    split
    · rename_i none
      show (⟨matched, 0⟩ : PruneStats) = ⟨matched, matched⟩
      rw [show matched = 0 from none]
    · rfl
  · rfl

theorem pruneEntriesOlderThan_nothing {store : LocalStore} {cutoffUnix : Int} {keepRecent : UInt64}
    (none : store.pruneCount
      (pruneSelects cutoffUnix (store.pruneKeepFloorSeq keepRecent) store.prunePushedFloorSeq) = 0)
    (dryRun : Bool) : store.pruneEntriesOlderThan cutoffUnix keepRecent dryRun = (⟨0, 0⟩, store) := by
  unfold pruneEntriesOlderThan
  dsimp only
  rw [none]
  simp

/-! The same, in terms of what the prune is for. -/

theorem pruneCount_eq {store : LocalStore} (rowids : store.entries.sequence ≤ maxRowid)
    (cutoffUnix : Int) (keepRecent : UInt64) :
    store.pruneCount (pruneSelects cutoffUnix (store.pruneKeepFloorSeq keepRecent)
        store.prunePushedFloorSeq) =
      (store.entries.rows.filter fun row => decide (store.Prunable cutoffUnix keepRecent row)).length := by
  unfold pruneCount
  apply congrArg
  apply List.filter_congr
  intro row member
  rw [Bool.eq_iff_iff, decide_eq_true_iff]
  exact pruneSelects_iff rowids cutoffUnix keepRecent member

theorem pruned_rows {store : LocalStore} (rowids : store.entries.sequence ≤ maxRowid)
    (cutoffUnix : Int) (keepRecent : UInt64) :
    (store.pruneEntriesOlderThan cutoffUnix keepRecent false).2.entries.rows =
      store.entries.rows.filter fun row => !decide (store.Prunable cutoffUnix keepRecent row) := by
  rw [pruneEntriesOlderThan_rows]
  apply List.filter_congr
  intro row member
  apply congrArg
  rw [Bool.eq_iff_iff, decide_eq_true_iff]
  exact pruneSelects_iff rowids cutoffUnix keepRecent member

/-- A prune that has run leaves nothing for the same prune to delete. -/
theorem not_prunable_again {store after : LocalStore} {cutoffUnix : Int} {keepRecent : UInt64}
    (rows : after.entries.rows =
      store.entries.rows.filter fun row => !decide (store.Prunable cutoffUnix keepRecent row))
    (pushed : after.peerPushState = store.peerPushState) {row : IngestRow}
    (member : row ∈ after.entries.rows) : ¬ after.Prunable cutoffUnix keepRecent row := by
  intro selected
  have fewer : after.entries.newer row ≤ store.entries.newer row := by
    unfold NumberedTable.newer
    rw [rows]
    exact (List.filter_sublist.filter _).length_le
  have again : store.Prunable cutoffUnix keepRecent row := by
    rw [Prunable, pushed] at selected
    exact ⟨selected.1, selected.2.1.trans fewer, selected.2.2⟩
  rw [rows] at member
  have kept := (List.mem_filter.mp member).2
  simp [again] at kept

@[simp] theorem pruneEntriesOlderThan_sequence (store : LocalStore) (cutoffUnix : Int)
    (keepRecent : UInt64) (dryRun : Bool) :
    (store.pruneEntriesOlderThan cutoffUnix keepRecent dryRun).2.entries.sequence =
      store.entries.sequence := by
  rcases store.pruneEntriesOlderThan_cases cutoffUnix keepRecent dryRun with h | h <;> rw [h]
  rfl

@[simp] theorem pruneEntriesOlderThan_peerState (store : LocalStore) (cutoffUnix : Int)
    (keepRecent : UInt64) (dryRun : Bool) :
    (store.pruneEntriesOlderThan cutoffUnix keepRecent dryRun).2.peerState = store.peerState := by
  rcases store.pruneEntriesOlderThan_cases cutoffUnix keepRecent dryRun with h | h <;> rw [h]
  rfl

@[simp] theorem pruneEntriesOlderThan_peerBook (store : LocalStore) (cutoffUnix : Int)
    (keepRecent : UInt64) (dryRun : Bool) :
    (store.pruneEntriesOlderThan cutoffUnix keepRecent dryRun).2.peerBook = store.peerBook := by
  rcases store.pruneEntriesOlderThan_cases cutoffUnix keepRecent dryRun with h | h <;> rw [h]
  rfl

theorem pruned_again {store : LocalStore} (rowids : store.entries.sequence ≤ maxRowid)
    (cutoffUnix : Int) (keepRecent : UInt64) (dryRun : Bool) :
    let pruned := (store.pruneEntriesOlderThan cutoffUnix keepRecent false).2
    pruned.pruneEntriesOlderThan cutoffUnix keepRecent dryRun = (⟨0, 0⟩, pruned) := by
  intro pruned
  have same_sequence : pruned.entries.sequence = store.entries.sequence :=
    store.pruneEntriesOlderThan_sequence cutoffUnix keepRecent false
  have same_cursors : pruned.peerPushState = store.peerPushState :=
    store.pruneEntriesOlderThan_peerPushState cutoffUnix keepRecent false
  apply pruneEntriesOlderThan_nothing
  rw [pruneCount_eq (same_sequence ▸ rowids), List.length_eq_zero_iff, List.filter_eq_nil_iff]
  intro row member selected
  exact not_prunable_again (pruned_rows rowids cutoffUnix keepRecent) same_cursors member
    (of_decide_eq_true selected)

end LocalStore

open LocalStore

/-- Everything one prune does, in terms of the rows it is meant to delete. -/
structure PrunesExactly (store : LocalStore) (cutoffUnix : Int) (keepRecent : UInt64)
    (matched : Nat) (pruned : LocalStore) : Prop where
  applied : store.pruneEntriesOlderThan cutoffUnix keepRecent false = (⟨matched, matched⟩, pruned)
  counted : matched =
    (store.entries.rows.filter fun row => decide (store.Prunable cutoffUnix keepRecent row)).length
  survivors : pruned.entries.rows =
    store.entries.rows.filter fun row => !decide (store.Prunable cutoffUnix keepRecent row)
  peerState : pruned.peerState = store.peerState
  peerPushState : pruned.peerPushState = store.peerPushState
  peerBook : pruned.peerBook = store.peerBook
  dryRun : store.pruneEntriesOlderThan cutoffUnix keepRecent true = (⟨matched, 0⟩, store)
  again : pruned.pruneEntriesOlderThan cutoffUnix keepRecent false = (⟨0, 0⟩, pruned)

/-- A prune deletes exactly the rows it is meant to delete, and reports their number. -/
theorem prune_exact (store : LocalStore) (rowids : store.entries.sequence ≤ maxRowid)
    (cutoffUnix : Int) (keepRecent : UInt64) :
    ∃ matched pruned, PrunesExactly store cutoffUnix keepRecent matched pruned := by
  let matched := store.pruneCount
    (pruneSelects cutoffUnix (store.pruneKeepFloorSeq keepRecent) store.prunePushedFloorSeq)
  refine ⟨matched, (store.pruneEntriesOlderThan cutoffUnix keepRecent false).2, ?_⟩
  exact {
    applied := Prod.ext (store.pruneEntriesOlderThan_stats cutoffUnix keepRecent false) rfl
    counted := pruneCount_eq rowids cutoffUnix keepRecent
    survivors := pruned_rows rowids cutoffUnix keepRecent
    peerState := by simp
    peerPushState := by simp
    peerBook := by simp
    dryRun := rfl
    again := pruned_again rowids cutoffUnix keepRecent false }

theorem prune_exact_echo :
    (opened.inserted [firstEcho, secondEcho]).entries.sequence ≤ maxRowid ∧
      ∃ matched pruned, PrunesExactly (opened.inserted [firstEcho, secondEcho]) 100 1 matched pruned :=
  ⟨by decide, prune_exact _ (by decide) 100 1⟩

/-! What `list_recent` shows after a prune. -/

namespace LocalStore

/-- No row that `list_recent` shows is one that the prune deletes. -/
def RecentKept (store : LocalStore) (cutoffUnix : Int) (limit : UInt64) : Prop :=
  ∀ row ∈ store.entries.rows, row.val ∈ store.recentRows limit → ¬ store.Prunable cutoffUnix limit row

theorem mem_values_pruned {store : LocalStore} (rowids : store.entries.sequence ≤ maxRowid)
    {cutoffUnix : Int} {keepRecent : UInt64} {value : EntryRow} :
    value ∈ (store.pruneEntriesOlderThan cutoffUnix keepRecent false).2.values ↔
      ∃ row ∈ store.entries.rows, row.val = value ∧ ¬ store.Prunable cutoffUnix keepRecent row := by
  rw [mem_values, pruned_rows rowids]
  simp only [List.mem_filter, Bool.not_eq_true', decide_eq_false_iff_not, and_assoc]
  apply exists_congr
  intro row
  exact and_congr_right fun _ => and_comm

theorem recentRows_pruned_iff {store : LocalStore} (rowids : store.entries.sequence ≤ maxRowid)
    (cutoffUnix : Int) (limit : UInt64) :
    (store.pruneEntriesOlderThan cutoffUnix limit false).2.recentRows limit = store.recentRows limit ↔
      store.RecentKept cutoffUnix limit := by
  let pruned := (store.pruneEntriesOlderThan cutoffUnix limit false).2
  have kept : ∀ value, value ∈ pruned.values ↔
      value ∈ store.values ∧ decide (value ∈ pruned.values) = true := by
    intro value
    rw [decide_eq_true_iff, iff_and_self]
    intro survives
    obtain ⟨row, member, same, -⟩ := (mem_values_pruned rowids).mp survives
    exact mem_values.mpr ⟨row, member, same⟩
  have shown : (∀ value ∈ store.recentRows limit, decide (value ∈ pruned.values) = true) ↔
      store.RecentKept cutoffUnix limit := by
    constructor
    · intro all row member listed
      obtain ⟨other, held, same, survives⟩ :=
        (mem_values_pruned rowids).mp (of_decide_eq_true (all row.val listed))
      have equal : other = row := NumberedTable.eq_of_key held member (congrArg EntryRow.entryId same)
      exact equal ▸ survives
    · intro all value listed
      obtain ⟨row, member, rfl⟩ := mem_values.mp (mem_recentRows listed)
      exact decide_eq_true ((mem_values_pruned rowids).mpr ⟨row, member, rfl, all row member listed⟩)
  rw [recentRows_kept limit kept, ← shown]
  exact limitRows_filter

end LocalStore

/-- What `list_recent` returns before the prune, it returns after it. -/
def ListsTheSame (store : LocalStore) (cutoffUnix : Int) (limit : UInt64) : Prop :=
  ∀ entries, store.listRecent limit = .ok entries →
    (store.pruneEntriesOlderThan cutoffUnix limit false).2.listRecent limit = .ok entries

/-- A prune that keeps the `limit` newest rows leaves the list of the `limit` most recent ones
    alone exactly when it deletes none of them. -/
theorem lists_the_same_iff (store : LocalStore) (rowids : store.entries.sequence ≤ maxRowid)
    (cutoffUnix : Int) (limit : UInt64) :
    ListsTheSame store cutoffUnix limit ↔
      ((∃ value ∈ store.recentRows limit, ¬ value.Readable) ∨ store.RecentKept cutoffUnix limit) := by
  by_cases readable : ∀ value ∈ store.recentRows limit, value.Readable
  · have every : ¬ ∃ value ∈ store.recentRows limit, ¬ value.Readable := by
      simpa using readable
    rw [or_iff_right every, ← recentRows_pruned_iff rowids]
    constructor
    · intro same
      obtain ⟨entries, listed⟩ := mapM_rowToEntry_readable.mpr readable
      have before := mapM_rowToEntry_rows listed
      have after := mapM_rowToEntry_rows (same entries listed)
      exact after.symm.trans before
    · intro equal entries listed
      unfold listRecent
      rw [equal]
      exact listed
  · have unreadable : ∃ value ∈ store.recentRows limit, ¬ value.Readable := by
      simpa using readable
    apply iff_of_true _ (Or.inl unreadable)
    intro entries listed
    exact absurd (mapM_rowToEntry_readable.mp ⟨entries, listed⟩) readable

theorem lists_the_same_echo :
    (opened.inserted [firstEcho, secondEcho]).entries.sequence ≤ maxRowid ∧
      (ListsTheSame (opened.inserted [firstEcho, secondEcho]) 100 1 ↔
        ((∃ value ∈ (opened.inserted [firstEcho, secondEcho]).recentRows 1, ¬ value.Readable) ∨
          (opened.inserted [firstEcho, secondEcho]).RecentKept 100 1)) :=
  ⟨by decide, lists_the_same_iff _ (by decide) 100 1⟩

/-- An older entry that arrives after the most recent one takes its place among the kept rows. -/
theorem late_arrival_unlists_recent :
    ¬ ∀ (ops : List StoreOp) (store : LocalStore), Run StoreStep opened ops store →
      ∀ (cutoffUnix : Int) (limit : UInt64), 1 ≤ limit → ListsTheSame store cutoffUnix limit := by
  intro same
  have recent := same [.insert [secondEcho] noFaults, .insert [firstEcho] noFaults] _
    (.cons rfl (.cons rfl (.nil _))) 100 1 (by decide)
  have listed := recent [secondEcho] (by decide)
  revert listed
  decide

end Rustory
