import Rustory.Storage.History

namespace Rustory

open Foundations LocalStore

/-- A prune keeps the queue of every peer that has a push cursor. A known peer without one is
    counted from 0, and its queue loses the device's rows that the prune deletes. -/
theorem pending_kept_by_prune (store : LocalStore) (peerId deviceId : String) (cutoffUnix : Int)
    (keepRecent : UInt64) :
    let pruned := (store.pruneEntriesOlderThan cutoffUnix keepRecent false).2
    ((store.getLastPushedSeqOpt peerId).isSome →
      pruned.countPendingPushEntries peerId (some deviceId) =
        store.countPendingPushEntries peerId (some deviceId)) ∧
    (store.getLastPushedSeqOpt peerId = none →
      pruned.countPendingPushEntries peerId (some deviceId) +
          (store.entries.rows.filter fun row =>
            decide (row ∉ pruned.entries.rows) && ofDevice deviceId row.val).length =
        store.countPendingPushEntries peerId (some deviceId)) := by
  intro pruned
  have split := store.pending_pruned cutoffUnix keepRecent false peerId deviceId
  constructor
  · intro known
    obtain ⟨seq, cursor⟩ := Option.isSome_iff_exists.mp known
    have lost : (store.entries.rows.filter fun row => decide (row ∉ pruned.entries.rows) &&
        (decide (store.getLastPushedSeq peerId < row.seq) && ofDevice deviceId row.val)) = [] := by
      rw [List.filter_eq_nil_iff]
      intro row member pending
      simp only [Bool.and_eq_true, decide_eq_true_eq, getLastPushedSeq, cursor, Option.getD_some]
        at pending
      have := pruned_pushed member pending.1 cursor
      omega
    rw [lost] at split
    exact split
  · intro unknown
    rw [← split]
    congr 2
    apply List.filter_congr
    intro row member
    have positive := (store.entries.numbered row member).1
    simp [pruned, getLastPushedSeq, unknown, positive]

def trackedPeer : PeerBookPeer := ⟨"peer-a", [], some "user1", some "dev2", 100⟩

/-- A peer known from the peer book alone loses its queue to a prune. -/
theorem pending_lost_by_prune :
    ¬ ∀ (ops : List StoreOp) (store : LocalStore), Run StoreStep opened ops store →
      ∀ peerId ∈ store.listPeerSyncStatus.map PeerSyncStatus.peerId,
      ∀ (deviceId : String) (cutoffUnix : Int) (keepRecent : UInt64),
        (store.pruneEntriesOlderThan cutoffUnix keepRecent false).2.countPendingPushEntries peerId
          (some deviceId) = store.countPendingPushEntries peerId (some deviceId) := by
  intro kept
  have count := kept [.insert [firstEcho] noFaults, .upsertPeerBook trackedPeer] _
    (.cons rfl (.cons rfl (.nil _))) "peer-a" (by decide) "dev1" 100 0
  revert count
  decide

end Rustory
