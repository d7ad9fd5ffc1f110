import Mathlib.Data.List.Dedup
import Rustory.Foundations.Sorted
import Rustory.Storage.Store

namespace Rustory.LocalStore

open Foundations

/-- `row_to_peer_book_peer` -/
def rowToPeerBookPeer (entry : Sigma fun _ : String => PeerBookRow) : PeerBookPeer :=
  ⟨entry.fst, entry.snd.addrs, entry.snd.userId, entry.snd.deviceId, entry.snd.lastSeen⟩

def bookPeers (store : LocalStore) : List PeerBookPeer := store.peerBook.entries.map rowToPeerBookPeer

/-- `user_id = ?`, which no NULL meets, and `last_seen >= ?`. -/
def bookMatches (userId : Option String) (minLastSeenUnix : Int) (peer : PeerBookPeer) : Bool :=
  (userId.isNone || peer.userId == userId) && decide (minLastSeenUnix ≤ peer.lastSeenUnix)

/-- `ORDER BY last_seen DESC, peer_id ASC` -/
def seenFirst (a b : PeerBookPeer) : Prop :=
  b.lastSeenUnix < a.lastSeenUnix ∨ (a.lastSeenUnix = b.lastSeenUnix ∧ a.peerId ≤ b.peerId)

instance : DecidableRel seenFirst := fun _ _ => inferInstanceAs (Decidable (_ ∨ _))

def listPeerBook (store : LocalStore) (userId : Option String) (minLastSeenUnix : Int) (limit : UInt64) :
    List PeerBookPeer :=
  limitRows (asI64 limit)
    ((store.bookPeers.filter (bookMatches userId minLastSeenUnix)).insertionSort seenFirst)

theorem seenFirst_total (a b : PeerBookPeer) : seenFirst a b ∨ seenFirst b a := by
  unfold seenFirst
  rcases lt_trichotomy a.lastSeenUnix b.lastSeenUnix with earlier | same | later
  · exact Or.inr (Or.inl earlier)
  · rcases le_total a.peerId b.peerId with le | ge
    · exact Or.inl (Or.inr ⟨same, le⟩)
    · exact Or.inr (Or.inr ⟨same.symm, ge⟩)
  · exact Or.inl (Or.inl later)

theorem seenFirst_trans {a b c : PeerBookPeer} (first : seenFirst a b) (second : seenFirst b c) :
    seenFirst a c := by
  unfold seenFirst at *
  rcases first with later | ⟨same, le⟩
  · rcases second with later' | ⟨same', _⟩
    · exact Or.inl (later'.trans later)
    · exact Or.inl (same' ▸ later)
  · rcases second with later' | ⟨same', le'⟩
    · exact Or.inl (same ▸ later')
    · exact Or.inr ⟨same.trans same', le.trans le'⟩

theorem seenFirst_antisymm {a b : PeerBookPeer} (first : seenFirst a b) (second : seenFirst b a) :
    a.peerId = b.peerId := by
  unfold seenFirst at *
  rcases first with later | ⟨same, le⟩
  · rcases second with later' | ⟨same', _⟩ <;> omega
  · rcases second with later' | ⟨_, ge⟩
    · omega
    · exact le_antisymm le ge

instance : Std.Total seenFirst := ⟨seenFirst_total⟩
instance : IsTrans PeerBookPeer seenFirst := ⟨fun _ _ _ => seenFirst_trans⟩

variable {store : LocalStore} {userId : Option String} {minLastSeenUnix : Int} {limit : UInt64}
  {peer added : PeerBookPeer}

theorem bookPeers_ids_nodup (store : LocalStore) : (store.bookPeers.map PeerBookPeer.peerId).Nodup := by
  unfold bookPeers
  rw [List.map_map]
  exact AList.keys_nodup store.peerBook

theorem mem_bookPeers :
    peer ∈ store.bookPeers ↔ store.peerBook.lookup peer.peerId =
      some ⟨peer.addrs, peer.userId, peer.deviceId, peer.lastSeenUnix⟩ := by
  unfold bookPeers
  rw [List.mem_map]
  constructor
  · rintro ⟨entry, member, rfl⟩
    exact AList.mem_lookup_iff.mpr member
  · intro found
    exact ⟨⟨peer.peerId, _⟩, AList.mem_lookup_iff.mp found, rfl⟩

theorem mem_bookPeers_upsert :
    peer ∈ (store.upsertPeerBook added).bookPeers ↔
      peer = added ∨ (peer.peerId ≠ added.peerId ∧ peer ∈ store.bookPeers) := by
  rw [mem_bookPeers, mem_bookPeers]
  unfold upsertPeerBook
  by_cases same : peer.peerId = added.peerId
  · rw [same, AList.lookup_insert]
    obtain ⟨peerId, addrs, userId, deviceId, lastSeenUnix⟩ := peer
    obtain ⟨peerId', addrs', userId', deviceId', lastSeenUnix'⟩ := added
    simp_all [eq_comm]
  · rw [AList.lookup_insert_ne same]
    have other : peer ≠ added := fun equal => same (congrArg _ equal)
    simp [same, other]

theorem mem_listPeerBook (listed : peer ∈ store.listPeerBook userId minLastSeenUnix limit) :
    peer ∈ store.bookPeers ∧ bookMatches userId minLastSeenUnix peer = true :=
  List.mem_filter.mp ((List.mem_insertionSort _).mp ((limitRows_initial _ _).subset listed))

/-- A peer cached without a user id drops out of the listings of every user, and only that peer. -/
theorem listPeerBook_untagged (untagged : added.userId = none) {user : String} :
    (store.upsertPeerBook added).listPeerBook (some user) minLastSeenUnix limit =
      limitRows (asI64 limit)
        (((store.bookPeers.filter (bookMatches (some user) minLastSeenUnix)).insertionSort seenFirst).filter
          fun peer => decide (peer.peerId ≠ added.peerId)) := by
  unfold listPeerBook
  apply congrArg
  apply insertionSort_filter (List.filter_sublist.map _ |>.nodup store.bookPeers_ids_nodup)
    (fun _ _ => seenFirst_antisymm) ((store.upsertPeerBook added).bookPeers_ids_nodup.of_map.filter _)
  intro peer
  rw [List.mem_filter, List.mem_filter, mem_bookPeers_upsert, decide_eq_true_iff]
  constructor
  · rintro ⟨rfl | ⟨other, member⟩, matching⟩
    · simp [bookMatches, untagged] at matching
    · exact ⟨⟨member, matching⟩, other⟩
  · intro ⟨⟨member, matching⟩, other⟩
    exact ⟨Or.inr ⟨other, member⟩, matching⟩

/-! Who is listed by `list_peer_sync_status`. -/

/-- `list_peer_sync_status` has a line for this key. -/
def Knows (store : LocalStore) (key : String) : Prop :=
  key ∈ store.peerState ∨ key ∈ store.peerPushState ∨ key ∈ store.peerBook

theorem listPeerSyncStatus_ids (store : LocalStore) :
    store.listPeerSyncStatus.map PeerSyncStatus.peerId =
      ((store.peerState.keys ++ store.peerPushState.keys ++ store.peerBook.keys).dedup).insertionSort (· ≤ ·) := by
  unfold listPeerSyncStatus
  rw [List.map_map]
  exact List.map_id _

theorem mem_statusIds {key : String} : key ∈ store.listPeerSyncStatus.map PeerSyncStatus.peerId ↔ store.Knows key := by
  rw [listPeerSyncStatus_ids, List.mem_insertionSort, List.mem_dedup, List.mem_append, List.mem_append, or_assoc]
  rfl

theorem statusIds_nodup (store : LocalStore) : (store.listPeerSyncStatus.map PeerSyncStatus.peerId).Nodup := by
  rw [listPeerSyncStatus_ids]
  exact (List.perm_insertionSort _ _).nodup_iff.mpr (List.nodup_dedup _)

end Rustory.LocalStore
