import Rustory.P2p.TrackerMerge

namespace Rustory

open Foundations LocalStore

section

variable {PeerId : Type}

/-- A row of the peer book that a sync of this configuration can use. -/
structure Usable (libs : P2pLibs PeerId) (cfg : SyncConfig PeerId) (now : OffsetDateTime) (peer : PeerBookPeer) :
    Prop where
  peerId : ∃ peerId, libs.parsePeerId peer.peerId = .ok peerId
  userId : cfg.userId = none ∨ peer.userId = cfg.userId
  recent : now.unixTimestamp - peerBookMaxAgeSecs ≤ peer.lastSeenUnix
  otherDevice : cfg.deviceId = none ∨ peer.deviceId ≠ cfg.deviceId

/-- A tracker lists the peer, or it was cached before. -/
def Known (calls : TrackerCalls) (cfg : SyncConfig PeerId) (store : LocalStore) (p : PeerInfo) : Prop :=
  (∃ tracker ∈ cfg.trackers.zipIdx, ∃ list,
    calls tracker.2 (TrackerClient.new tracker.1 cfg.trackerToken) cfg.userId = .ok list ∧ p ∈ list.peers) ∨
  ∃ peer ∈ store.bookPeers, p = cachedInfo peer

/-- Discovery returned targets, all of them other devices. -/
def FindsOthers (libs : P2pLibs PeerId) (calls : TrackerCalls) (cfg : SyncConfig PeerId) (store : LocalStore)
    (relayAddr : Multiaddr PeerId) (result : Except Error (List (SyncTarget PeerId))) : Prop :=
  ∃ targets, result = .ok targets ∧ targets ≠ [] ∧
    ∀ target ∈ targets, ∃ p, Known calls cfg store p ∧ MadeFrom libs relayAddr p target ∧
      (cfg.deviceId = none ∨ infoDeviceId p ≠ cfg.deviceId)

variable {libs : P2pLibs PeerId} {cfg : SyncConfig PeerId} {calls : TrackerCalls} {store : LocalStore}
  {now : OffsetDateTime} {relayAddr : Multiaddr PeerId} {peer : PeerBookPeer}

theorem isSelf_false_iff {deviceId : Option String} :
    isSelf cfg deviceId = false ↔ cfg.deviceId = none ∨ deviceId ≠ cfg.deviceId := by
  unfold isSelf
  cases cfg.deviceId with
  | none => simp
  | some device => simp

theorem trackerPeers_known {p : PeerInfo} (listed : p ∈ trackerPeers calls cfg) : Known calls cfg store p := by
  obtain ⟨tracker, asked, inside⟩ := List.mem_flatMap.mp listed
  revert inside
  cases answer : calls tracker.2 (TrackerClient.new tracker.1 cfg.trackerToken) cfg.userId with
  | error err => exact fun none => absurd none List.not_mem_nil
  | ok list =>
    intro inside
    exact Or.inl ⟨tracker, asked, list, answer, (List.mem_filter.mp inside).1⟩

/-- Every usable row is within the limit of the listing. -/
theorem Usable.listed (usable : Usable libs cfg now peer) (cached : peer ∈ store.bookPeers)
    (few : store.bookPeers.length ≤ 1000) : peer ∈ fallbackPeers cfg now store := by
  have matching : bookMatches cfg.userId (now.unixTimestamp - peerBookMaxAgeSecs) peer = true := by
    unfold bookMatches
    rw [Bool.and_eq_true, Bool.or_eq_true, decide_eq_true_iff, Option.isNone_iff_eq_none, beq_iff_eq]
    exact ⟨usable.userId, usable.recent⟩
  have limit : asI64 peerBookLimit = 1000 := by decide
  unfold fallbackPeers listPeerBook limitRows
  rw [limit, if_neg (by decide), List.take_of_length_le]
  · exact (List.mem_insertionSort _).mpr (List.mem_filter.mpr ⟨cached, matching⟩)
  · rw [List.length_insertionSort]
    exact (List.length_filter_le _ _).trans few

theorem finishDiscovery_ok {out targets : List (SyncTarget PeerId)} :
    finishDiscovery out = .ok targets ↔ out = targets ∧ targets ≠ [] := by
  unfold finishDiscovery
  cases out with
  | nil =>
    simp only [List.isEmpty_nil, if_true, reduceCtorEq, false_iff]
    intro ⟨empty, filled⟩
    exact filled empty.symm
  | cons target rest =>
    simp only [List.isEmpty_cons, Bool.false_eq_true, if_false, Except.ok.injEq]
    constructor
    · intro same
      rw [← same]
      exact ⟨rfl, by simp⟩
    · exact fun same => same.1

theorem fallbackTarget_made {target : SyncTarget PeerId}
    (found : target ∈ ((fallbackPeers cfg now store).foldl (addCached cfg) ∅).entries.filterMap
      (discoveredTarget libs cfg relayAddr)) :
    ∃ p, Known calls cfg store p ∧ MadeFrom libs relayAddr p target ∧ isSelf cfg (infoDeviceId p) = false := by
  obtain ⟨entry, inside, given⟩ := List.mem_filterMap.mp found
  rcases addCached_entries inside with none | ⟨peer, listed, remote, rfl⟩
  · cases none
  · have cached : peer ∈ store.bookPeers := (mem_listPeerBook listed).1
    have other : isSelf cfg (infoDeviceId (cachedInfo peer)) = false := remote
    exact ⟨cachedInfo peer, Or.inr ⟨peer, cached, rfl⟩, (discoveredTarget_remote other).mp given, other⟩

/-- With nothing listed by the trackers, the usable row is a target. -/
theorem discoverListed_cached (usable : Usable libs cfg now peer) (cached : peer ∈ store.bookPeers)
    (few : store.bookPeers.length ≤ 1000) :
    FindsOthers libs calls cfg store relayAddr (discoverListed libs cfg now relayAddr store []).1 := by
  obtain ⟨peerId, parsed⟩ := usable.peerId
  have remote := isSelf_false_iff.mpr usable.otherDevice
  obtain ⟨target, found, -⟩ := (@mem_fallbackTargets _ libs cfg store now relayAddr peerId).mpr
    ⟨peer, usable.listed cached few, remote, parsed⟩
  obtain ⟨entry, inside, -⟩ := List.mem_filterMap.mp found
  have filled : ((fallbackPeers cfg now store).foldl (addCached cfg) ∅).entries.isEmpty = false :=
    List.isEmpty_eq_false_iff.mpr (List.ne_nil_of_mem inside)
  unfold discoverListed
  simp only [List.isEmpty_nil, if_true, filled, Bool.false_eq_true, if_false]
  refine ⟨_, finishDiscovery_ok.mpr ⟨rfl, List.ne_nil_of_mem found⟩, List.ne_nil_of_mem found, ?_⟩
  intro other member
  obtain ⟨p, known, made, device⟩ := fallbackTarget_made member
  exact ⟨p, known, made, isSelf_false_iff.mp device⟩

/-- What the trackers list decides alone: a target is found for each peer id that can be read. -/
theorem discoverListed_tracked (listed : trackerPeers calls cfg ≠ []) :
    FindsOthers libs calls cfg store relayAddr
        (discoverListed libs cfg now relayAddr store (trackerPeers calls cfg)).1 ↔
      ∃ p ∈ trackerPeers calls cfg, ∃ peerId, libs.parsePeerId p.peerId = .ok peerId := by
  have filled : (trackerPeers calls cfg).isEmpty = false := by simpa using listed
  have mem_out : ∀ target, _ ↔ _ := fun target =>
    @mem_listedTargets _ libs cfg relayAddr (trackerPeers calls cfg) (fun p => trackerPeers_remote) target
  unfold discoverListed
  simp only [filled, Bool.false_eq_true, if_false]
  constructor
  · intro ⟨targets, ok, some_target, _⟩
    obtain ⟨out, -⟩ := finishDiscovery_ok.mp ok
    obtain ⟨target, member⟩ := List.exists_mem_of_ne_nil _ some_target
    rw [← out, mem_out] at member
    obtain ⟨p, first, made⟩ := member
    exact ⟨p, (firstAt_some first).1, target.peerId, made.peerId⟩
  · intro ⟨q, inside, peerId, parsed⟩
    have listing : (firstAt PeerInfo.peerId (trackerPeers calls cfg) q.peerId).isSome :=
      firstAt_isSome.mpr ⟨q, inside, rfl⟩
    obtain ⟨p, first⟩ := Option.isSome_iff_exists.mp listing
    obtain ⟨-, same⟩ := firstAt_some first
    have found := (mem_out ⟨peerId, p.peerId, directCandidateAddrsFromTracker libs p.addrs, some relayAddr⟩).mpr
      ⟨p, same ▸ first, rfl, same ▸ parsed, rfl, rfl⟩
    refine ⟨_, finishDiscovery_ok.mpr ⟨rfl, List.ne_nil_of_mem found⟩, List.ne_nil_of_mem found, ?_⟩
    intro target member
    obtain ⟨p, first, made⟩ := (mem_out target).mp member
    have member := (firstAt_some first).1
    exact ⟨p, trackerPeers_known member, made, isSelf_false_iff.mp (trackerPeers_remote member)⟩

end

/-- A usable cached peer is enough unless the trackers list other devices, none of which has a peer id that
    can be read. -/
theorem cached_peer_found_iff {PeerId : Type} {libs : P2pLibs PeerId} {cfg : SyncConfig PeerId}
    {calls : TrackerCalls} {store : LocalStore} {now : OffsetDateTime} {relayAddr : Multiaddr PeerId}
    {peer : PeerBookPeer} (tracked : cfg.trackers ≠ []) (relay : cfg.relayAddr = some relayAddr)
    (few : store.bookPeers.length ≤ 1000) (cached : peer ∈ store.bookPeers) (usable : Usable libs cfg now peer) :
    FindsOthers libs calls cfg store relayAddr (discoverTargets libs calls store cfg now).1 ↔
      (trackerPeers calls cfg ≠ [] →
        ∃ p ∈ trackerPeers calls cfg, ∃ peerId, libs.parsePeerId p.peerId = .ok peerId) := by
  rw [discoverTargets_eq tracked relay]
  by_cases listed : trackerPeers calls cfg = []
  · rw [listed]
    simp only [ne_eq, not_true_eq_false, false_implies, iff_true]
    exact discoverListed_cached usable cached few
  · rw [discoverListed_tracked listed]
    simp [listed]

theorem cachedRemote_usable : Usable echoLibs echoConfig (.atSecond 3) cachedRemote where
  peerId := ⟨.remote, rfl⟩
  userId := Or.inr rfl
  recent := by decide
  otherDevice := Or.inr (by decide)

theorem cached_peer_found_refused :
    FindsOthers echoLibs refusedCalls echoConfig (opened.upsertPeerBook cachedRemote) relayMultiaddr
      (discoverTargets echoLibs refusedCalls (opened.upsertPeerBook cachedRemote) echoConfig (.atSecond 3)).1 :=
  (cached_peer_found_iff (by decide) rfl (by decide) (by decide) cachedRemote_usable).mpr
    fun listed => absurd rfl listed

/-- The tracker lists another device under an id that is none. -/
def garbledCalls : TrackerCalls := fun _ _ _ =>
  .ok ⟨[⟨"not-a-peer-id", [], some ⟨some "dev-garbled", none, some "u1", none⟩, 1⟩]⟩

/-- The cached peer is not tried when the tracker lists something else. -/
theorem cached_peer_not_tried :
    cachedRemote ∈ (opened.upsertPeerBook cachedRemote).bookPeers ∧
      (opened.upsertPeerBook cachedRemote).bookPeers.length ≤ 1000 ∧
      Usable echoLibs echoConfig (.atSecond 3) cachedRemote ∧
      ¬ FindsOthers echoLibs garbledCalls echoConfig (opened.upsertPeerBook cachedRemote) relayMultiaddr
        (discoverTargets echoLibs garbledCalls (opened.upsertPeerBook cachedRemote) echoConfig (.atSecond 3)).1 := by
  refine ⟨by decide, by decide, cachedRemote_usable, ?_⟩
  have only : trackerPeers garbledCalls echoConfig =
      [⟨"not-a-peer-id", [], some ⟨some "dev-garbled", none, some "u1", none⟩, 1⟩] := by decide
  rw [discoverTargets_eq (by decide) rfl, discoverListed_tracked (by rw [only]; simp), only]
  intro found
  obtain ⟨p, member, peerId, parsed⟩ := found
  rw [List.mem_singleton.mp member] at parsed
  cases parsed

end Rustory
