import Rustory.P2p.Discovery

namespace Rustory

open Foundations LocalStore

/-- Discovery returned a target for this peer. -/
def Finds {PeerId : Type} (result : Except Error (List (SyncTarget PeerId)) × LocalStore) (peerId : PeerId) :
    Prop :=
  ∃ targets, result.1 = .ok targets ∧ ∃ target ∈ targets, target.peerId = peerId

def AllFail (calls : TrackerCalls) : Prop :=
  ∀ index client userId, ∃ err, calls index client userId = .error err

section

variable {PeerId : Type} {libs : P2pLibs PeerId} {cfg : SyncConfig PeerId} {calls : TrackerCalls}
  {store : LocalStore} {now : OffsetDateTime} {relayAddr : Multiaddr PeerId} {peerId : PeerId}

/-! Discovery while every tracker fails. -/

theorem listTrackers_failed (fail : AllFail calls) : listTrackers calls cfg store = (store, ∅) := by
  unfold listTrackers
  generalize cfg.trackers.zipIdx = trackers
  induction trackers with
  | nil => rfl
  | cons tracker rest ih =>
    obtain ⟨err, failed⟩ := fail tracker.2 (TrackerClient.new tracker.1 cfg.trackerToken) cfg.userId
    rw [List.foldl_cons]
    simp only [failed]
    exact ih

theorem addCached_entries {listed : List PeerBookPeer} {byPeer : ByPeer}
    {entry : Sigma fun _ : String => PeerInfo} (member : entry ∈ (listed.foldl (addCached cfg) byPeer).entries) :
    entry ∈ byPeer.entries ∨
      ∃ peer ∈ listed, isSelf cfg peer.deviceId = false ∧ entry = ⟨peer.peerId, cachedInfo peer⟩ := by
  induction listed generalizing byPeer with
  | nil => exact Or.inl member
  | cons peer rest ih =>
    rcases ih member with before | ⟨other, later, found⟩
    · unfold addCached at before
      split at before
      · exact Or.inl before
      · rename_i remote
        rcases List.mem_cons.mp before with rfl | kept
        · exact Or.inr ⟨peer, List.mem_cons_self, by simpa using remote, rfl⟩
        · exact Or.inl ((List.kerase_sublist _ _).subset kept)
    · exact Or.inr ⟨other, List.mem_cons_of_mem _ later, found⟩

theorem addCached_keys {listed : List PeerBookPeer} {byPeer : ByPeer} {key : String}
    (cached : key ∈ byPeer ∨ ∃ peer ∈ listed, isSelf cfg peer.deviceId = false ∧ peer.peerId = key) :
    key ∈ listed.foldl (addCached cfg) byPeer := by
  induction listed generalizing byPeer with
  | nil => simpa using cached
  | cons peer rest ih =>
    apply ih
    unfold addCached
    rcases cached with before | ⟨other, member, remote, same⟩
    · by_cases self : isSelf cfg peer.deviceId = true
      · rw [if_pos self]
        exact Or.inl before
      · rw [if_neg self]
        exact Or.inl (AList.mem_insert _ |>.mpr (Or.inr before))
    · rcases List.mem_cons.mp member with rfl | later
      · rw [remote, if_neg (by simp), ← same]
        exact Or.inl (AList.mem_insert _ |>.mpr (Or.inl rfl))
      · exact Or.inr ⟨other, later, remote, same⟩

theorem discoveredTarget_cached {peer : PeerBookPeer} (remote : isSelf cfg peer.deviceId = false) :
    (∃ target, discoveredTarget libs cfg relayAddr ⟨peer.peerId, cachedInfo peer⟩ = some target ∧
        target.peerId = peerId) ↔ libs.parsePeerId peer.peerId = .ok peerId := by
  have self : isSelf cfg (infoDeviceId (cachedInfo peer)) = false := remote
  unfold discoveredTarget
  rw [self, if_neg (by simp)]
  cases libs.parsePeerId peer.peerId <;> simp

theorem mem_fallbackTargets :
    (∃ target ∈ ((fallbackPeers cfg now store).foldl (addCached cfg) ∅).entries.filterMap
        (discoveredTarget libs cfg relayAddr), target.peerId = peerId) ↔
      ∃ peer ∈ fallbackPeers cfg now store, isSelf cfg peer.deviceId = false ∧
        libs.parsePeerId peer.peerId = .ok peerId := by
  constructor
  · intro ⟨target, member, same⟩
    obtain ⟨entry, inside, given⟩ := List.mem_filterMap.mp member
    rcases addCached_entries inside with none | ⟨peer, listed, remote, rfl⟩
    · cases none
    · exact ⟨peer, listed, remote, (discoveredTarget_cached remote).mp ⟨target, given, same⟩⟩
  · intro ⟨peer, listed, remote, parsed⟩
    have key := @addCached_keys _ cfg (fallbackPeers cfg now store) ∅ _ (Or.inr ⟨peer, listed, remote, rfl⟩)
    obtain ⟨info, inside⟩ := List.exists_of_mem_keys key
    rcases addCached_entries inside with none | ⟨other, -, remote', same⟩
    · cases none
    · have id : other.peerId = peer.peerId := (congrArg Sigma.fst same).symm
      rw [← id] at parsed
      obtain ⟨target, given, found⟩ := (@discoveredTarget_cached _ libs cfg relayAddr _ _ remote').mpr parsed
      rw [← same] at given
      exact ⟨target, List.mem_filterMap.mpr ⟨_, inside, given⟩, found⟩

/-- With every tracker down, discovery finds the peers of the fallback rows. -/
theorem finds_fallback_iff (trackers : cfg.trackers ≠ []) (relay : cfg.relayAddr = some relayAddr)
    (fail : AllFail calls) :
    Finds (discoverTargets libs calls store cfg now) peerId ↔
      ∃ peer ∈ fallbackPeers cfg now store, isSelf cfg peer.deviceId = false ∧
        libs.parsePeerId peer.peerId = .ok peerId := by
  rw [← @mem_fallbackTargets _ libs cfg store now relayAddr]
  have configured : cfg.trackers.isEmpty = false := by simpa using trackers
  have start : (∅ : ByPeer).entries.isEmpty = true := rfl
  unfold discoverTargets Finds
  simp only [configured, relay, listTrackers_failed fail, start, if_true]
  generalize ((fallbackPeers cfg now store).foldl (addCached cfg) ∅).entries = entries
  cases entries with
  | nil => simp
  | cons entry rest =>
    generalize (entry :: rest).filterMap (discoveredTarget libs cfg relayAddr) = out
    cases out <;> simp

/-! What a manual sync leaves in the peer book. -/

theorem migrateCursors_bookPeers (store : LocalStore) (peerKey peerKeyOld : String) :
    (migrateCursors store peerKey peerKeyOld).bookPeers = store.bookPeers := by
  unfold migrateCursors
  dsimp only
  split <;> split <;> rfl

/-- The peer is cached without a user id, if at all. -/
def Untagged (store : LocalStore) (peerKey : String) : Prop :=
  ∀ peer ∈ store.bookPeers, peer.peerId = peerKey → peer.userId = none

/-- The store after one address. -/
def cachedManually (store : LocalStore) (peerKey peerKeyOld : String) (now : OffsetDateTime) : LocalStore :=
  (migrateCursors store peerKey peerKeyOld).upsertPeerBook (manualPeer peerKey peerKeyOld now)

variable {peerKey peerKeyOld key : String}

theorem mem_cachedManually {peer : PeerBookPeer} :
    peer ∈ (cachedManually store peerKey peerKeyOld now).bookPeers ↔
      peer = manualPeer peerKey peerKeyOld now ∨ (peer.peerId ≠ peerKey ∧ peer ∈ store.bookPeers) := by
  unfold cachedManually
  rw [mem_bookPeers_upsert, migrateCursors_bookPeers]
  rfl

theorem cachedManually_untagged : Untagged (cachedManually store peerKey peerKeyOld now) peerKey := by
  intro peer member same
  rcases mem_cachedManually.mp member with rfl | ⟨other, -⟩
  · rfl
  · exact absurd same other

theorem Untagged.manually (untagged : Untagged store key) :
    Untagged (cachedManually store peerKey peerKeyOld now) key := by
  intro peer member same
  rcases mem_cachedManually.mp member with rfl | ⟨-, before⟩
  · rfl
  · exact untagged peer before same

theorem listPeerBook_cachedManually {user : String} {minLastSeenUnix : Int} {limit : UInt64}
    {peer : PeerBookPeer} (listed : peer ∈ store.listPeerBook (some user) minLastSeenUnix limit)
    (other : peer.peerId ≠ peerKey) :
    peer ∈ (cachedManually store peerKey peerKeyOld now).listPeerBook (some user) minLastSeenUnix limit := by
  have rest := @listPeerBook_untagged (migrateCursors store peerKey peerKeyOld) minLastSeenUnix limit
    (manualPeer peerKey peerKeyOld now) rfl user
  unfold cachedManually
  rw [rest, migrateCursors_bookPeers]
  exact mem_limitRows_filter listed (decide_eq_true other)

section

variable {manualRelay : Option (Multiaddr PeerId)} {clock : Nat → OffsetDateTime} {index : Nat} {addr : String}
  {peers rest : List String} {targets : List (SyncTarget PeerId)} {after : LocalStore}

theorem manualTargetsFrom_blank (blank : (trim addr).isEmpty = true) :
    manualTargetsFrom libs manualRelay clock index store (addr :: rest) =
      manualTargetsFrom libs manualRelay clock (index + 1) store rest := by
  rw [manualTargetsFrom]
  exact if_pos blank

theorem manualTargetsFrom_given (given : (trim addr).isEmpty = false) :
    manualTargetsFrom libs manualRelay clock index store (addr :: rest) = (.ok targets, after) ↔
      ∃ peerId baseAddr others, splitPeerMultiaddr libs (trim addr) = .ok (peerId, baseAddr) ∧
        targets = ⟨peerId, libs.peerIdText peerId, [baseAddr], manualRelay⟩ :: others ∧
        manualTargetsFrom libs manualRelay clock (index + 1)
          (cachedManually store (libs.peerIdText peerId) (trim addr) (clock index)) rest = (.ok others, after) := by
  rw [manualTargetsFrom]
  simp only [given, Bool.false_eq_true, if_false]
  cases splitPeerMultiaddr libs (trim addr) with
  | error err => simp
  | ok named =>
    obtain ⟨peerId, baseAddr⟩ := named
    dsimp only
    cases later : manualTargetsFrom libs manualRelay clock (index + 1)
        (cachedManually store (libs.peerIdText peerId) (trim addr) (clock index)) rest with
    | mk out final =>
      unfold cachedManually at later
      rw [later]
      constructor
      · intro built
        cases out with
        | error err => cases built
        | ok others =>
          cases built
          exact ⟨peerId, baseAddr, others, rfl, rfl, later⟩
      · intro ⟨_, _, others, same, all, built⟩
        cases same
        unfold cachedManually at built
        cases later.symm.trans built
        rw [all]
        rfl

/-- Every target of a manual sync is cached without a user id; other peers are listed as before. -/
theorem manualTargetsFrom_book
    (built : manualTargetsFrom libs manualRelay clock index store peers = (.ok targets, after)) :
    (∀ key, Untagged store key → Untagged after key) ∧
      (∀ target ∈ targets, Untagged after target.peerKey ∧ target.peerKey = libs.peerIdText target.peerId) ∧
      ∀ user minLastSeenUnix limit, ∀ peer ∈ store.listPeerBook (some user) minLastSeenUnix limit,
        (∀ target ∈ targets, peer.peerId ≠ target.peerKey) →
          peer ∈ after.listPeerBook (some user) minLastSeenUnix limit := by
  induction peers generalizing index store targets with
  | nil =>
    cases built
    simp
  | cons addr rest ih =>
    cases given : (trim addr).isEmpty with
    | true =>
      rw [manualTargetsFrom_blank given] at built
      exact ih built
    | false =>
      obtain ⟨peerId, baseAddr, others, -, rfl, later⟩ := (manualTargetsFrom_given given).mp built
      obtain ⟨keeps, untagged, listed⟩ := ih later
      refine ⟨fun key before => keeps key before.manually, ?_, ?_⟩
      · intro target member
        rcases List.mem_cons.mp member with rfl | inside
        · exact ⟨keeps _ cachedManually_untagged, rfl⟩
        · exact untagged target inside
      · intro user minLastSeenUnix limit peer member other
        apply listed user minLastSeenUnix limit peer
        · exact listPeerBook_cachedManually member (other _ List.mem_cons_self)
        · exact fun target inside => other target (List.mem_cons_of_mem _ inside)

end

/-- The address is a multiaddr that ends with this peer. -/
structure NamesPeer (libs : P2pLibs PeerId) (addr : String) (peerId : PeerId) : Prop where
  given : (trim addr).isEmpty = false
  names : ∃ baseAddr, splitPeerMultiaddr libs (trim addr) = .ok (peerId, baseAddr)

theorem buildManualTargets_one {addr : String} (named : NamesPeer libs addr peerId) (store : LocalStore)
    (manualRelay : Option (Multiaddr PeerId)) (clock : Nat → OffsetDateTime) :
    ∃ target after, buildManualTargets libs store [addr] manualRelay clock = (.ok [target], after) ∧
      target.peerId = peerId := by
  obtain ⟨given, baseAddr, split⟩ := named
  unfold buildManualTargets manualTargetsFrom
  simp only [given, split, Bool.false_eq_true, if_false]
  exact ⟨_, _, rfl, rfl⟩

/-- Discovery no longer finds this peer, and still finds every other one that it found. -/
structure LosesPeer (before after : Except Error (List (SyncTarget PeerId)) × LocalStore) (peerId : PeerId) :
    Prop where
  lost : ¬ Finds after peerId
  others : ∀ other, other ≠ peerId → Finds before other → Finds after other

theorem discovery_loses {after : LocalStore} {target : SyncTarget PeerId} {user : String} (text : PeerIdText libs)
    (tracked : cfg.trackers ≠ []) (relay : cfg.relayAddr = some relayAddr) (userId : cfg.userId = some user)
    (fail : AllFail calls) {manualRelay : Option (Multiaddr PeerId)} {clock : Nat → OffsetDateTime}
    {peers : List String} (built : buildManualTargets libs store peers manualRelay clock = (.ok [target], after)) :
    LosesPeer (discoverTargets libs calls store cfg now) (discoverTargets libs calls after cfg now)
      target.peerId := by
  obtain ⟨-, untagged, listed⟩ := manualTargetsFrom_book built
  obtain ⟨untagged, key⟩ := untagged target List.mem_cons_self
  constructor
  · rw [finds_fallback_iff tracked relay fail]
    intro found
    obtain ⟨peer, member, -, parsed⟩ := found
    unfold fallbackPeers at member
    rw [userId] at member
    obtain ⟨cached, matching⟩ := mem_listPeerBook member
    have none := untagged peer cached ((text.unique _ _ parsed).trans key.symm)
    simp [bookMatches, none] at matching
  · intro other different
    rw [finds_fallback_iff tracked relay fail, finds_fallback_iff tracked relay fail]
    intro found
    obtain ⟨peer, member, remote, parsed⟩ := found
    have elsewhere : peer.peerId ≠ target.peerKey := by
      intro same
      rw [same, key, text.reads] at parsed
      exact different (Except.ok.inj parsed).symm
    unfold fallbackPeers at member ⊢
    rw [userId] at member ⊢
    exact ⟨peer, listed user _ _ peer member (by simpa using elsewhere), remote, parsed⟩

end

/-- A manual sync takes its peer out of the fallback, whatever was cached for it before. -/
theorem manual_peer_is_lost {PeerId : Type} (libs : P2pLibs PeerId) (text : PeerIdText libs) (store : LocalStore)
    (addr : String) (peerId : PeerId) (named : NamesPeer libs addr peerId)
    (manualRelay : Option (Multiaddr PeerId)) (clock : Nat → OffsetDateTime) (relayAddr : Multiaddr PeerId)
    (trackers : List String) (tracked : trackers ≠ []) (trackerToken : Option String) (userId deviceId : String)
    (calls : TrackerCalls) (fail : AllFail calls) (now : OffsetDateTime) :
    ∃ targets after, buildManualTargets libs store [addr] manualRelay clock = (.ok targets, after) ∧
      (∃ target ∈ targets, target.peerId = peerId) ∧
      LosesPeer
        (discoverTargets libs calls store (p2pSyncConfig (some relayAddr) trackers trackerToken userId deviceId) now)
        (discoverTargets libs calls after (p2pSyncConfig (some relayAddr) trackers trackerToken userId deviceId) now)
        peerId := by
  obtain ⟨target, after, built, rfl⟩ := buildManualTargets_one named store manualRelay clock
  exact ⟨[target], after, built, ⟨target, List.mem_cons_self, rfl⟩, discovery_loses text tracked rfl rfl fail built⟩

/-! One cached peer, reached through one relay. -/

inductive EchoPeer
  | remote
  | relay
  deriving DecidableEq

def EchoPeer.text : EchoPeer → String
  | .remote => "12D3KooWD3eckifWpRn9wQpMG9R9hX3sD158z7EqHWmweQAJU5SA"
  | .relay => "QmNnooDu7bfjPFoTZYxMNLWUQJyrVwtbZg5gBMjTezGAJN"

def remoteAddr : String := "/ip4/127.0.0.1/tcp/1234/p2p/" ++ EchoPeer.text .remote

def echoLibs : P2pLibs EchoPeer where
  parseMultiaddr text :=
    if text = remoteAddr then .ok [.ip4 0x7F000001, .other "/tcp/1234", .p2p .remote]
    else .error "invalid multiaddr"
  multiaddrText
    | [.ip4 0x7F000001, .other "/tcp/1234"] => "/ip4/127.0.0.1/tcp/1234"
    | _ => ""
  parsePeerId text :=
    if text = EchoPeer.text .remote then .ok .remote
    else if text = EchoPeer.text .relay then .ok .relay
    else .error "base-58 decode error"
  peerIdText := EchoPeer.text

def relayMultiaddr : Multiaddr EchoPeer := [.ip4 0x7F000001, .other "/tcp/4001", .p2p .relay]

def cachedRemote : PeerBookPeer := ⟨EchoPeer.text .remote, [remoteAddr], some "u1", some "dev-remote", 1⟩

def echoConfig : SyncConfig EchoPeer :=
  p2pSyncConfig (some relayMultiaddr) ["http://127.0.0.1:1"] none "u1" "dev-local"

def refusedCalls : TrackerCalls := fun _ _ _ => .error [.ureqTransport "Connection refusedCalls"]

theorem echoLibs_text : PeerIdText echoLibs := by
  constructor
  · intro peerId
    cases peerId <;> rfl
  · intro text peerId parsed
    simp only [echoLibs] at parsed
    split at parsed
    · rename_i same
      cases parsed
      exact same
    · split at parsed
      · rename_i same
        cases parsed
        exact same
      · cases parsed

theorem refusedCalls_fail : AllFail refusedCalls := fun _ _ _ => ⟨_, rfl⟩

theorem remoteAddr_names : NamesPeer echoLibs remoteAddr .remote := by
  have trimmed : trim remoteAddr = remoteAddr := by decide
  constructor
  · rw [trimmed]
    decide
  · rw [trimmed]
    exact ⟨_, rfl⟩

theorem manual_peer_is_lost_echo :
    ∃ targets after, buildManualTargets echoLibs (opened.upsertPeerBook cachedRemote) [remoteAddr] none
        (fun _ => .atSecond 2) = (.ok targets, after) ∧
      (∃ target ∈ targets, target.peerId = .remote) ∧
      LosesPeer
        (discoverTargets echoLibs refusedCalls (opened.upsertPeerBook cachedRemote) echoConfig (.atSecond 3))
        (discoverTargets echoLibs refusedCalls after echoConfig (.atSecond 3)) .remote :=
  manual_peer_is_lost echoLibs echoLibs_text (opened.upsertPeerBook cachedRemote) remoteAddr .remote
    remoteAddr_names none (fun _ => .atSecond 2) relayMultiaddr ["http://127.0.0.1:1"] (by decide) none "u1"
    "dev-local" refusedCalls refusedCalls_fail (.atSecond 3)

/-- Discovery finds the cached peer before the manual sync, and a second later no more. -/
theorem manual_sync_forgets_cached :
    Finds (discoverTargets echoLibs refusedCalls (opened.upsertPeerBook cachedRemote) echoConfig (.atSecond 2))
        .remote ∧
      ∃ targets after, buildManualTargets echoLibs (opened.upsertPeerBook cachedRemote) [remoteAddr] none
          (fun _ => .atSecond 2) = (.ok targets, after) ∧
        (∃ target ∈ targets, target.peerId = .remote) ∧
        ¬ Finds (discoverTargets echoLibs refusedCalls after echoConfig (.atSecond 3)) .remote := by
  constructor
  · rw [finds_fallback_iff (by decide) rfl refusedCalls_fail]
    exact ⟨cachedRemote, by decide, by decide, rfl⟩
  · obtain ⟨target, after, built, found⟩ := buildManualTargets_one remoteAddr_names
      (opened.upsertPeerBook cachedRemote) none (fun _ => .atSecond 2)
    have loses : LosesPeer
        (discoverTargets echoLibs refusedCalls (opened.upsertPeerBook cachedRemote) echoConfig (.atSecond 3))
        (discoverTargets echoLibs refusedCalls after echoConfig (.atSecond 3)) target.peerId :=
      discovery_loses echoLibs_text (by decide) rfl rfl refusedCalls_fail built
    rw [found] at loses
    exact ⟨[target], after, built, ⟨target, List.mem_cons_self, found⟩, loses.lost⟩

end Rustory
