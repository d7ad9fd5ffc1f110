import Rustory.Foundations.Merge
import Rustory.P2p.Fallback

namespace Rustory

open Foundations LocalStore

section

variable {PeerId : Type}

def remotePeers (cfg : SyncConfig PeerId) (peers : List PeerInfo) : List PeerInfo :=
  peers.filter fun p => !isSelf cfg (infoDeviceId p)

def answerPeers (cfg : SyncConfig PeerId) : Except Error ListResponse → List PeerInfo
  | .ok list => remotePeers cfg list.peers
  | .error _ => []

/-- What the trackers that answer list of other devices, in the order of the loops. -/
def trackerPeers (calls : TrackerCalls) (cfg : SyncConfig PeerId) : List PeerInfo :=
  cfg.trackers.zipIdx.flatMap fun tracker =>
    answerPeers cfg (calls tracker.2 (TrackerClient.new tracker.1 cfg.trackerToken) cfg.userId)

def infoRow (p : PeerInfo) : PeerBookRow :=
  ⟨p.addrs, p.peerMeta.bind PeerMeta.userId, infoDeviceId p, p.lastSeenUnix⟩

variable {libs : P2pLibs PeerId} {cfg : SyncConfig PeerId} {calls : TrackerCalls} {store : LocalStore}
  {byPeer : ByPeer} {now : OffsetDateTime} {relayAddr : Multiaddr PeerId}

/-! The merge as two tables: the targets keep the first row of a peer, the peer book the last. -/

theorem remotePeers_remote {peers : List PeerInfo} {p : PeerInfo} (member : p ∈ remotePeers cfg peers) :
    isSelf cfg (infoDeviceId p) = false := by
  obtain ⟨-, remote⟩ := List.mem_filter.mp member
  simpa using remote

theorem cacheListed_remotePeers (found : LocalStore × ByPeer) (peers : List PeerInfo) :
    peers.foldl (cacheListed cfg) found = (remotePeers cfg peers).foldl (cacheListed cfg) found := by
  unfold remotePeers
  rw [List.foldl_filter]
  apply List.foldl_ext
  intro found p _
  by_cases self : isSelf cfg (infoDeviceId p) = true
  · simp [cacheListed, self]
  · simp [self]

theorem listTrackers_eq (calls : TrackerCalls) (cfg : SyncConfig PeerId) (store : LocalStore) :
    listTrackers calls cfg store = (trackerPeers calls cfg).foldl (cacheListed cfg) (store, ∅) := by
  unfold listTrackers trackerPeers
  rw [List.foldl_flatMap]
  apply List.foldl_ext
  intro found tracker _
  dsimp only
  cases calls tracker.2 (TrackerClient.new tracker.1 cfg.trackerToken) cfg.userId with
  | error err => rfl
  | ok list => exact cacheListed_remotePeers found list.peers

theorem answerPeers_remote {answer : Except Error ListResponse} {p : PeerInfo}
    (member : p ∈ answerPeers cfg answer) : isSelf cfg (infoDeviceId p) = false := by
  cases answer with
  | error err => cases member
  | ok list => exact remotePeers_remote member

theorem trackerPeers_remote {p : PeerInfo} (listed : p ∈ trackerPeers calls cfg) :
    isSelf cfg (infoDeviceId p) = false := by
  obtain ⟨tracker, -, inside⟩ := List.mem_flatMap.mp listed
  exact answerPeers_remote inside

theorem cacheListed_foldl {peers : List PeerInfo} (remote : ∀ p ∈ peers, isSelf cfg (infoDeviceId p) = false)
    (store : LocalStore) (byPeer : ByPeer) :
    peers.foldl (cacheListed cfg) (store, byPeer) =
      ({ store with peerBook := peers.foldl (keepLast PeerInfo.peerId infoRow) store.peerBook },
        peers.foldl (keepFirst PeerInfo.peerId id) byPeer) := by
  induction peers generalizing store byPeer with
  | nil => rfl
  | cons p rest ih =>
    have here : isSelf cfg (infoDeviceId p) = false := remote p List.mem_cons_self
    have later := fun q member => remote q (List.mem_cons_of_mem p member)
    rw [List.foldl_cons, cacheListed, here, if_neg (by simp), ih later]
    rfl

/-! What discovery makes of the peers that were listed. -/

def finishDiscovery (out : List (SyncTarget PeerId)) : Except Error (List (SyncTarget PeerId)) :=
  if out.isEmpty then .error (bail "no valid peers found after discovery") else .ok out

variable (libs cfg relayAddr now) in
def discoverListed (store : LocalStore) (listed : List PeerInfo) :
    Except Error (List (SyncTarget PeerId)) × LocalStore :=
  if listed.isEmpty then
    let byPeer := (fallbackPeers cfg now store).foldl (addCached cfg) ∅
    if byPeer.entries.isEmpty then
      (.error (bail "no peers found from trackers and peer_book cache is empty"), store)
    else
      (finishDiscovery (byPeer.entries.filterMap (discoveredTarget libs cfg relayAddr)), store)
  else
    (finishDiscovery ((listed.foldl (keepFirst PeerInfo.peerId id) (∅ : ByPeer)).entries.filterMap
        (discoveredTarget libs cfg relayAddr)),
      { store with peerBook := listed.foldl (keepLast PeerInfo.peerId infoRow) store.peerBook })

theorem keepFirst_entries {listed : List PeerInfo} :
    (listed.foldl (keepFirst PeerInfo.peerId id) (∅ : ByPeer)).entries.isEmpty = listed.isEmpty := by
  cases listed with
  | nil => rfl
  | cons p rest =>
    have found : ((p :: rest).foldl (keepFirst PeerInfo.peerId id) (∅ : ByPeer)).lookup p.peerId = some p := by
      rw [lookup_keepFirst]
      simp [firstAt]
    have inside := AList.mem_lookup_iff.mp found
    rw [List.isEmpty_cons, List.isEmpty_eq_false_iff]
    exact List.ne_nil_of_mem inside

theorem discoverTargets_eq (tracked : cfg.trackers ≠ []) (relay : cfg.relayAddr = some relayAddr) :
    discoverTargets libs calls store cfg now =
      discoverListed libs cfg now relayAddr store (trackerPeers calls cfg) := by
  have configured : cfg.trackers.isEmpty = false := by simpa using tracked
  have merged := cacheListed_foldl (fun p listed => @trackerPeers_remote _ cfg calls p listed) store ∅
  unfold discoverTargets discoverListed finishDiscovery
  simp only [configured, relay, listTrackers_eq, merged, keepFirst_entries, Bool.false_eq_true, if_false]
  cases trackerPeers calls cfg with
  | nil =>
    simp only [List.isEmpty_nil, if_true, List.foldl_nil]
    split
    · rfl
    · split <;> rfl
  | cons p rest =>
    simp only [List.isEmpty_cons, Bool.false_eq_true, if_false]
    have some_peer := @keepFirst_entries (p :: rest)
    rw [List.isEmpty_cons] at some_peer
    simp only [some_peer, Bool.false_eq_true, if_false]
    split <;> rfl

/-- The target that discovery makes of what a tracker lists. -/
structure MadeFrom (libs : P2pLibs PeerId) (relayAddr : Multiaddr PeerId) (p : PeerInfo) (target : SyncTarget PeerId) :
    Prop where
  peerKey : target.peerKey = p.peerId
  peerId : libs.parsePeerId p.peerId = .ok target.peerId
  directAddrs : target.directAddrs = directCandidateAddrsFromTracker libs p.addrs
  relayAddr : target.relayAddr = some relayAddr

theorem discoveredTarget_remote {p : PeerInfo} (remote : isSelf cfg (infoDeviceId p) = false)
    {target : SyncTarget PeerId} :
    discoveredTarget libs cfg relayAddr ⟨p.peerId, p⟩ = some target ↔ MadeFrom libs relayAddr p target := by
  unfold discoveredTarget
  simp only [remote, Bool.false_eq_true, if_false]
  obtain ⟨peerId, peerKey, directAddrs, relay⟩ := target
  cases parsed : libs.parsePeerId p.peerId with
  | error text =>
    simp only [reduceCtorEq, false_iff]
    intro made
    have ok := made.peerId
    rw [parsed] at ok
    cases ok
  | ok id =>
    simp only [Option.some.injEq, SyncTarget.mk.injEq]
    constructor
    · rintro ⟨rfl, rfl, rfl, rfl⟩
      exact ⟨rfl, parsed, rfl, rfl⟩
    · rintro ⟨rfl, read, rfl, rfl⟩
      rw [parsed] at read
      exact ⟨Except.ok.inj read, rfl, rfl, rfl⟩

/-- The targets are made from the first listing of each peer. -/
theorem mem_listedTargets {listed : List PeerInfo} (remote : ∀ p ∈ listed, isSelf cfg (infoDeviceId p) = false)
    {target : SyncTarget PeerId} :
    target ∈ (listed.foldl (keepFirst PeerInfo.peerId id) (∅ : ByPeer)).entries.filterMap
        (discoveredTarget libs cfg relayAddr) ↔
      ∃ p, firstAt PeerInfo.peerId listed target.peerKey = some p ∧ MadeFrom libs relayAddr p target := by
  have entry : ∀ key p, (⟨key, p⟩ : Sigma fun _ : String => PeerInfo) ∈
      (listed.foldl (keepFirst PeerInfo.peerId id) (∅ : ByPeer)).entries ↔
        firstAt PeerInfo.peerId listed key = some p := by
    intro key p
    rw [← AList.mem_lookup_iff, lookup_keepFirst, Option.map_id, AList.lookup_empty, Option.none_or]
    rfl
  rw [List.mem_filterMap]
  constructor
  · intro ⟨⟨key, p⟩, inside, given⟩
    have first := (entry key p).mp inside
    obtain ⟨member, same⟩ := firstAt_some first
    rw [← same] at given first
    have made := (discoveredTarget_remote (remote p member)).mp given
    rw [← made.peerKey] at first
    exact ⟨p, first, made⟩
  · intro ⟨p, first, made⟩
    obtain ⟨member, -⟩ := firstAt_some first
    rw [made.peerKey] at first
    exact ⟨⟨p.peerId, p⟩, (entry p.peerId p).mpr first, (discoveredTarget_remote (remote p member)).mpr made⟩

/-! Trackers that all answer, asked in some order. -/

abbrev TrackerAnswers := List (String × ListResponse)

def answered (answers : TrackerAnswers) : TrackerCalls := fun index _ _ =>
  match answers[index]? with
  | some answer => .ok answer.2
  | none => .error (bail "no such tracker")

def askedIn (cfg : SyncConfig PeerId) (relayAddr : Multiaddr PeerId) (answers : TrackerAnswers) : SyncConfig PeerId :=
  { cfg with relayAddr := some relayAddr, trackers := answers.map Prod.fst }

variable (libs cfg relayAddr store now) in
def discoverIn (answers : TrackerAnswers) : Except Error (List (SyncTarget PeerId)) × LocalStore :=
  discoverTargets libs (answered answers) store (askedIn cfg relayAddr answers) now

def listedIn (cfg : SyncConfig PeerId) (answers : TrackerAnswers) : List PeerInfo :=
  answers.flatMap fun answer => remotePeers cfg answer.2.peers

/-- The targets as a set, as the entries of a `HashMap` come in no order. -/
def targetSet (result : Except Error (List (SyncTarget PeerId))) : Except Error (Set (SyncTarget PeerId)) :=
  result.map fun targets => {target | target ∈ targets}

def peerSet (result : Except Error (List (SyncTarget PeerId))) : Except Error (Set (String × PeerId)) :=
  result.map fun targets => {peer | ∃ target ∈ targets, peer = (target.peerKey, target.peerId)}

variable {answers order : TrackerAnswers}

theorem trackerPeers_answered :
    trackerPeers (answered answers) (askedIn cfg relayAddr answers) = listedIn cfg answers := by
  have asked : ∀ tracker ∈ answers.zipIdx, remotePeers cfg tracker.1.2.peers =
      answerPeers (askedIn cfg relayAddr answers) (answered answers tracker.2
        (TrackerClient.new tracker.1.1 cfg.trackerToken) cfg.userId) := by
    intro tracker member
    have here : answers[tracker.2]? = some tracker.1 := List.mem_zipIdx_iff_getElem?.mp member
    unfold answered
    rw [here]
    rfl
  have numbered : listedIn cfg answers = answers.zipIdx.flatMap fun tracker => remotePeers cfg tracker.1.2.peers := by
    unfold listedIn
    nth_rewrite 1 [← List.zipIdx_map_fst 0 answers]
    rw [List.flatMap_map]
  rw [numbered, List.flatMap_congr asked]
  unfold trackerPeers
  have trackers : (askedIn cfg relayAddr answers).trackers = answers.map Prod.fst := rfl
  rw [trackers, List.zipIdx_map, List.flatMap_map]
  rfl

theorem discoverIn_eq (some_answer : answers ≠ []) :
    discoverIn libs cfg store now relayAddr answers =
      discoverListed libs cfg now relayAddr store (listedIn cfg answers) := by
  have tracked : (askedIn cfg relayAddr answers).trackers ≠ [] := by simpa [askedIn] using some_answer
  unfold discoverIn
  rw [discoverTargets_eq tracked rfl, trackerPeers_answered]
  rfl

theorem listedIn_remote {p : PeerInfo} (listed : p ∈ listedIn cfg answers) : isSelf cfg (infoDeviceId p) = false := by
  obtain ⟨answer, -, inside⟩ := List.mem_flatMap.mp listed
  exact remotePeers_remote inside

/-- The first listing of a peer by a tracker, as it is dialled. -/
def firstAddrs (libs : P2pLibs PeerId) (cfg : SyncConfig PeerId) (key : String) (answer : String × ListResponse) :
    Option (List (Multiaddr PeerId)) :=
  (firstAt PeerInfo.peerId (remotePeers cfg answer.2.peers) key).map fun p =>
    directCandidateAddrsFromTracker libs p.addrs

/-- The last listing of a peer by a tracker, as it is cached. -/
def lastRow (cfg : SyncConfig PeerId) (key : String) (answer : String × ListResponse) : Option PeerBookRow :=
  (lastAt PeerInfo.peerId (remotePeers cfg answer.2.peers) key).map infoRow

theorem firstAt_listedIn (key : String) :
    (firstAt PeerInfo.peerId (listedIn cfg answers) key).map
        (fun p => directCandidateAddrsFromTracker libs p.addrs) =
      answers.findSome? (firstAddrs libs cfg key) := by
  unfold listedIn firstAddrs
  rw [firstAt_flatMap, List.map_findSome?]
  rfl

theorem lastAt_listedIn (key : String) :
    (lastAt PeerInfo.peerId (listedIn cfg answers) key).map infoRow = answers.reverse.findSome? (lastRow cfg key) := by
  unfold listedIn lastRow
  rw [lastAt_flatMap, List.map_findSome?]
  rfl

theorem listedIn_perm (perm : order.Perm answers) : (listedIn cfg order).Perm (listedIn cfg answers) :=
  perm.flatMap_right _

theorem listedIn_empty_iff (perm : order.Perm answers) : listedIn cfg order = [] ↔ listedIn cfg answers = [] := by
  rw [← List.perm_nil, ← List.perm_nil]
  exact (listedIn_perm perm).congr_left []

theorem finishDiscovery_map {σ : Type} {f : List (SyncTarget PeerId) → σ} {out out' : List (SyncTarget PeerId)}
    (empty : out = [] ↔ out' = []) (same : f out = f out') :
    (finishDiscovery out).map f = (finishDiscovery out').map f := by
  unfold finishDiscovery
  cases out with
  | nil => rw [empty.mp rfl]
  | cons target rest =>
    cases out' with
    | nil => cases empty.mpr rfl
    | cons target' rest' => exact congrArg Except.ok same

theorem finishDiscovery_targets {out out' : List (SyncTarget PeerId)} :
    targetSet (finishDiscovery out) = targetSet (finishDiscovery out') ↔
      ∀ target, target ∈ out ↔ target ∈ out' := by
  constructor
  · intro same target
    unfold targetSet finishDiscovery at same
    cases out with
    | nil =>
      cases out' with
      | nil => rfl
      | cons target' rest' => cases same
    | cons target' rest =>
      cases out' with
      | nil => cases same
      | cons target'' rest' => exact Set.ext_iff.mp (Except.ok.inj same) target
  · intro same
    apply finishDiscovery_map _ (Set.ext same)
    rw [List.eq_nil_iff_forall_not_mem, List.eq_nil_iff_forall_not_mem]
    exact forall_congr' fun target => not_congr (same target)

theorem finishDiscovery_peers {out out' : List (SyncTarget PeerId)}
    (same : ∀ key peerId, (∃ target ∈ out, (key, peerId) = (target.peerKey, target.peerId)) ↔
      ∃ target ∈ out', (key, peerId) = (target.peerKey, target.peerId)) :
    peerSet (finishDiscovery out) = peerSet (finishDiscovery out') := by
  apply finishDiscovery_map _ (Set.ext fun peer => same peer.1 peer.2)
  rw [List.eq_nil_iff_forall_not_mem, List.eq_nil_iff_forall_not_mem]
  constructor
  · intro none target member
    obtain ⟨other, inside, -⟩ := (same _ _).mpr ⟨target, member, rfl⟩
    exact none other inside
  · intro none target member
    obtain ⟨other, inside, -⟩ := (same _ _).mp ⟨target, member, rfl⟩
    exact none other inside

variable (libs cfg relayAddr) in
def targetsIn (answers : TrackerAnswers) : List (SyncTarget PeerId) :=
  ((listedIn cfg answers).foldl (keepFirst PeerInfo.peerId id) (∅ : ByPeer)).entries.filterMap
    (discoveredTarget libs cfg relayAddr)

theorem discoverIn_unlisted (perm : order.Perm answers) (none : listedIn cfg answers = []) :
    discoverIn libs cfg store now relayAddr order = discoverIn libs cfg store now relayAddr answers := by
  by_cases some_answer : answers = []
  · rw [some_answer] at perm ⊢
    rw [perm.eq_nil]
  · have some_order : order ≠ [] := by
      intro empty
      rw [empty] at perm
      exact some_answer perm.symm.eq_nil
    have none' : listedIn cfg order = [] := (listedIn_empty_iff perm).mpr none
    rw [discoverIn_eq some_answer, discoverIn_eq some_order, none, none']

theorem discoverIn_listed (listed : listedIn cfg answers ≠ []) :
    discoverIn libs cfg store now relayAddr answers =
      (finishDiscovery (targetsIn libs cfg relayAddr answers),
        { store with peerBook := (listedIn cfg answers).foldl (keepLast PeerInfo.peerId infoRow) store.peerBook }) := by
  have some_answer : answers ≠ [] := by
    intro empty
    rw [empty] at listed
    exact listed rfl
  have filled : (listedIn cfg answers).isEmpty = false := by simpa using listed
  rw [discoverIn_eq some_answer]
  unfold discoverListed targetsIn
  rw [filled, if_neg (by simp)]

theorem mem_targetsIn {target : SyncTarget PeerId} :
    target ∈ targetsIn libs cfg relayAddr answers ↔
      answers.findSome? (firstAddrs libs cfg target.peerKey) = some target.directAddrs ∧
        libs.parsePeerId target.peerKey = .ok target.peerId ∧ target.relayAddr = some relayAddr := by
  unfold targetsIn
  rw [mem_listedTargets fun p => listedIn_remote, ← firstAt_listedIn, Option.map_eq_some_iff]
  constructor
  · intro ⟨p, first, made⟩
    exact ⟨⟨p, first, made.directAddrs.symm⟩, made.peerKey ▸ made.peerId, made.relayAddr⟩
  · intro ⟨⟨p, first, directAddrs⟩, parsed, relay⟩
    obtain ⟨-, same⟩ := firstAt_some first
    exact ⟨p, first, same.symm, same.symm ▸ parsed, directAddrs.symm, relay⟩

theorem discoverIn_row (key : String) :
    (discoverIn libs cfg store now relayAddr answers).2.peerBook.lookup key =
      (answers.reverse.findSome? (lastRow cfg key)).or (store.peerBook.lookup key) := by
  rw [← lastAt_listedIn]
  by_cases listed : listedIn cfg answers = []
  · rw [listed]
    have kept : (discoverIn libs cfg store now relayAddr answers).2 = store := by
      by_cases some_answer : answers = []
      · rw [some_answer]
        rfl
      · rw [discoverIn_eq some_answer, listed]
        unfold discoverListed
        simp only [List.isEmpty_nil, if_true]
        split <;> rfl
    rw [kept]
    rfl
  · rw [discoverIn_listed listed]
    exact lookup_keepLast store.peerBook (listedIn cfg answers) key

/-- Every two trackers that list a peer begin with the same addresses for it. -/
def FirstsAgree (libs : P2pLibs PeerId) (cfg : SyncConfig PeerId) (answers : TrackerAnswers) : Prop :=
  ∀ key peerId, libs.parsePeerId key = .ok peerId → ∀ a ∈ answers, ∀ b ∈ answers, ∀ addrs addrs',
    firstAddrs libs cfg key a = some addrs → firstAddrs libs cfg key b = some addrs' → addrs = addrs'

/-- Every two trackers that list a peer end with the same row for it. -/
def LastsAgree (cfg : SyncConfig PeerId) (answers : TrackerAnswers) : Prop :=
  ∀ key, ∀ a ∈ answers, ∀ b ∈ answers, ∀ row row',
    lastRow cfg key a = some row → lastRow cfg key b = some row' → row = row'

theorem firstAddrs_perm (perm : order.Perm answers) :
    targetSet (discoverIn libs cfg store now relayAddr order).1 =
        targetSet (discoverIn libs cfg store now relayAddr answers).1 ↔
      ∀ key peerId, libs.parsePeerId key = .ok peerId →
        order.findSome? (firstAddrs libs cfg key) = answers.findSome? (firstAddrs libs cfg key) := by
  by_cases listed : listedIn cfg answers = []
  · have listed' : listedIn cfg order = [] := (listedIn_empty_iff perm).mpr listed
    rw [discoverIn_unlisted perm listed]
    simp only [true_iff]
    intro key peerId _
    rw [← firstAt_listedIn, ← firstAt_listedIn, listed, listed']
  · have listed' : listedIn cfg order ≠ [] := mt (listedIn_empty_iff perm).mp listed
    rw [discoverIn_listed listed, discoverIn_listed listed', finishDiscovery_targets]
    constructor
    · intro same key peerId parsed
      ext addrs
      have target := same ⟨peerId, key, addrs, some relayAddr⟩
      rw [mem_targetsIn, mem_targetsIn] at target
      simpa [parsed] using target
    · intro same target
      rw [mem_targetsIn, mem_targetsIn]
      apply and_congr_left
      intro given
      rw [same target.peerKey target.peerId given.1]

theorem targetsIn_peer {key : String} {peerId : PeerId} :
    (∃ target ∈ targetsIn libs cfg relayAddr answers, (key, peerId) = (target.peerKey, target.peerId)) ↔
      (answers.findSome? (firstAddrs libs cfg key)).isSome ∧ libs.parsePeerId key = .ok peerId := by
  constructor
  · intro ⟨target, member, same⟩
    obtain ⟨first, parsed, -⟩ := mem_targetsIn.mp member
    cases same
    exact ⟨by rw [first]; rfl, parsed⟩
  · intro ⟨listed, parsed⟩
    obtain ⟨addrs, first⟩ := Option.isSome_iff_exists.mp listed
    exact ⟨⟨peerId, key, addrs, some relayAddr⟩, mem_targetsIn.mpr ⟨first, parsed, rfl⟩, rfl⟩

theorem discoverIn_peers (perm : order.Perm answers) :
    peerSet (discoverIn libs cfg store now relayAddr order).1 =
      peerSet (discoverIn libs cfg store now relayAddr answers).1 := by
  by_cases listed : listedIn cfg answers = []
  · rw [discoverIn_unlisted perm listed]
  · have listed' : listedIn cfg order ≠ [] := mt (listedIn_empty_iff perm).mp listed
    rw [discoverIn_listed listed, discoverIn_listed listed']
    apply finishDiscovery_peers
    intro key peerId
    rw [targetsIn_peer, targetsIn_peer, findSome?_perm_isSome perm]

theorem discoverIn_keys (perm : order.Perm answers) (key : String) :
    key ∈ (discoverIn libs cfg store now relayAddr order).2.peerBook ↔
      key ∈ (discoverIn libs cfg store now relayAddr answers).2.peerBook := by
  have reversed : order.reverse.Perm answers.reverse :=
    List.reverse_perm'.mpr (perm.trans (List.reverse_perm answers).symm)
  rw [← AList.lookup_isSome, ← AList.lookup_isSome, discoverIn_row, discoverIn_row, Option.isSome_or,
    Option.isSome_or, findSome?_perm_isSome reversed]

theorem discoverIn_rows (perm : order.Perm answers) (key : String) :
    (discoverIn libs cfg store now relayAddr order).2.peerBook.lookup key =
        (discoverIn libs cfg store now relayAddr answers).2.peerBook.lookup key ↔
      order.reverse.findSome? (lastRow cfg key) = answers.reverse.findSome? (lastRow cfg key) := by
  have reversed : order.reverse.Perm answers.reverse :=
    List.reverse_perm'.mpr (perm.trans (List.reverse_perm answers).symm)
  have both := @findSome?_perm_isSome _ _ (lastRow cfg key) _ _ reversed
  rw [discoverIn_row, discoverIn_row]
  revert both
  cases order.reverse.findSome? (lastRow cfg key) <;> cases answers.reverse.findSome? (lastRow cfg key) <;> simp

/-- A target is made from the first listing of its peer, and the row is that of the last. -/
structure MergedInOrder (libs : P2pLibs PeerId) (relayAddr : Multiaddr PeerId) (store : LocalStore)
    (listed : List PeerInfo) (result : Except Error (List (SyncTarget PeerId)) × LocalStore) : Prop where
  targets : ∀ targets, result.1 = .ok targets → ∀ target, target ∈ targets ↔
    ∃ p, firstAt PeerInfo.peerId listed target.peerKey = some p ∧ MadeFrom libs relayAddr p target
  rows : ∀ key, result.2.peerBook.lookup key =
    ((lastAt PeerInfo.peerId listed key).map infoRow).or (store.peerBook.lookup key)

theorem discoverIn_merged (listed : listedIn cfg answers ≠ []) :
    MergedInOrder libs relayAddr store (listedIn cfg answers) (discoverIn libs cfg store now relayAddr answers) := by
  constructor
  · intro targets found
    rw [discoverIn_listed listed] at found
    have out : targets = targetsIn libs cfg relayAddr answers := by
      unfold finishDiscovery at found
      split at found
      · cases found
      · exact (Except.ok.inj found).symm
    intro target
    rw [out]
    exact mem_listedTargets fun p => listedIn_remote
  · intro key
    rw [discoverIn_row, lastAt_listedIn]

end

/-- Which peers are targeted and cached does not depend on the order of the trackers; what is known of a
    peer is what the first tracker says for the target, and what the last says for the peer book. -/
theorem tracker_merge {PeerId : Type} (libs : P2pLibs PeerId) (cfg : SyncConfig PeerId) (store : LocalStore)
    (now : OffsetDateTime) (relayAddr : Multiaddr PeerId) (answers : TrackerAnswers) :
    (listedIn cfg answers ≠ [] →
      MergedInOrder libs relayAddr store (listedIn cfg answers) (discoverIn libs cfg store now relayAddr answers)) ∧
    (∀ order : TrackerAnswers, order.Perm answers →
      peerSet (discoverIn libs cfg store now relayAddr order).1 =
          peerSet (discoverIn libs cfg store now relayAddr answers).1 ∧
        ∀ key, key ∈ (discoverIn libs cfg store now relayAddr order).2.peerBook ↔
          key ∈ (discoverIn libs cfg store now relayAddr answers).2.peerBook) ∧
    ((∀ order : TrackerAnswers, order.Perm answers →
      targetSet (discoverIn libs cfg store now relayAddr order).1 =
        targetSet (discoverIn libs cfg store now relayAddr answers).1) ↔ FirstsAgree libs cfg answers) ∧
    ((∀ order : TrackerAnswers, order.Perm answers → ∀ key,
      (discoverIn libs cfg store now relayAddr order).2.peerBook.lookup key =
        (discoverIn libs cfg store now relayAddr answers).2.peerBook.lookup key) ↔ LastsAgree cfg answers) := by
  refine ⟨discoverIn_merged, fun order perm => ⟨discoverIn_peers perm, discoverIn_keys perm⟩, ?_, ?_⟩
  · unfold FirstsAgree
    constructor
    · intro same key peerId parsed
      apply findSome?_perm_iff.mp
      intro order perm
      exact (firstAddrs_perm perm).mp (same order perm) key peerId parsed
    · intro agree order perm
      apply (firstAddrs_perm perm).mpr
      intro key peerId parsed
      exact findSome?_perm_iff.mpr (agree key peerId parsed) order perm
  · unfold LastsAgree
    constructor
    · intro same key
      apply findSome?_reverse_perm_iff.mp
      intro order perm
      exact (discoverIn_rows perm key).mp (same order perm key)
    · intro agree order perm key
      exact (discoverIn_rows perm key).mpr (findSome?_reverse_perm_iff.mpr (agree key) order perm)

def trackedRemote (addrs : List String) (lastSeenUnix : Int) : ListResponse :=
  ⟨[⟨EchoPeer.text .remote, addrs, some ⟨some "dev-remote", none, some "u1", none⟩, lastSeenUnix⟩]⟩

def freshAnswer : String × ListResponse := ("http://127.0.0.1:8850", trackedRemote [] 2)

def staleAnswer : String × ListResponse := ("http://127.0.0.1:8851", trackedRemote [remoteAddr] 1)

def seenOf (store : LocalStore) : Option Int := (store.peerBook.lookup (EchoPeer.text .remote)).map PeerBookRow.lastSeen

/-- Two trackers, one of them stale: the order decides which addresses are dialled and which row is kept,
    and the stale tracker alone takes the row back. -/
theorem tracker_order_matters :
    (¬ ∀ order : TrackerAnswers, order.Perm [freshAnswer, staleAnswer] →
      targetSet (discoverIn echoLibs echoConfig opened (.atSecond 3) relayMultiaddr order).1 =
        targetSet (discoverIn echoLibs echoConfig opened (.atSecond 3) relayMultiaddr
          [freshAnswer, staleAnswer]).1) ∧
    (¬ ∀ order : TrackerAnswers, order.Perm [freshAnswer, staleAnswer] → ∀ key,
      (discoverIn echoLibs echoConfig opened (.atSecond 3) relayMultiaddr order).2.peerBook.lookup key =
        (discoverIn echoLibs echoConfig opened (.atSecond 3) relayMultiaddr
          [freshAnswer, staleAnswer]).2.peerBook.lookup key) ∧
    seenOf (discoverIn echoLibs echoConfig opened (.atSecond 3) relayMultiaddr [freshAnswer]).2 = some 2 ∧
    seenOf (discoverIn echoLibs echoConfig (discoverIn echoLibs echoConfig opened (.atSecond 3) relayMultiaddr
      [freshAnswer]).2 (.atSecond 3) relayMultiaddr [staleAnswer]).2 = some 1 := by
  have swapped : [staleAnswer, freshAnswer].Perm [freshAnswer, staleAnswer] := .swap freshAnswer staleAnswer []
  refine ⟨?_, ?_, ?_, ?_⟩
  · intro same
    have addrs := (firstAddrs_perm swapped).mp (same _ swapped) (EchoPeer.text .remote) .remote rfl
    have count := congrArg (Option.map List.length) addrs
    revert count
    decide
  · intro same
    have row := (discoverIn_rows swapped (EchoPeer.text .remote)).mp (same _ swapped _)
    revert row
    decide
  · unfold seenOf
    rw [discoverIn_row]
    decide
  · unfold seenOf
    rw [discoverIn_row, discoverIn_row]
    decide

end Rustory
