import Rustory.Storage.PeerBook
import Rustory.Tracker.Server

namespace Rustory

open Foundations LocalStore

/-- `libp2p::multiaddr::Protocol`; a component that nothing here looks at is kept by its text. -/
inductive Protocol (PeerId : Type)
  | ip4 (addr : BitVec 32)
  | ip6 (addr : BitVec 128)
  | p2p (peerId : PeerId)
  | p2pCircuit
  | other (text : String)

abbrev Multiaddr (PeerId : Type) := List (Protocol PeerId)

/-- `libp2p`: how addresses and peer ids are read and shown. -/
structure P2pLibs (PeerId : Type) where
  parseMultiaddr : String → Except String (Multiaddr PeerId)
  multiaddrText : Multiaddr PeerId → String
  parsePeerId : String → Except String PeerId
  peerIdText : PeerId → String

/-- A peer id is read from its base58 text, and from no other text. -/
structure PeerIdText {PeerId : Type} (libs : P2pLibs PeerId) : Prop where
  reads : ∀ peerId, libs.parsePeerId (libs.peerIdText peerId) = .ok peerId
  unique : ∀ text peerId, libs.parsePeerId text = .ok peerId → text = libs.peerIdText peerId

structure SyncTarget (PeerId : Type) where
  peerId : PeerId
  peerKey : String
  directAddrs : List (Multiaddr PeerId)
  relayAddr : Option (Multiaddr PeerId)

structure SyncConfig (PeerId : Type) where
  relayAddr : Option (Multiaddr PeerId)
  trackers : List String
  trackerToken : Option String
  userId : Option String
  deviceId : Option String

/-- The configuration that `Command::P2pSync` builds from what it has resolved. -/
def p2pSyncConfig {PeerId : Type} (relayAddr : Option (Multiaddr PeerId)) (trackers : List String)
    (trackerToken : Option String) (userId deviceId : String) : SyncConfig PeerId where
  relayAddr := relayAddr
  trackers := trackers
  trackerToken := trackerToken
  userId := some userId
  deviceId := some deviceId

section

variable {PeerId : Type} (libs : P2pLibs PeerId)

/-! `build_manual_targets` -/

def splitPeerMultiaddr (value : String) : Except Error (PeerId × Multiaddr PeerId) :=
  match libs.parseMultiaddr value with
  | .error text => .error [.message "parse peer multiaddr", .message text]
  | .ok addr =>
    match addr.getLast? with
    | none => .error (bail "peer multiaddr is empty")
    | some (.p2p peerId) => .ok (peerId, addr.dropLast)
    | some _ => .error (bail "peer multiaddr must end with /p2p/<peer_id>")

/-- The cursors under a multiaddr key are copied to the peer id's key where that has none. -/
def migrateCursors (store : LocalStore) (peerKey peerKeyOld : String) : LocalStore :=
  let store :=
    match store.getLastCursorOpt peerKey, store.getLastCursorOpt peerKeyOld with
    | none, some oldCursor => store.setLastCursor peerKey oldCursor
    | _, _ => store
  match store.getLastPushedSeqOpt peerKey, store.getLastPushedSeqOpt peerKeyOld with
  | none, some oldSeq => store.setLastPushedSeq peerKey oldSeq
  | _, _ => store

def manualPeer (peerKey peerKeyOld : String) (now : OffsetDateTime) : PeerBookPeer where
  peerId := peerKey
  addrs := [peerKeyOld]
  userId := none
  deviceId := none
  lastSeenUnix := now.unixTimestamp

/-- The loop of `build_manual_targets`; each turn reads the clock. What it has written stays
    when a later address is an error. -/
def manualTargetsFrom (relayAddr : Option (Multiaddr PeerId)) (clock : Nat → OffsetDateTime) (index : Nat)
    (store : LocalStore) : List String → Except Error (List (SyncTarget PeerId)) × LocalStore
  | [] => (.ok [], store)
  | peerAddr :: rest =>
    let peerKeyOld := trim peerAddr
    if peerKeyOld.isEmpty then
      manualTargetsFrom relayAddr clock (index + 1) store rest
    else
      match splitPeerMultiaddr libs peerKeyOld with
      | .error err => (.error err, store)
      | .ok (peerId, baseAddr) =>
        let peerKey := libs.peerIdText peerId
        let store := migrateCursors store peerKey peerKeyOld
        let store := store.upsertPeerBook (manualPeer peerKey peerKeyOld (clock index))
        let (out, store) := manualTargetsFrom relayAddr clock (index + 1) store rest
        (out.map fun targets => ⟨peerId, peerKey, [baseAddr], relayAddr⟩ :: targets, store)

def buildManualTargets (store : LocalStore) (peers : List String) (relayAddr : Option (Multiaddr PeerId))
    (clock : Nat → OffsetDateTime) : Except Error (List (SyncTarget PeerId)) × LocalStore :=
  manualTargetsFrom libs relayAddr clock 0 store peers

/-! `discover_targets` -/

def Protocol.isUnspecified : Protocol PeerId → Bool
  | .ip4 addr => addr == 0
  | .ip6 addr => addr == 0
  | _ => false

def Protocol.isCircuit : Protocol PeerId → Bool
  | .p2pCircuit => true
  | _ => false

def directCandidate (addr : Multiaddr PeerId) : Option (Multiaddr PeerId) :=
  if addr.any Protocol.isUnspecified || addr.any Protocol.isCircuit then
    none
  else
    match addr.getLast? with
    | some (.p2p _) => some addr.dropLast
    | _ => some addr

def addCandidate (found : List (Multiaddr PeerId) × List String) (raw : String) :
    List (Multiaddr PeerId) × List String :=
  match libs.parseMultiaddr raw with
  | .error _ => found
  | .ok addr =>
    match directCandidate addr with
    | none => found
    | some addr =>
      let key := libs.multiaddrText addr
      if key ∈ found.2 then found else (found.1 ++ [addr], key :: found.2)

def directCandidateAddrsFromTracker (addrs : List String) : List (Multiaddr PeerId) :=
  (addrs.foldl (addCandidate libs) ([], [])).1

def peerBookMaxAgeSecs : Int := 60 * 60 * 24 * 7
def peerBookLimit : UInt64 := 1000

/-- `by_peer`, a `HashMap`. -/
abbrev ByPeer := AList fun _ : String => PeerInfo

def isSelf (cfg : SyncConfig PeerId) (deviceId : Option String) : Bool :=
  match cfg.deviceId with
  | some myDevice => deviceId == some myDevice
  | none => false

def infoDeviceId (p : PeerInfo) : Option String := p.peerMeta.bind PeerMeta.deviceId

def cacheListed (cfg : SyncConfig PeerId) (found : LocalStore × ByPeer) (p : PeerInfo) : LocalStore × ByPeer :=
  if isSelf cfg (infoDeviceId p) then
    found
  else
    (found.1.upsertPeerBook ⟨p.peerId, p.addrs, p.peerMeta.bind PeerMeta.userId, infoDeviceId p, p.lastSeenUnix⟩,
      if p.peerId ∈ found.2 then found.2 else found.2.insert p.peerId p)

/-- What `TrackerClient::list` returns for the tracker at each position. -/
abbrev TrackerCalls := Nat → TrackerClient → Option String → Except Error ListResponse

def listTrackers (calls : TrackerCalls) (cfg : SyncConfig PeerId) (store : LocalStore) : LocalStore × ByPeer :=
  cfg.trackers.zipIdx.foldl
    (fun found (baseUrl, index) =>
      match calls index (TrackerClient.new baseUrl cfg.trackerToken) cfg.userId with
      | .ok list => list.peers.foldl (cacheListed cfg) found
      | .error _ => found)
    (store, ∅)

def cachedInfo (peer : PeerBookPeer) : PeerInfo where
  peerId := peer.peerId
  addrs := peer.addrs
  peerMeta := some ⟨peer.deviceId, none, peer.userId, none⟩
  lastSeenUnix := peer.lastSeenUnix

def addCached (cfg : SyncConfig PeerId) (byPeer : ByPeer) (peer : PeerBookPeer) : ByPeer :=
  if isSelf cfg peer.deviceId then byPeer else byPeer.insert peer.peerId (cachedInfo peer)

/-- The rows of `peer_book` that discovery falls back on. -/
def fallbackPeers (cfg : SyncConfig PeerId) (now : OffsetDateTime) (store : LocalStore) : List PeerBookPeer :=
  store.listPeerBook cfg.userId (now.unixTimestamp - peerBookMaxAgeSecs) peerBookLimit

def discoveredTarget (cfg : SyncConfig PeerId) (relayAddr : Multiaddr PeerId)
    (entry : Sigma fun _ : String => PeerInfo) : Option (SyncTarget PeerId) :=
  if isSelf cfg (infoDeviceId entry.snd) then
    none
  else
    match libs.parsePeerId entry.fst with
    | .error _ => none
    | .ok peerId => some ⟨peerId, entry.fst, directCandidateAddrsFromTracker libs entry.snd.addrs, some relayAddr⟩

def discoverTargets (calls : TrackerCalls) (store : LocalStore) (cfg : SyncConfig PeerId) (now : OffsetDateTime) :
    Except Error (List (SyncTarget PeerId)) × LocalStore :=
  if cfg.trackers.isEmpty then
    (.error (bail "no peers provided and no trackers configured"), store)
  else
    match cfg.relayAddr with
    | none => (.error (bail "relay_addr required for tracker-based sync"), store)
    | some relayAddr =>
      let (store, byPeer) := listTrackers calls cfg store
      let byPeer :=
        if byPeer.entries.isEmpty then (fallbackPeers cfg now store).foldl (addCached cfg) ∅ else byPeer
      if byPeer.entries.isEmpty then
        (.error (bail "no peers found from trackers and peer_book cache is empty"), store)
      else
        let out := byPeer.entries.filterMap (discoveredTarget libs cfg relayAddr)
        if out.isEmpty then
          (.error (bail "no valid peers found after discovery"), store)
        else
          (.ok out, store)

end

end Rustory
