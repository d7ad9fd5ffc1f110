import Rustory.P2p.CachedPeers
import Rustory.P2p.Publish
import Rustory.P2p.TrackerMerge
import Rustory.Tracker.Listing

namespace Rustory

open Foundations LocalStore

/-! `TrackerClient::register` -/

/-- What it sends, as the tracker sees it. -/
def TrackerClient.registerRequest (client : TrackerClient) (body : ByteVec) : HttpRequest where
  method := "POST"
  url := "/api/v1/peers/register"
  headers := ("Content-Type", "application/json") ::
    match client.token with
    | none => []
    | some token => [("Authorization", "Bearer " ++ trim token)]
  body := .ok body.bytes

/-- A tracker that takes a register takes it as it was meant. -/
theorem registerRequest_accepted {libs : TrackerLibs} {token : Option String} {client : TrackerClient}
    {body : ByteVec} {reg got : RegisterRequest} {peerId : String} (roundTrips : libs.registerRequest.RoundTrips)
    (written : libs.registerRequest.toVec reg = .ok body)
    (accepted : acceptedRegister libs token (client.registerRequest body) = some (peerId, got)) : got = reg := by
  obtain ⟨data, came⟩ := acceptedRegister_some accepted
  have same : data = body := by
    obtain ⟨bytes, fits⟩ := data
    obtain ⟨bytes', fits'⟩ := body
    have sent : (Except.ok bytes' : Except String (List UInt8)) = .ok bytes := came.body
    cases sent
    rfl
  have parsed := came.parsed
  rw [same, roundTrips reg body written] at parsed
  exact (Except.ok.inj parsed).symm

theorem registerRequest_read {libs : TrackerLibs} {client : TrackerClient} {body : ByteVec} {reg : RegisterRequest}
    {peerId : String} (roundTrips : libs.registerRequest.RoundTrips)
    (written : libs.registerRequest.toVec reg = .ok body) (within : body.len ≤ maxRequestBodyBytes)
    (named : (trim reg.peerId).isEmpty = false) (canonical : libs.parsePeerId (trim reg.peerId) = some peerId) :
    readRegister libs (client.registerRequest body) = .ok (.inr (peerId, reg)) := by
  have parsed := roundTrips reg body written
  have short : body.bytes.length ≤ maxRequestBodyBytes := within
  unfold readRegister TrackerClient.registerRequest
  dsimp only
  rw [dif_pos short]
  simp only [parsed, named, canonical, Bool.false_eq_true, if_false]

/-! When `serve_async` registers. -/

inductive ServeEvent (PeerId : Type)
  | tick
  | addr (event : AddrEvent PeerId)

/-- Every new listener is registered at once, also with an address that is known. -/
def AddrEvent.isListen {PeerId : Type} : AddrEvent PeerId → Bool
  | .newListenAddr _ => true
  | _ => false

def ServeEvent.addrs {PeerId : Type} : ServeEvent PeerId → List (AddrEvent PeerId)
  | .tick => []
  | .addr event => [event]

/-- The addresses of a peer that is being served, and the registers that it has spawned. -/
structure Announced (PeerId : Type) where
  /-- What the swarm had reported by then. -/
  events : List (AddrEvent PeerId)
  reg : RegisterRequest

structure TrackerHost where
  ttlSec : UInt64
  token : Option String
  positive : 1 ≤ ttlSec
  bounded : (ttlSec.toNat : Int) ≤ maxI64

/-- A serving peer, and the trackers by their base URL with the requests that each has handled. -/
structure PresenceWorld (PeerId : Type) where
  events : List (AddrEvent PeerId)
  knownAddrs : List String
  spawned : List (Announced PeerId)
  histories : String → List (OffsetDateTime × HttpRequest)

inductive PresenceAction (PeerId : Type)
  | serve (event : ServeEvent PeerId)
  | register (tracker : String)
  | other (tracker : String)
  | restart (tracker : String)

section

variable {PeerId : Type} [DecidableEq PeerId] (libs : P2pLibs PeerId) (http : TrackerLibs) (localPeerId : PeerId)
  (peerMeta : PeerMeta) (trackers : List String) (trackerToken : Option String) (hosts : String → TrackerHost)

/-- The new `known_addrs`, and whether they are registered now. -/
def ServeEvent.handle (known : List String) : ServeEvent PeerId → List String × Bool
  | .tick => (known, !trackers.isEmpty && !known.isEmpty)
  | .addr event =>
    match publishedAddr libs localPeerId event with
    | none => (known, false)
    | some full => (known.insert full, !trackers.isEmpty && (event.isListen || !decide (full ∈ known)))

/-- `spawn_register_all`, with the addresses in the order in which the `HashSet` gives them. -/
def registerOf (addrs : List String) : RegisterRequest := ⟨libs.peerIdText localPeerId, addrs, some peerMeta⟩

def PresenceWorld.handles (w : PresenceWorld PeerId) (tracker : String) (now : OffsetDateTime) (req : HttpRequest) :
    PresenceWorld PeerId :=
  { w with histories := Function.update w.histories tracker (w.histories tracker ++ [(now, req)]) }

/-- The registers of the serving peer reach each of its trackers late, in any order, any number of
    times or not at all. Nobody else registers under its peer id. A tracker that restarts has
    forgotten everything. -/
inductive PresenceStep : PresenceWorld PeerId → PresenceAction PeerId → PresenceWorld PeerId → Prop
  | spawns (w : PresenceWorld PeerId) (event : ServeEvent PeerId) (addrs : List String) :
      (event.handle libs localPeerId trackers w.knownAddrs).2 = true →
      addrs.Perm (event.handle libs localPeerId trackers w.knownAddrs).1 →
      PresenceStep w (.serve event)
        { w with
          events := w.events ++ event.addrs
          knownAddrs := (event.handle libs localPeerId trackers w.knownAddrs).1
          spawned := ⟨w.events ++ event.addrs, registerOf libs localPeerId peerMeta addrs⟩ :: w.spawned }
  | stays (w : PresenceWorld PeerId) (event : ServeEvent PeerId) :
      (event.handle libs localPeerId trackers w.knownAddrs).2 = false →
      PresenceStep w (.serve event)
        { w with
          events := w.events ++ event.addrs
          knownAddrs := (event.handle libs localPeerId trackers w.knownAddrs).1 }
  | registers (w : PresenceWorld PeerId) (announced : Announced PeerId) (baseUrl : String) (body : ByteVec)
      (now : OffsetDateTime) :
      announced ∈ w.spawned → baseUrl ∈ trackers → http.registerRequest.toVec announced.reg = .ok body →
      (∀ handled ∈ w.histories (TrackerClient.new baseUrl trackerToken).baseUrl,
        handled.1.unixTimestamp ≤ now.unixTimestamp) →
      PresenceStep w (.register (TrackerClient.new baseUrl trackerToken).baseUrl)
        (w.handles (TrackerClient.new baseUrl trackerToken).baseUrl now
          ((TrackerClient.new baseUrl trackerToken).registerRequest body))
  | others (w : PresenceWorld PeerId) (tracker : String) (req : HttpRequest) (now : OffsetDateTime) :
      (∀ reg, acceptedRegister http (hosts tracker).token req ≠ some (libs.peerIdText localPeerId, reg)) →
      (∀ handled ∈ w.histories tracker, handled.1.unixTimestamp ≤ now.unixTimestamp) →
      PresenceStep w (.other tracker) (w.handles tracker now req)
  | restarts (w : PresenceWorld PeerId) (tracker : String) :
      PresenceStep w (.restart tracker) { w with histories := Function.update w.histories tracker [] }

structure PresenceInitial (w : PresenceWorld PeerId) : Prop where
  events : w.events = []
  knownAddrs : w.knownAddrs = []
  spawned : w.spawned = []
  histories : ∀ tracker, w.histories tracker = []

/-- The register carries what the peer had published when it was spawned. -/
structure Announced.Made (announced : Announced PeerId) (events : List (AddrEvent PeerId)) : Prop where
  earlier : announced.events <+: events
  peerId : announced.reg.peerId = libs.peerIdText localPeerId
  addrs : announced.reg.addrs.Perm (knownAddrs libs localPeerId announced.events)
  peerMeta : announced.reg.peerMeta = some peerMeta

def Ordered (history : List (OffsetDateTime × HttpRequest)) : Prop :=
  history.Pairwise fun earlier later => earlier.1.unixTimestamp ≤ later.1.unixTimestamp

/-- The last register under the peer's id that a tracker took is one that the peer has spawned. -/
structure PresenceInv (w : PresenceWorld PeerId) : Prop where
  known : w.knownAddrs = knownAddrs libs localPeerId w.events
  spawned : ∀ announced ∈ w.spawned, announced.Made libs localPeerId peerMeta w.events
  ordered : ∀ tracker, Ordered (w.histories tracker)
  last : ∀ tracker time reg,
    lastRegister http (hosts tracker).token (libs.peerIdText localPeerId) (w.histories tracker) = some (time, reg) →
    ∃ announced ∈ w.spawned, announced.reg = reg

variable {libs http localPeerId peerMeta trackers trackerToken hosts} {w after : PresenceWorld PeerId}

theorem handle_known (event : ServeEvent PeerId) (events : List (AddrEvent PeerId)) :
    (event.handle libs localPeerId trackers (knownAddrs libs localPeerId events)).1 =
      knownAddrs libs localPeerId (events ++ event.addrs) := by
  cases event with
  | tick => exact (congrArg (knownAddrs libs localPeerId) (List.append_nil events)).symm
  | addr event =>
    cases given : publishedAddr libs localPeerId event <;>
      simp only [ServeEvent.handle, ServeEvent.addrs, knownAddrs, List.foldl_append, List.foldl_cons,
        List.foldl_nil, given]

theorem Announced.Made.later {announced : Announced PeerId} {events : List (AddrEvent PeerId)}
    (made : announced.Made libs localPeerId peerMeta events) (more : List (AddrEvent PeerId)) :
    announced.Made libs localPeerId peerMeta (events ++ more) :=
  { made with earlier := made.earlier.trans (List.prefix_append events more) }

theorem ordered_snoc {history : List (OffsetDateTime × HttpRequest)} {now : OffsetDateTime} {req : HttpRequest}
    (ordered : Ordered history) (later : ∀ handled ∈ history, handled.1.unixTimestamp ≤ now.unixTimestamp) :
    Ordered (history ++ [(now, req)]) := by
  apply List.pairwise_append.mpr ⟨ordered, List.pairwise_singleton _ _, ?_⟩
  intro handled member newest listed
  rw [List.mem_singleton.mp listed]
  exact later handled member

theorem lastRegister_snoc (token : Option String) (peerId : String) (history : List (OffsetDateTime × HttpRequest))
    (handled : OffsetDateTime × HttpRequest) :
    lastRegister http token peerId (history ++ [handled]) =
      registerStep http token peerId (lastRegister http token peerId history) handled := by
  unfold lastRegister
  rw [List.foldl_append]
  rfl

/-- One more request at one tracker. -/
theorem PresenceInv.handles (inv : PresenceInv libs http localPeerId peerMeta hosts w) {tracker : String}
    {now : OffsetDateTime} {req : HttpRequest}
    (later : ∀ handled ∈ w.histories tracker, handled.1.unixTimestamp ≤ now.unixTimestamp)
    (own : ∀ reg, acceptedRegister http (hosts tracker).token req = some (libs.peerIdText localPeerId, reg) →
      ∃ announced ∈ w.spawned, announced.reg = reg) :
    PresenceInv libs http localPeerId peerMeta hosts (w.handles tracker now req) where
  known := inv.known
  spawned := inv.spawned
  ordered := by
    intro other
    show Ordered (Function.update w.histories tracker _ other)
    by_cases same : other = tracker
    · rw [same, Function.update_self]
      exact ordered_snoc (inv.ordered tracker) later
    · rw [Function.update_of_ne same]
      exact inv.ordered other
  last := by
    intro other time reg
    show lastRegister _ _ _ (Function.update w.histories tracker _ other) = _ → _
    by_cases same : other = tracker
    · rw [same, Function.update_self, lastRegister_snoc]
      unfold registerStep
      split
      · rename_i registered got accepted
        split
        · rename_i under
          intro given
          cases given
          rw [under] at accepted
          exact own reg accepted
        · exact inv.last tracker time reg
      · exact inv.last tracker time reg
    · rw [Function.update_of_ne same]
      exact inv.last other time reg

theorem PresenceInv.step (roundTrips : http.registerRequest.RoundTrips)
    (inv : PresenceInv libs http localPeerId peerMeta hosts w) {action : PresenceAction PeerId}
    (step : PresenceStep libs http localPeerId peerMeta trackers trackerToken hosts w action after) :
    PresenceInv libs http localPeerId peerMeta hosts after := by
  cases step with
  | spawns event addrs now order =>
    rw [inv.known, handle_known] at order
    refine ⟨?_, ?_, inv.ordered, fun tracker time reg given => ?_⟩
    · show (event.handle libs localPeerId trackers w.knownAddrs).1 = _
      rw [inv.known, handle_known]
    · intro announced listed
      rcases List.mem_cons.mp listed with rfl | before
      · exact ⟨List.prefix_rfl, rfl, order, rfl⟩
      · exact (inv.spawned announced before).later event.addrs
    · obtain ⟨announced, listed, same⟩ := inv.last tracker time reg given
      exact ⟨announced, List.mem_cons_of_mem _ listed, same⟩
  | stays event quiet =>
    refine ⟨?_, fun announced listed => (inv.spawned announced listed).later event.addrs, inv.ordered, inv.last⟩
    show (event.handle libs localPeerId trackers w.knownAddrs).1 = _
    rw [inv.known, handle_known]
  | registers announced baseUrl body now listed tracked written later =>
    apply inv.handles later
    intro reg accepted
    exact ⟨announced, listed, (registerRequest_accepted roundTrips written accepted).symm⟩
  | others tracker req now foreign later =>
    apply inv.handles later
    intro reg accepted
    exact absurd accepted (foreign reg)
  | restarts tracker =>
    refine ⟨inv.known, inv.spawned, fun other => ?_, fun other time reg => ?_⟩
    · show Ordered (Function.update w.histories tracker [] other)
      by_cases same : other = tracker
      · rw [same, Function.update_self]
        exact .nil
      · rw [Function.update_of_ne same]
        exact inv.ordered other
    · show lastRegister _ _ _ (Function.update w.histories tracker [] other) = _ → _
      by_cases same : other = tracker
      · rw [same, Function.update_self]
        exact nofun
      · rw [Function.update_of_ne same]
        exact inv.last other time reg

theorem PresenceInitial.inv (init : PresenceInitial w) : PresenceInv libs http localPeerId peerMeta hosts w where
  known := by rw [init.knownAddrs, init.events]; rfl
  spawned := by
    intro announced listed
    rw [init.spawned] at listed
    exact absurd listed List.not_mem_nil
  ordered := by
    intro tracker
    rw [init.histories tracker]
    exact .nil
  last := by
    intro tracker time reg given
    rw [init.histories tracker] at given
    cases given

/-! What `TrackerClient::list` makes of such a tracker. -/

theorem trackerList_unauthorized {token : Option String} {ttlSec : UInt64} {client : TrackerClient}
    {userId : Option String} (history : List (OffsetDateTime × HttpRequest)) (now : OffsetDateTime)
    (closed : tokenAllows token (client.listRequest http userId) = false) :
    ∃ err, trackerList http ttlSec token history now client userId = .error err := by
  have answer : (serveHttp http ttlSec token now (trackerAfter http ttlSec token history)
      (client.listRequest http userId)).1 = respondText 401 "unauthorized\n" := by
    unfold serveHttp routeHttpRequest
    rw [closed]
    rfl
  unfold trackerList TrackerClient.list
  rw [answer]
  dsimp only
  rw [requestWithRetry_const]
  exact ⟨_, rfl⟩

theorem chronological_of_ordered {history : List (OffsetDateTime × HttpRequest)} {now : OffsetDateTime}
    (ordered : Ordered history) (later : ∀ handled ∈ history, handled.1.unixTimestamp ≤ now.unixTimestamp) :
    Chronological history now := by
  apply List.pairwise_append.mpr ⟨List.pairwise_map.mpr ordered, List.pairwise_singleton _ _, ?_⟩
  intro second listed newest member
  obtain ⟨handled, inside, rfl⟩ := List.mem_map.mp listed
  rw [List.mem_singleton.mp member]
  exact later handled inside

/-- Where the client gets a list, it is the live peers. -/
theorem trackerList_live (roundTrips : http.listResponse.RoundTrips) (host : TrackerHost) {client : TrackerClient}
    {userId : Option String} (carried : ∀ text, userId = some text → UrlRoundTrips http text)
    {history : List (OffsetDateTime × HttpRequest)} {now : OffsetDateTime} (ordered : Chronological history now)
    {list : ListResponse} (given : trackerList http host.ttlSec host.token history now client userId = .ok list) :
    ListsLive http host.token host.ttlSec history now userId list.peers := by
  by_cases allowed : tokenAllows host.token (client.listRequest http userId) = true
  · have live := @listedPeers_live http host.token host.ttlSec now (limit_ne_zero host.positive) host.bounded history
      ordered userId
    rw [trackerList_eq carried allowed] at given
    by_cases fits : ListFits http (listedPeers (pruneExpired (trackerAfter http host.ttlSec host.token history) now
      host.ttlSec) userId)
    · rw [client_list_ok roundTrips fits] at given
      cases given
      exact live
    · obtain ⟨err, failed⟩ := @client_list_error http client userId _ fits
      cases failed.symm.trans given
  · obtain ⟨err, failed⟩ := @trackerList_unauthorized http host.token host.ttlSec client userId history now
      (eq_false_of_ne_true allowed)
    cases failed.symm.trans given

end

/-! What a peer that syncs finds. -/

section

variable {PeerId : Type} [DecidableEq PeerId] (libs : P2pLibs PeerId) (http : TrackerLibs) (localPeerId : PeerId)
  (hosts : String → TrackerHost) (w : PresenceWorld PeerId) (down : String → Option Error)
  (times : String → OffsetDateTime) (cfg : SyncConfig PeerId)

/-- Each tracker cannot be reached, or answers from what it has handled, at its own time. -/
def callTrackers : TrackerCalls := fun _ client userId =>
  match down client.baseUrl with
  | some err => .error err
  | none => trackerList http (hosts client.baseUrl).ttlSec (hosts client.baseUrl).token
      (w.histories client.baseUrl) (times client.baseUrl) client userId

/-- The last register of the serving peer that a tracker took is still live there. -/
def LiveAt (tracker : String) (reg : RegisterRequest) : Prop :=
  ∃ time, lastRegister http (hosts tracker).token (libs.peerIdText localPeerId) (w.histories tracker) =
      some (time, reg) ∧
    (times tracker).unixTimestamp - time.unixTimestamp ≤ (hosts tracker).ttlSec.toNat

/-- A tracker lists the serving peer to the one that syncs. -/
structure Shows (client : TrackerClient) : Prop where
  up : down client.baseUrl = none
  allowed : tokenAllows (hosts client.baseUrl).token (client.listRequest http cfg.userId) = true
  fits : ListFits http (listedPeers (pruneExpired (trackerAfter http (hosts client.baseUrl).ttlSec
    (hosts client.baseUrl).token (w.histories client.baseUrl)) (times client.baseUrl)
    (hosts client.baseUrl).ttlSec) cfg.userId)
  live : ∃ reg, LiveAt libs http localPeerId hosts w times client.baseUrl reg

/-- The target is dialled at the addresses that the serving peer had published when it spawned the
    register that is live at one of the trackers. -/
structure DialsPublished (relayAddr : Multiaddr PeerId) (target : SyncTarget PeerId) : Prop where
  relayAddr : target.relayAddr = some relayAddr
  published : ∃ baseUrl ∈ cfg.trackers, ∃ announced ∈ w.spawned, announced.events <+: w.events ∧
    LiveAt libs http localPeerId hosts w times (TrackerClient.new baseUrl cfg.trackerToken).baseUrl announced.reg ∧
    ∃ published : List String,
      (∀ full, full ∈ published ↔ full ∈ knownAddrs libs localPeerId announced.events) ∧
      target.directAddrs = directCandidateAddrsFromTracker libs published

/-- A serving peer is found while one of the trackers shows it, and every target for it that comes
    from a tracker is dialled where it was published. -/
structure Presence (relayAddr : Multiaddr PeerId) (store : LocalStore) (now : OffsetDateTime) : Prop where
  found : (∃ baseUrl ∈ cfg.trackers, Shows libs http localPeerId hosts w down times cfg
      (TrackerClient.new baseUrl cfg.trackerToken)) →
    ∃ targets, (discoverTargets libs (callTrackers http hosts w down times) store cfg now).1 = .ok targets ∧
      ∃ target ∈ targets, target.peerId = localPeerId ∧
        DialsPublished libs http localPeerId hosts w times cfg relayAddr target
  dialled : trackerPeers (callTrackers http hosts w down times) cfg ≠ [] →
    ∀ targets, (discoverTargets libs (callTrackers http hosts w down times) store cfg now).1 = .ok targets →
    ∀ target ∈ targets, target.peerId = localPeerId →
      DialsPublished libs http localPeerId hosts w times cfg relayAddr target

variable {libs http localPeerId hosts w down times cfg} {peerMeta : PeerMeta}

theorem callTrackers_live (roundTrips : http.listResponse.RoundTrips)
    (inv : PresenceInv libs http localPeerId peerMeta hosts w)
    (later : ∀ tracker, ∀ handled ∈ w.histories tracker, handled.1.unixTimestamp ≤ (times tracker).unixTimestamp)
    (carried : ∀ text, cfg.userId = some text → UrlRoundTrips http text) {index : Nat} {client : TrackerClient}
    {list : ListResponse} (given : callTrackers http hosts w down times index client cfg.userId = .ok list) :
    ListsLive http (hosts client.baseUrl).token (hosts client.baseUrl).ttlSec (w.histories client.baseUrl)
      (times client.baseUrl) cfg.userId list.peers := by
  unfold callTrackers at given
  split at given
  · cases given
  · exact trackerList_live roundTrips (hosts client.baseUrl) carried
      (chronological_of_ordered (inv.ordered client.baseUrl) (later client.baseUrl)) given

/-- What a tracker lists of the serving peer comes from a register that it has spawned. -/
theorem listed_announced (roundTrips : http.listResponse.RoundTrips)
    (inv : PresenceInv libs http localPeerId peerMeta hosts w)
    (later : ∀ tracker, ∀ handled ∈ w.histories tracker, handled.1.unixTimestamp ≤ (times tracker).unixTimestamp)
    (carried : ∀ text, cfg.userId = some text → UrlRoundTrips http text) {p : PeerInfo}
    (listed : p ∈ trackerPeers (callTrackers http hosts w down times) cfg)
    (own : p.peerId = libs.peerIdText localPeerId) :
    ∃ baseUrl ∈ cfg.trackers, ∃ announced ∈ w.spawned,
      LiveAt libs http localPeerId hosts w times (TrackerClient.new baseUrl cfg.trackerToken).baseUrl announced.reg ∧
      p.addrs = cleanAddrs announced.reg.addrs := by
  obtain ⟨tracker, numbered, inside⟩ := List.mem_flatMap.mp listed
  refine ⟨tracker.1, List.fst_mem_of_mem_zipIdx numbered, ?_⟩
  cases given : callTrackers http hosts w down times tracker.2 (TrackerClient.new tracker.1 cfg.trackerToken)
    cfg.userId with
  | error err =>
    rw [given] at inside
    cases inside
  | ok list =>
    rw [given] at inside
    have live := callTrackers_live roundTrips inv later carried given
    obtain ⟨time, reg, last, alive, -, same⟩ := (live.exact p).mp (List.mem_filter.mp inside).1
    rw [own] at last
    obtain ⟨announced, spawned, rfl⟩ := inv.last _ time reg last
    exact ⟨announced, spawned, ⟨time, last, alive⟩, congrArg PeerInfo.addrs same⟩

theorem shown_listed (roundTrips : http.listResponse.RoundTrips)
    (inv : PresenceInv libs http localPeerId peerMeta hosts w)
    (later : ∀ tracker, ∀ handled ∈ w.histories tracker, handled.1.unixTimestamp ≤ (times tracker).unixTimestamp)
    (carried : ∀ text, cfg.userId = some text → UrlRoundTrips http text)
    (sameUser : ∀ want, cfg.userId = some want → peerMeta.userId = some want)
    (otherDevice : isSelf cfg peerMeta.deviceId = false) {baseUrl : String} (tracked : baseUrl ∈ cfg.trackers)
    (shows : Shows libs http localPeerId hosts w down times cfg (TrackerClient.new baseUrl cfg.trackerToken)) :
    ∃ p ∈ trackerPeers (callTrackers http hosts w down times) cfg, p.peerId = libs.peerIdText localPeerId := by
  obtain ⟨index, place⟩ := List.mem_iff_getElem?.mp tracked
  let client := TrackerClient.new baseUrl cfg.trackerToken
  obtain ⟨reg, time, last, alive⟩ := shows.live
  obtain ⟨announced, spawned, rfl⟩ := inv.last _ time reg last
  have made := inv.spawned announced spawned
  let info : PeerInfo :=
    ⟨libs.peerIdText localPeerId, cleanAddrs announced.reg.addrs, announced.reg.peerMeta, time.unixTimestamp⟩
  let host := hosts client.baseUrl
  have live := @listedPeers_live http host.token host.ttlSec (times client.baseUrl) (limit_ne_zero host.positive)
    host.bounded (w.histories client.baseUrl)
    (chronological_of_ordered (inv.ordered client.baseUrl) (later client.baseUrl)) cfg.userId
  have shown : info ∈ listedPeers (pruneExpired (trackerAfter http host.ttlSec host.token
      (w.histories client.baseUrl)) (times client.baseUrl) host.ttlSec) cfg.userId := by
    apply (live.exact info).mpr
    exact ⟨time, announced.reg, last, alive, fun want asked => ⟨peerMeta, made.peerMeta, sameUser want asked⟩, rfl⟩
  have answer : callTrackers http hosts w down times index client cfg.userId = .ok ⟨listedPeers (pruneExpired
      (trackerAfter http host.ttlSec host.token (w.histories client.baseUrl)) (times client.baseUrl)
      host.ttlSec) cfg.userId⟩ := by
    unfold callTrackers
    rw [shows.up]
    dsimp only
    rw [trackerList_eq carried shows.allowed]
    exact client_list_ok roundTrips shows.fits
  have remote : isSelf cfg (infoDeviceId info) = false := by
    show isSelf cfg (announced.reg.peerMeta.bind PeerMeta.deviceId) = false
    rw [made.peerMeta]
    exact otherDevice
  refine ⟨info, List.mem_flatMap.mpr ⟨(baseUrl, index), List.mem_zipIdx_iff_getElem?.mpr place, ?_⟩, rfl⟩
  show info ∈ answerPeers cfg (callTrackers http hosts w down times index client cfg.userId)
  rw [answer]
  exact List.mem_filter.mpr ⟨shown, by rw [remote]; rfl⟩

/-- The tracker's cleaning changes nothing about addresses that print without blanks. -/
theorem cleanAddrs_plain {addrs : List String} (plain : ∀ full ∈ addrs, trim full = full ∧ full.isEmpty = false) :
    cleanAddrs addrs = addrs := by
  unfold cleanAddrs
  have trimmed : addrs.map trim = addrs :=
    (List.map_congr_left fun full listed => (plain full listed).1).trans (List.map_id addrs)
  rw [trimmed, List.filter_eq_self]
  intro full listed
  rw [(plain full listed).2]
  rfl

theorem knownAddrs_prefix {earlier events : List (AddrEvent PeerId)} (before : earlier <+: events) {full : String}
    (known : full ∈ knownAddrs libs localPeerId earlier) : full ∈ knownAddrs libs localPeerId events := by
  obtain ⟨event, member, given⟩ := mem_knownAddrs.mp known
  exact mem_knownAddrs.mpr ⟨event, before.subset member, given⟩

end

/-- In every run, a peer that serves and one that syncs meet at any tracker that both can use. -/
theorem serving_peer_is_found {PeerId : Type} [DecidableEq PeerId] {libs : P2pLibs PeerId} (texts : PeerIdText libs)
    {http : TrackerLibs} (registers : http.registerRequest.RoundTrips) (lists : http.listResponse.RoundTrips)
    {localPeerId : PeerId} {peerMeta : PeerMeta} {trackers : List String} {trackerToken : Option String}
    {hosts : String → TrackerHost} {initial w : PresenceWorld PeerId} {actions : List (PresenceAction PeerId)}
    (init : PresenceInitial initial)
    (run : Run (PresenceStep libs http localPeerId peerMeta trackers trackerToken hosts) initial actions w)
    (plain : ∀ full ∈ w.knownAddrs, trim full = full ∧ full.isEmpty = false) (down : String → Option Error)
    {times : String → OffsetDateTime}
    (later : ∀ tracker, ∀ handled ∈ w.histories tracker, handled.1.unixTimestamp ≤ (times tracker).unixTimestamp)
    {cfg : SyncConfig PeerId} {relayAddr : Multiaddr PeerId} (relay : cfg.relayAddr = some relayAddr)
    (carried : ∀ text, cfg.userId = some text → UrlRoundTrips http text)
    (sameUser : ∀ want, cfg.userId = some want → peerMeta.userId = some want)
    (otherDevice : isSelf cfg peerMeta.deviceId = false) (store : LocalStore) (now : OffsetDateTime) :
    Presence libs http localPeerId hosts w down times cfg relayAddr store now := by
  have inv : PresenceInv libs http localPeerId peerMeta hosts w :=
    run.invariant (PresenceInv libs http localPeerId peerMeta hosts) (fun inv step => inv.step registers step) init.inv
  let calls := callTrackers http hosts w down times
  have discovered : cfg.trackers ≠ [] → (trackerPeers calls cfg) ≠ [] →
      (discoverTargets libs calls store cfg now).1 = finishDiscovery
        (((trackerPeers calls cfg).foldl (keepFirst PeerInfo.peerId id) (∅ : ByPeer)).entries.filterMap
          (discoveredTarget libs cfg relayAddr)) := by
    intro tracked listed
    have some_peer : (trackerPeers calls cfg).isEmpty = false := by simpa using listed
    rw [discoverTargets_eq tracked relay, discoverListed, some_peer]
    rfl
  have made := @mem_listedTargets _ libs cfg relayAddr (trackerPeers calls cfg)
    (fun p listed => trackerPeers_remote listed)
  have dialled : trackerPeers calls cfg ≠ [] →
      ∀ targets, (discoverTargets libs calls store cfg now).1 = .ok targets →
      ∀ target ∈ targets, target.peerId = localPeerId →
        DialsPublished libs http localPeerId hosts w times cfg relayAddr target := by
    intro listed targets found target member own
    have tracked : cfg.trackers ≠ [] := by
      intro none
      apply listed
      unfold trackerPeers
      rw [none]
      rfl
    rw [discovered tracked listed] at found
    rw [← (finishDiscovery_ok.mp found).1] at member
    obtain ⟨p, first, dialled⟩ := made.mp member
    have named : p.peerId = libs.peerIdText localPeerId := by
      rw [← own]
      exact texts.unique p.peerId target.peerId dialled.peerId
    obtain ⟨baseUrl, tracked, announced, spawned, live, addrs⟩ :=
      listed_announced lists inv later carried (firstAt_some first).1 named
    have sent := inv.spawned announced spawned
    have published : ∀ full, full ∈ announced.reg.addrs ↔ full ∈ knownAddrs libs localPeerId announced.events :=
      fun full => sent.addrs.mem_iff
    have unchanged : cleanAddrs announced.reg.addrs = announced.reg.addrs := by
      apply cleanAddrs_plain
      intro full listed
      apply plain
      rw [inv.known]
      exact knownAddrs_prefix sent.earlier ((published full).mp listed)
    refine ⟨dialled.relayAddr, baseUrl, tracked, announced, spawned, sent.earlier, live, announced.reg.addrs,
      published, ?_⟩
    rw [dialled.directAddrs, addrs, unchanged]
  refine ⟨?_, dialled⟩
  rintro ⟨baseUrl, tracked, shows⟩
  obtain ⟨p, listed, own⟩ := shown_listed lists inv later carried sameUser otherDevice tracked shows
  obtain ⟨info, first⟩ := Option.isSome_iff_exists.mp (firstAt_isSome.mpr ⟨p, listed, own⟩)
  have named : info.peerId = libs.peerIdText localPeerId := (firstAt_some first).2
  rw [← named] at first
  let target : SyncTarget PeerId :=
    ⟨localPeerId, info.peerId, directCandidateAddrsFromTracker libs info.addrs, some relayAddr⟩
  have from_info : MadeFrom libs relayAddr info target := by
    refine ⟨rfl, ?_, rfl, rfl⟩
    rw [named]
    exact texts.reads localPeerId
  have member := made.mpr ⟨info, first, from_info⟩
  have result := discovered (List.ne_nil_of_mem tracked) (List.ne_nil_of_mem listed)
  rw [finishDiscovery_ok.mpr ⟨rfl, List.ne_nil_of_mem member⟩] at result
  exact ⟨_, result, target, member, rfl, dialled (List.ne_nil_of_mem listed) _ result target member rfl⟩

/-! A listener in the LAN, one tracker with a token, and a peer of the same user. -/

theorem lanSecond : 5 < 86400 := by decide

def lanTime : OffsetDateTime := .atSecond ⟨5, lanSecond⟩

def lanText : String := echoAddrText (ensureP2pSuffix lanAddr EchoPeer.remote)

def lanMeta : PeerMeta := ⟨some "dev-remote", some "remote", some "u1", some "0.1.0"⟩

def lanRegister : RegisterRequest := ⟨EchoPeer.text .remote, [lanText], some lanMeta⟩

def lanInfo : PeerInfo := ⟨EchoPeer.text .remote, [lanText], some lanMeta, 5⟩

def lanMetaText : String :=
  "\x7b\"device_id\":\"dev-remote\",\"hostname\":\"remote\",\"user_id\":\"u1\",\"version\":\"0.1.0\"\x7d"

def lanFieldsText : List UInt8 :=
  ascii "\"peer_id\":\"" ++ (ascii (EchoPeer.text .remote) ++ (ascii "\",\"addrs\":[\"" ++ (ascii lanText ++
    (ascii "\"],\"meta\":" ++ ascii lanMetaText))))

/-- What `serde_json` writes of the register. -/
@[irreducible]
def lanRegisterText : List UInt8 := ascii "\x7b" ++ (lanFieldsText ++ ascii "\x7d")

@[irreducible]
def lanListText : List UInt8 :=
  ascii "\x7b\"peers\":[\x7b" ++ (lanFieldsText ++ ascii ",\"last_seen_unix\":5\x7d]\x7d")

def lanLibs : TrackerLibs where
  registerRequest := listedSerde [(lanRegister, lanRegisterText)]
  registerResponse := listedSerde [(⟨true, 60⟩, ascii "\x7b\"ok\":true,\"ttl_sec\":60\x7d")]
  listResponse := listedSerde [(⟨[lanInfo]⟩, lanListText)]
  urlencode text := text
  urldecode text := .ok text
  parsePeerId text := if text = EchoPeer.text .remote then some text else none

theorem sixty_positive : 1 ≤ (60 : UInt64) := by decide

theorem sixty_bounded : (((60 : UInt64).toNat : Nat) : Int) ≤ maxI64 := by decide

def lanHost : TrackerHost := ⟨60, some "secret", sixty_positive, sixty_bounded⟩

def quietWorld : PresenceWorld EchoPeer := ⟨[], [], [], fun _ => []⟩

def lanConfig : SyncConfig EchoPeer :=
  p2pSyncConfig (some relayMultiaddr) ["http://tracker:8850/"] (some "secret") "u1" "dev-local"

theorem lanRegisterText_some : lanRegisterText ≠ [] := by
  unfold lanRegisterText
  exact List.append_ne_nil_of_left_ne_nil (by decide) _

theorem lanListText_some : lanListText ≠ [] := by
  unfold lanListText
  exact List.append_ne_nil_of_left_ne_nil (by decide) _

theorem lanFieldsText_short : lanFieldsText.length ≤ 900 := by decide +kernel

theorem lanRegisterText_short : lanRegisterText.length ≤ 1000 := by
  have around : (ascii "\x7b").length = 1 ∧ (ascii "\x7d").length = 1 := by decide
  have fields := lanFieldsText_short
  unfold lanRegisterText
  rw [List.length_append, List.length_append]
  omega

theorem lanListText_short : lanListText.length ≤ 1000 := by
  have around : (ascii "\x7b\"peers\":[\x7b").length = 11 ∧
      (ascii ",\"last_seen_unix\":5\x7d]\x7d").length = 22 := by decide
  have fields := lanFieldsText_short
  unfold lanListText
  rw [List.length_append, List.length_append]
  omega

theorem lanRegisterText_fits : lanRegisterText.length ≤ isizeMax := lanRegisterText_short.trans (by decide)

theorem lanListText_fits : lanListText.length ≤ isizeMax := lanListText_short.trans (by decide)

def lanBody : ByteVec := ⟨lanRegisterText, lanRegisterText_fits⟩

def lanListBody : ByteVec := ⟨lanListText, lanListText_fits⟩

theorem lanBody_within : lanBody.len ≤ maxRequestBodyBytes := by
  have limit : 1000 ≤ maxRequestBodyBytes := by decide
  exact Nat.le_trans lanRegisterText_short limit

theorem lanListBody_within : lanListBody.len ≤ intoStringLimit := by
  have limit : 1000 ≤ intoStringLimit := by decide
  exact Nat.le_trans lanListText_short limit

def lanClient : TrackerClient := TrackerClient.new "http://tracker:8850" (some "secret")

theorem lanRegister_written : lanLibs.registerRequest.toVec lanRegister = .ok lanBody :=
  @listedSerde_toVec _ _ [(lanRegister, lanRegisterText)] (List.nodup_singleton _) lanRegister lanRegisterText
    List.mem_cons_self lanRegisterText_fits

theorem lanRegister_roundTrips : lanLibs.registerRequest.RoundTrips :=
  @listedSerde_roundTrips_one _ _ lanRegister lanRegisterText lanRegisterText_some

theorem lanList_roundTrips : lanLibs.listResponse.RoundTrips :=
  @listedSerde_roundTrips_one ListResponse _ ⟨[lanInfo]⟩ lanListText lanListText_some

theorem lanList_written : lanLibs.listResponse.toVec ⟨[lanInfo]⟩ = .ok lanListBody :=
  @listedSerde_toVec ListResponse _ [(⟨[lanInfo]⟩, lanListText)] (List.nodup_singleton _) ⟨[lanInfo]⟩ lanListText
    List.mem_cons_self lanListText_fits

theorem lanPost_accepted : acceptedRegister lanLibs (some "secret") (lanClient.registerRequest lanBody) =
    some (EchoPeer.text .remote, lanRegister) := by
  have asked : (tokenAllows (some "secret") (lanClient.registerRequest lanBody) &&
      asks (lanClient.registerRequest lanBody) "POST" "/api/v1/peers/register") = true := by
    unfold tokenAllows asks isAuthorized headerValue TrackerClient.registerRequest
    dsimp only
    decide +kernel
  have read : readRegister lanLibs (lanClient.registerRequest lanBody) =
      .ok (.inr (EchoPeer.text .remote, lanRegister)) :=
    registerRequest_read lanRegister_roundTrips lanRegister_written lanBody_within (by decide) (by decide)
  rw [acceptedRegister, if_pos asked, read]

theorem lanList_peers :
    listedPeers (pruneExpired (trackerAfter lanLibs 60 (some "secret")
      [(lanTime, lanClient.registerRequest lanBody)]) (.atSecond 65) 60) (some "u1") = [lanInfo] := by
  have state : trackerAfter lanLibs 60 (some "secret") [(lanTime, lanClient.registerRequest lanBody)] =
      ⟨(pruneExpired ⟨∅⟩ (lanTime) 60).peers.insert (EchoPeer.text .remote)
        (peerRecord (lanTime) lanRegister)⟩ := by
    show (serveHttp lanLibs 60 (some "secret") (lanTime) ⟨∅⟩ (lanClient.registerRequest lanBody)).2 = _
    rcases serveHttp_cases lanLibs 60 (some "secret") (lanTime) ⟨∅⟩ (lanClient.registerRequest lanBody) with
      ⟨peerId, reg, accepted, next⟩ | ⟨refused, -⟩ | ⟨refused, -⟩
    · rw [lanPost_accepted] at accepted
      cases accepted
      exact next
    · cases lanPost_accepted.symm.trans refused
    · cases lanPost_accepted.symm.trans refused
  rw [state]
  decide

theorem lanPost_last : lastRegister lanLibs (some "secret") (EchoPeer.text .remote)
    [(lanTime, lanClient.registerRequest lanBody)] = some (lanTime, lanRegister) := by
  show registerStep lanLibs (some "secret") (EchoPeer.text .remote) none
    (lanTime, lanClient.registerRequest lanBody) = _
  unfold registerStep
  rw [lanPost_accepted]
  exact if_pos rfl

def lanWorld : PresenceWorld EchoPeer where
  events := [.newListenAddr lanAddr]
  knownAddrs := [lanText]
  spawned := [⟨[.newListenAddr lanAddr], lanRegister⟩]
  histories := Function.update (fun _ => []) lanClient.baseUrl [(lanTime, lanClient.registerRequest lanBody)]

theorem serving_peer_is_found_lan :
    ∃ targets : List (SyncTarget EchoPeer),
      (discoverTargets publishLibs (callTrackers lanLibs (fun _ => lanHost) lanWorld (fun _ => none)
        (fun _ => .atSecond 65)) opened lanConfig (.atSecond 65)).1 = .ok targets ∧
      ∃ target ∈ targets, target.peerId = .remote ∧
        DialsPublished publishLibs lanLibs .remote (fun _ => lanHost) lanWorld (fun _ => .atSecond 65) lanConfig
          relayMultiaddr target := by
  have initial : PresenceInitial quietWorld := ⟨rfl, rfl, rfl, fun _ => rfl⟩
  have idle : Run (PresenceStep publishLibs lanLibs .remote lanMeta ["http://tracker:8850"] (some "secret")
    (fun _ => lanHost)) quietWorld [] quietWorld := .nil _
  have spawned := idle.snoc (.spawns _ (.addr (.newListenAddr lanAddr)) [lanText] (by decide) (by decide))
  have registered := spawned.snoc (.registers _ ⟨[.newListenAddr lanAddr], lanRegister⟩ "http://tracker:8850" lanBody
    (lanTime) List.mem_cons_self List.mem_cons_self lanRegister_written (fun _ none => absurd none List.not_mem_nil))
  have texts : PeerIdText publishLibs := ⟨echoLibs_text.reads, echoLibs_text.unique⟩
  have plain : ∀ full ∈ lanWorld.knownAddrs, trim full = full ∧ full.isEmpty = false := by decide
  have carried : ∀ text, lanConfig.userId = some text → UrlRoundTrips lanLibs text := by
    intro text same
    cases same
    exact ⟨by decide, rfl⟩
  have later : ∀ tracker, ∀ handled ∈ lanWorld.histories tracker,
      handled.1.unixTimestamp ≤ (OffsetDateTime.atSecond 65).unixTimestamp := by
    intro tracker handled listed
    unfold lanWorld at listed
    by_cases same : tracker = lanClient.baseUrl
    · rw [same] at listed
      rw [List.mem_singleton.mp listed]
      decide
    · dsimp only at listed
      rw [Function.update_of_ne same] at listed
      exact absurd listed List.not_mem_nil
  have presence := @serving_peer_is_found _ _ publishLibs texts lanLibs lanRegister_roundTrips lanList_roundTrips
    .remote lanMeta ["http://tracker:8850"] (some "secret") (fun _ => lanHost) quietWorld lanWorld _ initial registered
    plain (fun _ => none) (fun _ => .atSecond 65) later lanConfig relayMultiaddr rfl carried (fun want same => same)
    (by decide) opened (.atSecond 65)
  have handled : lanWorld.histories (TrackerClient.new "http://tracker:8850/" lanConfig.trackerToken).baseUrl =
      [(lanTime, lanClient.registerRequest lanBody)] := by rfl
  have fits : ListFits lanLibs [lanInfo] := ⟨lanListBody, lanList_written, lanListBody_within⟩
  rw [← lanList_peers] at fits
  have shows : Shows publishLibs lanLibs .remote (fun _ => lanHost) lanWorld (fun _ => none) (fun _ => .atSecond 65)
      lanConfig (TrackerClient.new "http://tracker:8850/" lanConfig.trackerToken) := by
    refine ⟨rfl, by decide +kernel, ?_, lanRegister, lanTime, ?_, by decide⟩
    · rw [handled]
      exact fits
    · rw [handled]
      exact lanPost_last
  obtain ⟨targets, result, target, member, own, dials⟩ :=
    presence.found ⟨"http://tracker:8850/", List.mem_cons_self, shows⟩
  exact ⟨targets, result, target, member, own, dials⟩

end Rustory
