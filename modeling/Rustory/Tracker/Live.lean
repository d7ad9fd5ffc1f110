import Rustory.Tracker.Server

namespace Rustory

open Foundations LocalStore

section

variable (libs : TrackerLibs) (token : Option String)

/-! What a request means to the table of peers. -/

def acceptedRegister (req : HttpRequest) : Option (String × RegisterRequest) :=
  if tokenAllows token req && asks req "POST" "/api/v1/peers/register" then
    match readRegister libs req with
    | .ok (.inr accepted) => some accepted
    | _ => none
  else
    none

def listsPeers (req : HttpRequest) : Bool :=
  tokenAllows token req && asks req "GET" "/api/v1/peers" && (userIdQuery libs req).isOk

def trackerOp (now : OffsetDateTime) (req : HttpRequest) : LeaseOp String PeerRecord :=
  match acceptedRegister libs token req with
  | some (peerId, reg) => .renew peerId (peerRecord now reg)
  | none => if listsPeers libs token req then .sweep else .idle

def registerStep (peerId : String) (last : Option (OffsetDateTime × RegisterRequest))
    (handled : OffsetDateTime × HttpRequest) : Option (OffsetDateTime × RegisterRequest) :=
  match acceptedRegister libs token handled.2 with
  | some (registered, reg) => if registered = peerId then some (handled.1, reg) else last
  | none => last

/-- The last accepted register of a peer id, with its time. -/
def lastRegister (peerId : String) (history : List (OffsetDateTime × HttpRequest)) :
    Option (OffsetDateTime × RegisterRequest) :=
  history.foldl (registerStep libs token peerId) none

end

section

variable {libs : TrackerLibs} {token : Option String} {ttlSec : UInt64} {now : OffsetDateTime}
  {state : TrackerState} {req : HttpRequest}

theorem serveHttp_state :
    (serveHttp libs ttlSec token now state req).2 = (routeHttpRequest libs ttlSec token now state req).2 := by
  unfold serveHttp
  dsimp only
  split <;> rfl

theorem pruneExpired_peers (positive : ttlSec ≠ 0) :
    (pruneExpired state now ttlSec).peers =
      expire PeerRecord.lastSeenUnix (asI64 ttlSec) now.unixTimestamp state.peers := by
  rw [pruneExpired, if_neg positive]

theorem asks_one {method path method' path' : String} (asked : asks req method path = true)
    (other : path ≠ path') : asks req method' path' = false := by
  unfold asks at *
  rw [Bool.and_eq_true, beq_iff_eq, beq_iff_eq] at asked
  rw [asked.2, Bool.and_eq_false_iff]
  exact Or.inr (beq_false_of_ne other)

/-- All that one request can do to the table. -/
theorem serveHttp_cases (libs : TrackerLibs) (ttlSec : UInt64) (token : Option String) (now : OffsetDateTime)
    (state : TrackerState) (req : HttpRequest) :
    (∃ peerId reg, acceptedRegister libs token req = some (peerId, reg) ∧
        (serveHttp libs ttlSec token now state req).2 =
          ⟨(pruneExpired state now ttlSec).peers.insert peerId (peerRecord now reg)⟩) ∨
      (acceptedRegister libs token req = none ∧ listsPeers libs token req = true ∧
        (serveHttp libs ttlSec token now state req).2 = pruneExpired state now ttlSec) ∨
      (acceptedRegister libs token req = none ∧ listsPeers libs token req = false ∧
        (serveHttp libs ttlSec token now state req).2 = state) := by
  rw [serveHttp_state]
  unfold routeHttpRequest acceptedRegister listsPeers
  cases tokenAllows token req with
  | false => simp
  | true =>
    cases ping : asks req "GET" "/api/v1/ping" with
    | true =>
      have register := @asks_one req _ _ "POST" "/api/v1/peers/register" ping (by decide)
      have list := @asks_one req _ _ "GET" "/api/v1/peers" ping (by decide)
      simp [register, list]
    | false =>
      cases register : asks req "POST" "/api/v1/peers/register" with
      | true =>
        have list := @asks_one req _ _ "GET" "/api/v1/peers" register (by decide)
        unfold routeRegister
        rcases readRegister libs req with err | response | ⟨peerId, reg⟩ <;> simp [list]
      | false =>
        cases asks req "GET" "/api/v1/peers" with
        | true =>
          unfold routeList
          cases userIdQuery libs req <;> simp [Except.isOk, Except.toBool]
        | false => simp

theorem serveHttp_step (positive : ttlSec ≠ 0) :
    (serveHttp libs ttlSec token now state req).2.peers =
      leaseStep PeerRecord.lastSeenUnix (asI64 ttlSec) state.peers
        (now.unixTimestamp, trackerOp libs token now req) := by
  unfold trackerOp
  rcases serveHttp_cases libs ttlSec token now state req with
    ⟨peerId, reg, accepted, next⟩ | ⟨refused, lists, next⟩ | ⟨refused, lists, next⟩
  · rw [accepted, next, pruneExpired_peers positive]
    rfl
  · rw [refused, lists, next, pruneExpired_peers positive]
    rfl
  · rw [refused, lists, next]
    rfl

/-! The table after a history of requests. -/

def trackerEvent (libs : TrackerLibs) (token : Option String) (handled : OffsetDateTime × HttpRequest) :
    Int × LeaseOp String PeerRecord :=
  (handled.1.unixTimestamp, trackerOp libs token handled.1 handled.2)

theorem serve_peers (positive : ttlSec ≠ 0) (history : List (OffsetDateTime × HttpRequest))
    (state : TrackerState) :
    (history.foldl (fun state handled => (serveHttp libs ttlSec token handled.1 state handled.2).2)
        state).peers =
      (history.map (trackerEvent libs token)).foldl (leaseStep PeerRecord.lastSeenUnix (asI64 ttlSec))
        state.peers := by
  induction history generalizing state with
  | nil => rfl
  | cons handled rest ih =>
    rw [List.foldl_cons, List.map_cons, List.foldl_cons, ih, serveHttp_step positive]
    rfl

theorem trackerAfter_peers (positive : ttlSec ≠ 0) (history : List (OffsetDateTime × HttpRequest)) :
    (trackerAfter libs ttlSec token history).peers =
      (history.map (trackerEvent libs token)).foldl (leaseStep PeerRecord.lastSeenUnix (asI64 ttlSec)) ∅ :=
  serve_peers positive history ⟨∅⟩

theorem latestStep_event (peerId : String) (last : Option (OffsetDateTime × RegisterRequest))
    (handled : OffsetDateTime × HttpRequest) :
    latestStep peerId (last.map fun last => peerRecord last.1 last.2) (trackerEvent libs token handled) =
      (registerStep libs token peerId last handled).map fun last => peerRecord last.1 last.2 := by
  unfold trackerEvent trackerOp registerStep
  cases acceptedRegister libs token handled.2 with
  | none =>
    dsimp only
    split <;> rfl
  | some accepted =>
    dsimp only [latestStep]
    split <;> rfl

theorem latest_registers (peerId : String) (history : List (OffsetDateTime × HttpRequest))
    (last : Option (OffsetDateTime × RegisterRequest)) :
    (history.map (trackerEvent libs token)).foldl (latestStep peerId)
        (last.map fun last => peerRecord last.1 last.2) =
      (history.foldl (registerStep libs token peerId) last).map fun last => peerRecord last.1 last.2 := by
  induction history generalizing last with
  | nil => rfl
  | cons handled rest ih => rw [List.map_cons, List.foldl_cons, List.foldl_cons, latestStep_event, ih]

theorem latestLease_lastRegister (peerId : String) (history : List (OffsetDateTime × HttpRequest)) :
    latestLease peerId (history.map (trackerEvent libs token)) =
      (lastRegister libs token peerId history).map fun last => peerRecord last.1 last.2 :=
  latest_registers peerId history none

def Chronological (history : List (OffsetDateTime × HttpRequest)) (now : OffsetDateTime) : Prop :=
  (history.map (fun handled => handled.1.unixTimestamp) ++ [now.unixTimestamp]).Pairwise (· ≤ ·)

/-- A peer is live while its last accepted register is at most `ttl` seconds old. -/
def Live (libs : TrackerLibs) (token : Option String) (ttlSec : UInt64)
    (history : List (OffsetDateTime × HttpRequest)) (now : OffsetDateTime) (userId : Option String)
    (info : PeerInfo) : Prop :=
  ∃ time reg, lastRegister libs token info.peerId history = some (time, reg) ∧
    now.unixTimestamp - time.unixTimestamp ≤ ttlSec.toNat ∧
    (∀ want, userId = some want → ∃ found, reg.peerMeta = some found ∧ found.userId = some want) ∧
    info = ⟨info.peerId, cleanAddrs reg.addrs, reg.peerMeta, time.unixTimestamp⟩

structure ListsLive (libs : TrackerLibs) (token : Option String) (ttlSec : UInt64)
    (history : List (OffsetDateTime × HttpRequest)) (now : OffsetDateTime) (userId : Option String)
    (peers : List PeerInfo) : Prop where
  once : (peers.map PeerInfo.peerId).Nodup
  exact : ∀ info, info ∈ peers ↔ Live libs token ttlSec history now userId info

theorem userMatches_iff {userId : Option String} {peerMeta : Option PeerMeta} :
    userMatches userId peerMeta = true ↔
      ∀ want, userId = some want → ∃ found, peerMeta = some found ∧ found.userId = some want := by
  cases userId <;> cases peerMeta <;> simp [userMatches]

theorem asI64_of_le {n : UInt64} (bounded : (n.toNat : Int) ≤ maxI64) : asI64 n = n.toNat := by
  have most : maxI64 = 0x7FFFFFFFFFFFFFFF := rfl
  unfold asI64
  rw [if_pos (by omega)]

theorem lookup_live (positive : ttlSec ≠ 0) {history : List (OffsetDateTime × HttpRequest)}
    (ordered : Chronological history now)
    (peerId : String) :
    (pruneExpired (trackerAfter libs ttlSec token history) now ttlSec).peers.lookup peerId =
      ((lastRegister libs token peerId history).map fun last => peerRecord last.1 last.2).filter
        fun record => decide (Alive PeerRecord.lastSeenUnix (asI64 ttlSec) now.unixTimestamp record) := by
  rw [pruneExpired_peers positive, trackerAfter_peers positive, lookup_run _ peerId, latestLease_lastRegister]
  rw [List.map_map]
  exact ordered

theorem lookup_live_iff (positive : ttlSec ≠ 0) (bounded : (ttlSec.toNat : Int) ≤ maxI64)
    {history : List (OffsetDateTime × HttpRequest)} (ordered : Chronological history now)
    {peerId : String} {record : PeerRecord} :
    (pruneExpired (trackerAfter libs ttlSec token history) now ttlSec).peers.lookup peerId = some record ↔
      ∃ time reg, lastRegister libs token peerId history = some (time, reg) ∧
        now.unixTimestamp - time.unixTimestamp ≤ ttlSec.toNat ∧ record = peerRecord time reg := by
  rw [lookup_live positive ordered, Option.filter_eq_some_iff, asI64_of_le bounded]
  constructor
  · intro ⟨given, alive⟩
    obtain ⟨⟨time, reg⟩, last, rfl⟩ := Option.map_eq_some_iff.mp given
    exact ⟨time, reg, last, of_decide_eq_true alive, rfl⟩
  · rintro ⟨time, reg, last, alive, rfl⟩
    exact ⟨Option.map_eq_some_iff.mpr ⟨(time, reg), last, rfl⟩, decide_eq_true alive⟩

theorem listedPeers_live (positive : ttlSec ≠ 0) (bounded : (ttlSec.toNat : Int) ≤ maxI64)
    {history : List (OffsetDateTime × HttpRequest)} (ordered : Chronological history now)
    (userId : Option String) :
    ListsLive libs token ttlSec history now userId
      (listedPeers (pruneExpired (trackerAfter libs ttlSec token history) now ttlSec) userId) := by
  constructor
  · unfold listedPeers
    rw [List.map_map]
    exact (List.filter_sublist.map _).nodup (AList.keys_nodup _)
  · intro info
    unfold listedPeers Live
    simp only [List.mem_map, List.mem_filter, userMatches_iff]
    constructor
    · rintro ⟨⟨peerId, record⟩, ⟨member, matching⟩, rfl⟩
      obtain ⟨time, reg, last, alive, rfl⟩ :=
        (lookup_live_iff positive bounded ordered).mp (AList.mem_lookup_iff.mpr member)
      exact ⟨time, reg, last, alive, matching, rfl⟩
    · intro ⟨time, reg, last, alive, matching, same⟩
      have found := (lookup_live_iff positive bounded ordered).mpr ⟨time, reg, last, alive, rfl⟩
      exact ⟨⟨info.peerId, peerRecord time reg⟩, ⟨AList.mem_lookup_iff.mp found, matching⟩, same.symm⟩

end

end Rustory
