import Rustory.Tracker.Listing

namespace Rustory

open Foundations LocalStore

/-- What a tracker lists that has served this history. -/
def trackerLists (libs : TrackerLibs) (token : Option String) (ttlSec : UInt64)
    (history : List (OffsetDateTime × HttpRequest)) (now : OffsetDateTime) (userId : Option String) : List PeerInfo :=
  listedPeers (pruneExpired (trackerAfter libs ttlSec token history) now ttlSec) userId

/-- Some register request is well formed. -/
def AcceptsRegister (libs : TrackerLibs) : Prop :=
  ∃ data reg peerId, libs.registerRequest.fromSlice data = .ok reg ∧ data.len ≤ maxRequestBodyBytes ∧
    (trim reg.peerId).isEmpty = false ∧ libs.parsePeerId (trim reg.peerId) = some peerId

/-- Every peer listed with the first ttl is listed with the second, with the same record. -/
def KeepsListed (libs : TrackerLibs) (token : Option String) (ttlSec longerTtlSec : UInt64) : Prop :=
  ∀ history now userId, ∀ info ∈ trackerLists libs token ttlSec history now userId,
    info ∈ trackerLists libs token longerTtlSec history now userId

section

variable {libs : TrackerLibs} {token : Option String} {ttlSec longerTtlSec : UInt64} {now : OffsetDateTime}
  {history : List (OffsetDateTime × HttpRequest)} {userId : Option String} {info : PeerInfo}

/-- The list request is answered with what the tracker lists. -/
theorem serveHttp_lists {req : HttpRequest} (allowed : tokenAllows token req = true)
    (asked : asks req "GET" "/api/v1/peers" = true) (read : userIdQuery libs req = .ok userId) :
    (routeHttpRequest libs ttlSec token now (trackerAfter libs ttlSec token history) req).1 =
      respondJson libs.listResponse 200 ⟨trackerLists libs token ttlSec history now userId⟩ := by
  have ping := @asks_one _ _ _ "GET" "/api/v1/ping" asked (by decide)
  have register := @asks_one _ _ _ "POST" "/api/v1/peers/register" asked (by decide)
  unfold routeHttpRequest routeList trackerLists
  simp only [allowed, ping, register, asked, read, if_true, Bool.false_eq_true, if_false]

theorem mem_listedPeers {state : TrackerState} :
    info ∈ listedPeers state userId ↔
      ∃ record, state.peers.lookup info.peerId = some record ∧ userMatches userId record.peerMeta = true ∧
        info = ⟨info.peerId, record.addrs, record.peerMeta, record.lastSeenUnix⟩ := by
  unfold listedPeers
  rw [List.mem_map]
  constructor
  · intro ⟨entry, inside, same⟩
    obtain ⟨member, matching⟩ := List.mem_filter.mp inside
    rw [← same]
    exact ⟨entry.snd, AList.mem_lookup_iff.mpr member, matching, rfl⟩
  · intro ⟨record, found, matching, same⟩
    exact ⟨⟨info.peerId, record⟩, List.mem_filter.mpr ⟨AList.mem_lookup_iff.mp found, matching⟩, same.symm⟩

theorem listedPeers_within {state more : TrackerState} (within : Within state.peers more.peers)
    (listed : info ∈ listedPeers state userId) : info ∈ listedPeers more userId := by
  obtain ⟨record, found, matching, same⟩ := mem_listedPeers.mp listed
  exact mem_listedPeers.mpr ⟨record, within _ _ found, matching, same⟩

theorem trackerLists_zero : trackerLists libs token 0 history now userId = [] := rfl

/-- As long as the cast keeps the order of the two, the longer ttl lists at least as much. -/
theorem keepsListed_of_asI64 (positive : ttlSec ≠ 0) (positive' : longerTtlSec ≠ 0)
    (longer : asI64 ttlSec ≤ asI64 longerTtlSec) : KeepsListed libs token ttlSec longerTtlSec := by
  intro history now userId info listed
  unfold trackerLists at listed ⊢
  apply listedPeers_within _ listed
  have start : Within (∅ : AList fun _ : String => PeerRecord) ∅ := fun _ _ found => found
  have run : Within ((history.map (trackerEvent libs token)).foldl
      (leaseStep PeerRecord.lastSeenUnix (asI64 ttlSec)) ∅)
      ((history.map (trackerEvent libs token)).foldl (leaseStep PeerRecord.lastSeenUnix (asI64 longerTtlSec)) ∅) :=
    start.run longer _
  rw [pruneExpired_peers positive, pruneExpired_peers positive', trackerAfter_peers positive,
    trackerAfter_peers positive']
  exact run.expire longer now.unixTimestamp

theorem asI64_wraps {n : UInt64} (large : maxI64 < n.toNat) : asI64 n < 0 := by
  have bound := n.toNat_lt
  have most : maxI64 = 0x7FFFFFFFFFFFFFFF := rfl
  unfold asI64
  rw [if_neg (by omega)]
  omega

/-! A register and a list at one reading of the clock. -/

def registerWith (token : Option String) (data : ByteVec) : HttpRequest where
  method := "POST"
  url := "/api/v1/peers/register"
  headers :=
    match token with
    | none => []
    | some token => [("X-Rustory-Token", token)]
  body := .ok data.bytes

theorem registerWith_allowed (token : Option String) (data : ByteVec) :
    tokenAllows token (registerWith token data) = true := by
  cases token with
  | none => rfl
  | some token =>
    have noBearer : headerValue (registerWith (some token) data) "Authorization" = none := by
      have other : ("X-Rustory-Token".toLower == "Authorization".toLower) = false := by
        have lower : ∀ name : String, name.toLower.toList = name.toList.map Char.toLower :=
          fun name => String.toList_map
        rw [beq_eq_false_iff_ne, Ne, ← String.toList_inj, lower, lower]
        decide
      simp only [headerValue, registerWith, List.find?_cons, other, List.find?_nil, Option.map_none]
    have header : headerValue (registerWith (some token) data) "X-Rustory-Token" = some token := by
      simp only [headerValue, registerWith, List.find?_cons, BEq.rfl, Option.map_some]
    simp only [tokenAllows, isAuthorized, noBearer, header, Option.bind_none, BEq.rfl]
    split <;> rfl

theorem registerWith_accepted {data : ByteVec} {reg : RegisterRequest} {peerId : String}
    (parsed : libs.registerRequest.fromSlice data = .ok reg) (within : data.len ≤ maxRequestBodyBytes)
    (named : (trim reg.peerId).isEmpty = false) (canonical : libs.parsePeerId (trim reg.peerId) = some peerId) :
    acceptedRegister libs token (registerWith token data) = some (peerId, reg) := by
  have asked : asks (registerWith token data) "POST" "/api/v1/peers/register" = true := by
    show ("POST" == "POST" && urlPath "/api/v1/peers/register" == "/api/v1/peers/register") = true
    decide
  have read : readRegister libs (registerWith token data) = .ok (.inr (peerId, reg)) := by
    obtain ⟨bytes, fits⟩ := data
    have within' : bytes.length ≤ maxRequestBodyBytes := within
    unfold readRegister registerWith
    simp only [dif_pos within', parsed, named, canonical, Bool.false_eq_true, if_false]
  unfold acceptedRegister
  rw [registerWith_allowed, asked, read]
  rfl

theorem registered_peers {req : HttpRequest} {peerId : String} {reg : RegisterRequest}
    (accepted : acceptedRegister libs token req = some (peerId, reg)) :
    (trackerAfter libs ttlSec token [(now, req)]).peers.lookup peerId = some (peerRecord now reg) := by
  show (serveHttp libs ttlSec token now ⟨∅⟩ req).2.peers.lookup peerId = _
  rcases serveHttp_cases libs ttlSec token now ⟨∅⟩ req with ⟨_, _, given, next⟩ | ⟨refused, -⟩ | ⟨refused, -⟩
  · rw [accepted] at given
    cases given
    rw [next, AList.lookup_insert]
  · rw [accepted] at refused
    cases refused
  · rw [accepted] at refused
    cases refused

theorem registered_listed_iff {req : HttpRequest} {peerId : String} {reg : RegisterRequest}
    (accepted : acceptedRegister libs token req = some (peerId, reg)) (positive : ttlSec ≠ 0) :
    ⟨peerId, cleanAddrs reg.addrs, reg.peerMeta, now.unixTimestamp⟩ ∈
        trackerLists libs token ttlSec [(now, req)] now none ↔ 0 ≤ asI64 ttlSec := by
  unfold trackerLists
  rw [mem_listedPeers, pruneExpired_peers positive]
  simp only [lookup_expire, registered_peers accepted, Option.filter_some]
  have fresh : Alive PeerRecord.lastSeenUnix (asI64 ttlSec) now.unixTimestamp (peerRecord now reg) ↔
      0 ≤ asI64 ttlSec := by
    unfold Alive peerRecord
    dsimp only
    omega
  by_cases alive : 0 ≤ asI64 ttlSec
  · simp only [fresh, alive, decide_true, if_true, iff_true]
    exact ⟨_, rfl, rfl, rfl⟩
  · simp [fresh, alive]

end

/-- A longer ttl lists at least as much unless it alone is past what `i64` holds. -/
theorem longer_ttl_keeps_iff {libs : TrackerLibs} (accepts : AcceptsRegister libs) (token : Option String)
    {ttlSec longerTtlSec : UInt64} (longer : ttlSec ≤ longerTtlSec) :
    KeepsListed libs token ttlSec longerTtlSec ↔
      ttlSec = 0 ∨ (longerTtlSec.toNat : Int) ≤ maxI64 ∨ maxI64 < ttlSec.toNat := by
  have order : ttlSec.toNat ≤ longerTtlSec.toNat := longer
  constructor
  · intro keeps
    by_contra outside
    push Not at outside
    obtain ⟨positive, large, small⟩ := outside
    have positive' : longerTtlSec ≠ 0 := by
      intro zero
      rw [zero] at large
      exact absurd large (by decide)
    obtain ⟨data, reg, peerId, parsed, within, named, canonical⟩ := accepts
    have accepted := @registerWith_accepted libs token _ _ _ parsed within named canonical
    have listed := (@registered_listed_iff libs token _ (.atSecond 0) _ _ _ accepted positive).mpr (by
      rw [asI64_of_le small]
      omega)
    have kept := (registered_listed_iff accepted positive').mp (keeps _ _ _ _ listed)
    have wraps := asI64_wraps large
    omega
  · intro ordered
    by_cases zero : ttlSec = 0
    · intro history now userId info listed
      rw [zero, trackerLists_zero] at listed
      cases listed
    · have positive : 0 < ttlSec.toNat := Nat.pos_of_ne_zero fun same => zero (UInt64.toNat_inj.mp same)
      have positive' : longerTtlSec ≠ 0 := by
        intro zero'
        rw [zero'] at order
        exact absurd (Nat.lt_of_lt_of_le positive order) (by decide)
      apply keepsListed_of_asI64 zero positive'
      have most : maxI64 = 0x7FFFFFFFFFFFFFFF := rfl
      have unequal : ttlSec.toNat ≤ maxI64.toNat → longerTtlSec.toNat ≤ maxI64.toNat := by
        rcases ordered with same | fits | large
        · exact absurd same zero
        · omega
        · omega
      unfold asI64
      split <;> split <;> omega

theorem longLibs_accepts : AcceptsRegister (longLibs 4) := by
  obtain ⟨data, accepted⟩ := acceptedRegister_some (longPost_accepted (n := 4) (by decide))
  exact ⟨data, _, _, accepted.parsed, accepted.within, accepted.named, accepted.canonical⟩

theorem longer_ttl_keeps_hour : KeepsListed (longLibs 4) none 60 3600 :=
  (longer_ttl_keeps_iff longLibs_accepts none (by decide)).mpr (Or.inr (Or.inl (by decide)))

/-- The first ttl that the cast makes negative: nothing is listed any more. -/
theorem longest_ttl_hides_peer : ¬ KeepsListed (longLibs 4) none 60 0x8000000000000000 := by
  intro keeps
  have accepted : acceptedRegister (longLibs 4) none (longPost 4) = some (longPeerId, longRegister 4) :=
    longPost_accepted (by decide)
  have listed := (@registered_listed_iff _ _ 60 (.atSecond 1) _ _ _ accepted (by decide)).mpr (by decide)
  have kept := (registered_listed_iff accepted (by decide)).mp (keeps _ _ _ _ listed)
  exact absurd kept (by decide)

end Rustory
