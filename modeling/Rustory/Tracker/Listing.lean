import Rustory.Tracker.Live

namespace Rustory

open Foundations LocalStore

/-- `urlencoding::encode` leaves no separator in a query, and `decode` reads it back. -/
structure UrlRoundTrips (libs : TrackerLibs) (text : String) : Prop where
  encoded : '&' ∉ (libs.urlencode text).toList
  decoded : libs.urldecode (libs.urlencode text) = .ok text

section

variable {libs : TrackerLibs} {token : Option String} {ttlSec : UInt64} {now : OffsetDateTime}
  {state : TrackerState} {client : TrackerClient} {userId : Option String}

/-! The user id on its way through the query. -/

theorem listPath_toList (text : String) :
    (listPath libs (some text)).toList =
      "/api/v1/peers".toList ++ '?' :: ("user_id".toList ++ '=' :: (libs.urlencode text).toList) := by
  have literal : "/api/v1/peers?user_id=".toList = "/api/v1/peers".toList ++ '?' :: ("user_id".toList ++ ['=']) := by
    decide
  show ("/api/v1/peers?user_id=" ++ libs.urlencode text).toList = _
  rw [String.toList_append, literal]
  simp only [List.append_assoc, List.cons_append, List.nil_append]

theorem queryGet_userId {encoded : String} (plain : '&' ∉ encoded.toList) :
    queryGet (.ofList ("user_id".toList ++ '=' :: encoded.toList)) "user_id" = some encoded := by
  have parts : ("user_id".toList ++ '=' :: encoded.toList).splitOn '&' =
      ["user_id".toList ++ '=' :: encoded.toList] := by
    apply List.splitOnP_eq_singleton
    intro c member
    rw [beq_eq_false_iff_ne]
    rintro rfl
    rcases List.mem_append.mp member with name | value
    · exact absurd name (by decide)
    · rcases List.mem_cons.mp value with equals | inside
      · exact absurd equals (by decide)
      · exact plain inside
  have pair : splitOnce '=' (.ofList ("user_id".toList ++ '=' :: encoded.toList)) =
      some (.ofList "user_id".toList, .ofList encoded.toList) :=
    splitOnce_of_toList String.toList_ofList (by decide)
  unfold queryGet
  rw [String.toList_ofList, parts, List.findSome?_cons, pair, String.ofList_toList, String.ofList_toList]
  rfl

theorem listRequest_path : urlPath (client.listRequest libs userId).url = "/api/v1/peers" := by
  show urlPath (listPath libs userId) = _
  cases userId with
  | none =>
    show urlPath "/api/v1/peers" = _
    decide
  | some text =>
    unfold urlPath
    rw [splitOnce_of_toList (listPath_toList text) (by decide)]
    exact String.ofList_toList

theorem listRequest_userId (carried : ∀ text, userId = some text → UrlRoundTrips libs text) :
    userIdQuery libs (client.listRequest libs userId) = .ok userId := by
  have url : (client.listRequest libs userId).url = listPath libs userId := rfl
  rw [userIdQuery, url]
  cases userId with
  | none =>
    have query : urlQuery (listPath libs none) = none := by
      show urlQuery "/api/v1/peers" = none
      decide
    rw [query]
    rfl
  | some text =>
    obtain ⟨plain, decoded⟩ := carried text rfl
    have query : urlQuery (listPath libs (some text)) =
        some (.ofList ("user_id".toList ++ '=' :: (libs.urlencode text).toList)) := by
      unfold urlQuery
      rw [splitOnce_of_toList (listPath_toList text) (by decide)]
      rfl
    rw [query, Option.bind_some, queryGet_userId plain]
    simp only [decoded]

theorem listRequest_answer (allowed : tokenAllows token (client.listRequest libs userId) = true)
    (carried : ∀ text, userId = some text → UrlRoundTrips libs text) :
    routeHttpRequest libs ttlSec token now state (client.listRequest libs userId) =
      (respondJson libs.listResponse 200 ⟨listedPeers (pruneExpired state now ttlSec) userId⟩,
        pruneExpired state now ttlSec) := by
  have path := @listRequest_path libs client userId
  have list : asks (client.listRequest libs userId) "GET" "/api/v1/peers" = true := by
    unfold asks
    rw [path]
    rfl
  have ping := @asks_one _ _ _ "GET" "/api/v1/ping" list (by decide)
  have register := @asks_one _ _ _ "POST" "/api/v1/peers/register" list (by decide)
  unfold routeHttpRequest routeList
  rw [listRequest_userId carried]
  simp [allowed, list, ping, register]

/-! What the client makes of the answer. -/

/-- `into_string` takes the reply. -/
def ListFits (libs : TrackerLibs) (peers : List PeerInfo) : Prop :=
  ∃ body, libs.listResponse.toVec ⟨peers⟩ = .ok body ∧ body.len ≤ intoStringLimit

/-- The answer to a list request that gave these peers. -/
def listAnswer (libs : TrackerLibs) (peers : List PeerInfo) : HttpResponse :=
  match respondJson libs.listResponse 200 ⟨peers⟩ with
  | .ok response => response
  | .error err => respondText 500 ("error: " ++ displayChain err ++ "\n")

theorem client_list_ok (roundTrips : libs.listResponse.RoundTrips) {peers : List PeerInfo}
    (fits : ListFits libs peers) : client.list libs userId (listAnswer libs peers) = .ok ⟨peers⟩ := by
  obtain ⟨body, written, within⟩ := fits
  have answer : listAnswer libs peers = ⟨200, body.bytes⟩ := by
    simp only [listAnswer, respondJson, written]
  unfold TrackerClient.list
  dsimp only
  rw [requestWithRetry_const, answer]
  show readList libs ⟨200, body.bytes⟩ = _
  simp only [readList, intoString_small within, roundTrips _ _ written]

theorem client_list_error {peers : List PeerInfo} (unfit : ¬ ListFits libs peers) :
    ∃ err, client.list libs userId (listAnswer libs peers) = .error err := by
  unfold TrackerClient.list
  dsimp only
  rw [requestWithRetry_const]
  cases written : libs.listResponse.toVec ⟨peers⟩ with
  | error text =>
    have answer : (listAnswer libs peers).code = 500 := by
      simp only [listAnswer, respondJson, written, respondText]
    have fails : 400 ≤ (listAnswer libs peers).code := by omega
    simp only [call, if_pos fails, Except.mapError]
    exact ⟨_, rfl⟩
  | ok body =>
    have answer : listAnswer libs peers = ⟨200, body.bytes⟩ := by
      simp only [listAnswer, respondJson, written]
    have large : intoStringLimit < body.len := by
      by_contra within
      exact unfit ⟨body, written, Nat.not_lt.mp within⟩
    rw [answer]
    show ∃ err, readList libs ⟨200, body.bytes⟩ = .error err
    simp only [readList, intoString_large large]
    exact ⟨_, rfl⟩

/-! Requests that the tracker turns down. -/

inductive Refused (libs : TrackerLibs) (token : Option String) (req : HttpRequest) : Prop
  | unauthorized : tokenAllows token req = false → Refused libs token req
  | unreadable {text : String} : asks req "POST" "/api/v1/peers/register" = true → req.body = .error text →
      Refused libs token req
  | oversized {buf : List UInt8} : asks req "POST" "/api/v1/peers/register" = true → req.body = .ok buf →
      maxRequestBodyBytes < buf.length → Refused libs token req
  | malformed {data : ByteVec} {text : String} : asks req "POST" "/api/v1/peers/register" = true →
      req.body = .ok data.bytes → libs.registerRequest.fromSlice data = .error text → Refused libs token req
  | blankPeerId {data : ByteVec} {reg : RegisterRequest} :
      asks req "POST" "/api/v1/peers/register" = true → req.body = .ok data.bytes →
      libs.registerRequest.fromSlice data = .ok reg → (trim reg.peerId).isEmpty = true →
      Refused libs token req
  | invalidPeerId {data : ByteVec} {reg : RegisterRequest} :
      asks req "POST" "/api/v1/peers/register" = true → req.body = .ok data.bytes →
      libs.registerRequest.fromSlice data = .ok reg → libs.parsePeerId (trim reg.peerId) = none →
      Refused libs token req
  | undecodable {err : Error} : asks req "GET" "/api/v1/peers" = true → userIdQuery libs req = .error err →
      Refused libs token req

/-- What an accepted register has come through. -/
structure RegisterAccepted (libs : TrackerLibs) (token : Option String) (req : HttpRequest) (peerId : String)
    (reg : RegisterRequest) (data : ByteVec) : Prop where
  allowed : tokenAllows token req = true
  asked : asks req "POST" "/api/v1/peers/register" = true
  body : req.body = .ok data.bytes
  within : data.len ≤ maxRequestBodyBytes
  parsed : libs.registerRequest.fromSlice data = .ok reg
  named : (trim reg.peerId).isEmpty = false
  canonical : libs.parsePeerId (trim reg.peerId) = some peerId

theorem acceptedRegister_some {req : HttpRequest} {peerId : String} {reg : RegisterRequest}
    (accepted : acceptedRegister libs token req = some (peerId, reg)) :
    ∃ data, RegisterAccepted libs token req peerId reg data := by
  unfold acceptedRegister at accepted
  split at accepted
  · rename_i asked
    obtain ⟨allowed, asked⟩ := Bool.and_eq_true_iff.mp asked
    split at accepted
    · rename_i read
      cases accepted
      unfold readRegister at read
      split at read
      · cases read
      · rename_i buf body
        split at read
        · rename_i within
          split at read
          · cases read
          · rename_i parsed
            dsimp only at read
            split at read
            · cases read
            · rename_i named
              split at read
              · cases read
              · rename_i canonical
                cases read
                exact ⟨⟨buf, _⟩, allowed, asked, body, within, parsed, by simpa using named, canonical⟩
        · cases read
    · cases accepted
  · cases accepted

theorem Refused.notAccepted {req : HttpRequest} (refused : Refused libs token req) :
    acceptedRegister libs token req = none := by
  by_contra accepted
  obtain ⟨⟨peerId, reg⟩, accepted⟩ := Option.ne_none_iff_exists'.mp accepted
  obtain ⟨data, accepted⟩ := acceptedRegister_some accepted
  have sameData : ∀ other : ByteVec, req.body = .ok other.bytes → other = data := by
    intro ⟨bytes, fits⟩ body
    rw [accepted.body] at body
    obtain ⟨bytes', fits'⟩ := data
    cases body
    rfl
  cases refused with
  | unauthorized closed => simp [accepted.allowed] at closed
  | unreadable _ body => simp [accepted.body] at body
  | oversized _ body large =>
    rw [accepted.body] at body
    cases body
    exact Nat.not_lt.mpr accepted.within large
  | malformed _ body failed =>
    rw [sameData _ body, accepted.parsed] at failed
    cases failed
  | blankPeerId _ body parsed blank =>
    rw [sameData _ body, accepted.parsed] at parsed
    cases parsed
    rw [accepted.named] at blank
    cases blank
  | invalidPeerId _ body parsed invalid =>
    rw [sameData _ body, accepted.parsed] at parsed
    cases parsed
    rw [accepted.canonical] at invalid
    cases invalid
  | undecodable asked _ =>
    have other := @asks_one _ _ _ "POST" "/api/v1/peers/register" asked (by decide)
    simp [accepted.asked] at other

theorem Refused.notListed {req : HttpRequest} (refused : Refused libs token req) :
    listsPeers libs token req = false := by
  have register : asks req "POST" "/api/v1/peers/register" = true → listsPeers libs token req = false := by
    intro asked
    have other := @asks_one _ _ _ "GET" "/api/v1/peers" asked (by decide)
    simp [listsPeers, other]
  cases refused with
  | unauthorized closed => simp [listsPeers, closed]
  | unreadable asked _ => exact register asked
  | oversized asked _ _ => exact register asked
  | malformed asked _ _ => exact register asked
  | blankPeerId asked _ _ _ => exact register asked
  | invalidPeerId asked _ _ _ => exact register asked
  | undecodable asked failed => simp [listsPeers, failed, Except.isOk, Except.toBool]

theorem Refused.keeps {req : HttpRequest} (refused : Refused libs token req) :
    (serveHttp libs ttlSec token now state req).2 = state := by
  rcases serveHttp_cases libs ttlSec token now state req with
    ⟨peerId, reg, accepted, -⟩ | ⟨-, lists, -⟩ | ⟨-, -, next⟩
  · rw [refused.notAccepted] at accepted
    cases accepted
  · rw [refused.notListed] at lists
    cases lists
  · exact next

/-- A history without its refused requests leaves the tracker in the same state. -/
theorem trackerAfter_refused {before after : List (OffsetDateTime × HttpRequest)}
    {handled : OffsetDateTime × HttpRequest} (refused : Refused libs token handled.2) :
    trackerAfter libs ttlSec token (before ++ handled :: after) =
      trackerAfter libs ttlSec token (before ++ after) := by
  unfold trackerAfter
  rw [List.foldl_append, List.foldl_append, List.foldl_cons, refused.keeps]

end

/-- `TrackerClient::list`, sent to a tracker that has served this history. -/
def trackerList (libs : TrackerLibs) (ttlSec : UInt64) (token : Option String)
    (history : List (OffsetDateTime × HttpRequest)) (now : OffsetDateTime) (client : TrackerClient)
    (userId : Option String) : Except Error ListResponse :=
  client.list libs userId (serveHttp libs ttlSec token now (trackerAfter libs ttlSec token history)
    (client.listRequest libs userId)).1

theorem trackerList_eq {libs : TrackerLibs} {ttlSec : UInt64} {token : Option String}
    {client : TrackerClient} {userId : Option String}
    (carried : ∀ text, userId = some text → UrlRoundTrips libs text)
    (allowed : tokenAllows token (client.listRequest libs userId) = true)
    (history : List (OffsetDateTime × HttpRequest)) (now : OffsetDateTime) :
    trackerList libs ttlSec token history now client userId = client.list libs userId (listAnswer libs
      (listedPeers (pruneExpired (trackerAfter libs ttlSec token history) now ttlSec) userId)) := by
  unfold trackerList serveHttp
  rw [listRequest_answer allowed carried]
  apply congrArg
  dsimp only
  unfold listAnswer
  cases respondJson libs.listResponse 200
    ⟨listedPeers (pruneExpired (trackerAfter libs ttlSec token history) now ttlSec) userId⟩ <;> rfl

/-- What a tracker that has served this history lists: the live peers, unless their JSON is too
    long for the client. Requests that it refused make no difference. -/
structure TracksLive (libs : TrackerLibs) (ttlSec : UInt64) (token : Option String)
    (history : List (OffsetDateTime × HttpRequest)) (now : OffsetDateTime) (client : TrackerClient)
    (userId : Option String) : Prop where
  lists : ∃ peers, ListsLive libs token ttlSec history now userId peers ∧
    (ListFits libs peers → trackerList libs ttlSec token history now client userId = .ok ⟨peers⟩) ∧
    (¬ ListFits libs peers → ∃ err, trackerList libs ttlSec token history now client userId = .error err)
  refused : ∀ before handled after, history = before ++ handled :: after → Refused libs token handled.2 →
    trackerList libs ttlSec token history now client userId =
      trackerList libs ttlSec token (before ++ after) now client userId

theorem tracker_lists_live (libs : TrackerLibs) (roundTrips : libs.listResponse.RoundTrips)
    (ttlSec : UInt64) (positive : 1 ≤ ttlSec) (bounded : (ttlSec.toNat : Int) ≤ maxI64)
    (token : Option String) (history : List (OffsetDateTime × HttpRequest)) (now : OffsetDateTime)
    (ordered : Chronological history now) (client : TrackerClient) (userId : Option String)
    (carried : ∀ text, userId = some text → UrlRoundTrips libs text)
    (allowed : tokenAllows token (client.listRequest libs userId) = true) :
    TracksLive libs ttlSec token history now client userId := by
  constructor
  · rw [trackerList_eq carried allowed]
    exact ⟨_, listedPeers_live (limit_ne_zero positive) bounded ordered userId, client_list_ok roundTrips,
      client_list_error⟩
  · intro before handled after split refused
    unfold trackerList
    rw [split, trackerAfter_refused refused]

/-! Three registers of two users. -/

theorem listedSerde_roundTrips_one {α : Type} [DecidableEq α] {v : α} {text : List UInt8} (some : text ≠ []) :
    (listedSerde [(v, text)]).RoundTrips := by
  apply listedSerde_roundTrips
  · simp
  · simpa using some.symm

/-- What a peer registers, given with its user. -/
def userRegister (peer : String × String) : RegisterRequest :=
  ⟨peer.1, ["/ip4/192.0.2.1/tcp/8845"], some ⟨none, none, some peer.2, none⟩⟩

def userRegisterText (peer : String × String) : List UInt8 :=
  ascii ("\x7b\"peer_id\":\"" ++ peer.1 ++ "\",\"addrs\":[\"/ip4/192.0.2.1/tcp/8845\"],\"meta\":\x7b\"device_id\":null," ++
    "\"hostname\":null,\"user_id\":\"" ++ peer.2 ++ "\",\"version\":null\x7d\x7d")

def userPost (peer : String × String) : HttpRequest :=
  ⟨"POST", "/api/v1/peers/register", [], .ok (userRegisterText peer)⟩

def stalePeer : String × String := ("12D3KooWNay6utdVFTuikrxno2AaHrhdkcPwPdDDDCcvdPv6ixtV", "u1")
def livePeer : String × String := ("12D3KooWA1yXQfKD3c8QznGkpf1ZepPH1FQKwAwMxbTh1feQsapZ", "u1")
def otherPeer : String × String := ("12D3KooWR1xWCziqXrwUo2hsnQK63CP8r4B2HaMru8ksokAm7UAW", "u2")
def userPeers : List (String × String) := [stalePeer, livePeer, otherPeer]

def liveInfo : PeerInfo := ⟨livePeer.1, (userRegister livePeer).addrs, (userRegister livePeer).peerMeta, 50⟩

def liveListText : List UInt8 :=
  ascii ("\x7b\"peers\":[\x7b\"peer_id\":\"" ++ livePeer.1 ++ "\",\"addrs\":[\"/ip4/192.0.2.1/tcp/8845\"],\"meta\":\x7b" ++
    "\"device_id\":null,\"hostname\":null,\"user_id\":\"u1\",\"version\":null\x7d,\"last_seen_unix\":50\x7d]\x7d")

def userLibs : TrackerLibs where
  registerRequest := listedSerde (userPeers.map fun peer => (userRegister peer, userRegisterText peer))
  registerResponse := listedSerde [(⟨true, 60⟩, ascii "\x7b\"ok\":true,\"ttl_sec\":60\x7d")]
  listResponse := listedSerde [(⟨[liveInfo]⟩, liveListText)]
  urlencode text := text
  urldecode text := .ok text
  parsePeerId text := if text ∈ userPeers.map Prod.fst then some text else none

/-- Of three registers one has expired, and one is another user's. -/
theorem tracker_lists_live_short :
    TracksLive userLibs 60 none
        [(.atSecond 1, userPost stalePeer), (.atSecond 50, userPost livePeer), (.atSecond 60, userPost otherPeer)]
        (.atSecond 100) ⟨"http://tracker:8850", none⟩ (some "u1") ∧
      trackerList userLibs 60 none
        [(.atSecond 1, userPost stalePeer), (.atSecond 50, userPost livePeer), (.atSecond 60, userPost otherPeer)]
        (.atSecond 100) ⟨"http://tracker:8850", none⟩ (some "u1") = .ok ⟨[liveInfo]⟩ := by
  constructor
  · have some_text : liveListText ≠ [] := by decide +kernel
    have ordered : Chronological [(.atSecond 1, userPost stalePeer), (.atSecond 50, userPost livePeer),
        (.atSecond 60, userPost otherPeer)] (.atSecond 100) := by
      unfold Chronological
      decide
    have carried : ∀ text, some "u1" = some text → UrlRoundTrips userLibs text := by
      intro text same
      cases same
      exact ⟨by decide, rfl⟩
    exact tracker_lists_live userLibs (listedSerde_roundTrips_one some_text) 60 (by decide) (by decide) none _ _ ordered
      ⟨"http://tracker:8850", none⟩ (some "u1") carried rfl
  · decide +kernel

/-! A peer with one address of `n` characters. -/

section

variable (n : Nat)

def longPeerId : String := "12D3KooWD3eckifWpRn9wQpMG9R9hX3sD158z7EqHWmweQAJU5SA"

def longAddr : String := .ofList (List.replicate n 'a')

def longRegister : RegisterRequest := ⟨longPeerId, [longAddr n], none⟩
def longInfo : PeerInfo := ⟨longPeerId, [longAddr n], none, 1⟩

def longRegisterText : List UInt8 :=
  ascii ("\x7b\"peer_id\":\"" ++ longPeerId ++ "\",\"addrs\":[\"") ++ List.replicate n 97 ++
    ascii "\"],\"meta\":null\x7d"

def longListText : List UInt8 :=
  ascii ("\x7b\"peers\":[\x7b\"peer_id\":\"" ++ longPeerId ++ "\",\"addrs\":[\"") ++ List.replicate n 97 ++
    ascii "\"],\"meta\":null,\"last_seen_unix\":1\x7d]\x7d"

def longLibs : TrackerLibs where
  registerRequest := listedSerde [(longRegister n, longRegisterText n)]
  registerResponse := listedSerde [(⟨true, 60⟩, ascii "\x7b\"ok\":true,\"ttl_sec\":60\x7d")]
  listResponse := listedSerde [(⟨[longInfo n]⟩, longListText n)]
  urlencode text := text
  urldecode text := .ok text
  parsePeerId text := if text = longPeerId then some longPeerId else none

def longPost : HttpRequest := ⟨"POST", "/api/v1/peers/register", [], .ok (longRegisterText n)⟩

end

section

variable {n : Nat}

theorem longRegisterText_length (n : Nat) : (longRegisterText n).length = n + 91 := by
  unfold longRegisterText
  rw [List.length_append, List.length_append, List.length_replicate]
  have start : (ascii ("\x7b\"peer_id\":\"" ++ longPeerId ++ "\",\"addrs\":[\"")).length = 76 := by decide
  have rest : (ascii "\"],\"meta\":null\x7d").length = 15 := by decide
  omega

theorem longListText_length (n : Nat) : (longListText n).length = n + 122 := by
  unfold longListText
  rw [List.length_append, List.length_append, List.length_replicate]
  have start : (ascii ("\x7b\"peers\":[\x7b\"peer_id\":\"" ++ longPeerId ++ "\",\"addrs\":[\"")).length = 86 := by
    decide
  have rest : (ascii "\"],\"meta\":null,\"last_seen_unix\":1\x7d]\x7d").length = 36 := by decide
  omega

theorem longListText_nonempty (n : Nat) : longListText n ≠ [] := by
  rw [← List.length_pos_iff, longListText_length]
  omega

theorem trim_longAddr (n : Nat) : trim (longAddr n) = longAddr n := by
  have letter : isWhitespace 'a' = false := by decide
  unfold trim longAddr
  simp [letter]

theorem cleanAddrs_longAddr (positive : 1 ≤ n) : cleanAddrs [longAddr n] = [longAddr n] := by
  have nonempty : (longAddr n).isEmpty = false := by
    rw [longAddr, ← Bool.not_eq_true, String.isEmpty_iff, ← String.toList_inj, String.toList_ofList]
    simp only [String.toList_empty, List.replicate_eq_nil_iff]
    omega
  unfold cleanAddrs
  simp [trim_longAddr, nonempty]

theorem longPost_accepted (small : n + 91 ≤ maxRequestBodyBytes) :
    acceptedRegister (longLibs n) none (longPost n) = some (longPeerId, longRegister n) := by
  have within : (longRegisterText n).length ≤ maxRequestBodyBytes := by
    rw [longRegisterText_length]
    exact small
  have some : longRegisterText n ≠ [] := by
    rw [← List.length_pos_iff, longRegisterText_length]
    omega
  have parsed (fits) : (longLibs n).registerRequest.fromSlice ⟨longRegisterText n, fits⟩ =
      .ok (longRegister n) := by
    simp [longLibs, listedSerde, some]
  have canonical : (longLibs n).parsePeerId (trim longPeerId) = Option.some longPeerId := by
    have trimmed : trim longPeerId = longPeerId := by decide
    rw [trimmed]
    show (if longPeerId = longPeerId then Option.some longPeerId else none) = _
    exact if_pos rfl
  have named : (trim longPeerId).isEmpty = false := by decide
  have read : readRegister (longLibs n) (longPost n) = .ok (.inr (longPeerId, longRegister n)) := by
    unfold readRegister longPost
    dsimp only
    rw [dif_pos within, parsed]
    simp only [longRegister, named, canonical, Bool.false_eq_true, if_false]
  have asked : (tokenAllows none (longPost n) && asks (longPost n) "POST" "/api/v1/peers/register") = true := by
    show asks (longPost 0) "POST" "/api/v1/peers/register" = true
    decide
  rw [acceptedRegister, if_pos asked, read]

theorem longList_peers (positive : 1 ≤ n) (small : n + 91 ≤ maxRequestBodyBytes) :
    listedPeers (pruneExpired (trackerAfter (longLibs n) 60 none [(.atSecond 1, longPost n)]) (.atSecond 1) 60)
      none = [longInfo n] := by
  have state : trackerAfter (longLibs n) 60 none [(.atSecond 1, longPost n)] =
      ⟨(pruneExpired ⟨∅⟩ (.atSecond 1) 60).peers.insert longPeerId (peerRecord (.atSecond 1) (longRegister n))⟩ := by
    show (serveHttp (longLibs n) 60 none (.atSecond 1) ⟨∅⟩ (longPost n)).2 = _
    rcases serveHttp_cases (longLibs n) 60 none (.atSecond 1) ⟨∅⟩ (longPost n) with
      ⟨peerId, reg, accepted, next⟩ | ⟨refused, -⟩ | ⟨refused, -⟩
    · rw [longPost_accepted small] at accepted
      cases accepted
      exact next
    · simp [longPost_accepted small] at refused
    · simp [longPost_accepted small] at refused
  rw [state]
  unfold peerRecord longRegister
  rw [cleanAddrs_longAddr positive]
  rfl

theorem longList_unfit (large : intoStringLimit < n + 122) (small : n + 122 ≤ isizeMax) :
    ¬ ListFits (longLibs n) [longInfo n] := by
  intro ⟨body, written, within⟩
  have fits : (longListText n).length ≤ isizeMax := by
    rw [longListText_length]
    exact small
  have json : (longLibs n).listResponse.toVec ⟨[longInfo n]⟩ = .ok ⟨longListText n, fits⟩ :=
    listedSerde_toVec (by simp) (by simp) fits
  rw [json] at written
  cases written
  rw [ByteVec.len, longListText_length] at within
  omega

end

/-- A reply that `into_string` does not take: the tracker lists the peer, its client lists nothing. -/
theorem tracker_list_too_long :
    (longLibs 0xA00000).listResponse.RoundTrips ∧
      ¬ ∃ peers, trackerList (longLibs 0xA00000) 60 none [(.atSecond 1, longPost 0xA00000)] (.atSecond 1)
          ⟨"http://tracker:8850", none⟩ none = .ok ⟨peers⟩ ∧
        ListsLive (longLibs 0xA00000) none 60 [(.atSecond 1, longPost 0xA00000)] (.atSecond 1) none peers := by
  constructor
  · exact listedSerde_roundTrips_one (longListText_nonempty 0xA00000)
  · intro ⟨peers, answer, _⟩
    have unfit : ¬ ListFits (longLibs 0xA00000) [longInfo 0xA00000] := longList_unfit (by decide) (by decide)
    obtain ⟨err, failed⟩ := @client_list_error _ ⟨"http://tracker:8850", none⟩ none _ unfit
    rw [trackerList_eq (by simp) rfl, longList_peers (by decide) (by decide), failed] at answer
    cases answer

end Rustory
