import Rustory.Core.Text
import Rustory.Foundations.Lease
import Rustory.Http.Transport

namespace Rustory

open Foundations LocalStore

structure PeerMeta where
  deviceId : Option String
  hostname : Option String
  userId : Option String
  version : Option String
  deriving DecidableEq

structure RegisterRequest where
  peerId : String
  addrs : List String
  peerMeta : Option PeerMeta
  deriving DecidableEq

structure RegisterResponse where
  ok : Bool
  ttlSec : UInt64
  deriving DecidableEq

structure PeerInfo where
  peerId : String
  addrs : List String
  peerMeta : Option PeerMeta
  lastSeenUnix : Int
  deriving DecidableEq

structure ListResponse where
  peers : List PeerInfo
  deriving DecidableEq

structure PeerRecord where
  addrs : List String
  peerMeta : Option PeerMeta
  lastSeenUnix : Int
  deriving DecidableEq

/-- A `HashMap`, whose order of iteration nothing relies on. -/
structure TrackerState where
  peers : AList fun _ : String => PeerRecord

/-- The crates that the tracker and its client call. `parsePeerId` is `PeerId`'s parser followed
    by `to_string`. -/
structure TrackerLibs where
  registerRequest : SerdeJson RegisterRequest
  registerResponse : SerdeJson RegisterResponse
  listResponse : SerdeJson ListResponse
  urlencode : String → String
  urldecode : String → Except String String
  parsePeerId : String → Option String

/-- A request as `tiny_http` hands it over. -/
structure HttpRequest where
  method : String
  url : String
  headers : List (String × String)
  body : Except String (List UInt8)

def headerValue (req : HttpRequest) (name : String) : Option String :=
  (req.headers.find? fun header => header.1.toLower == name.toLower).map Prod.snd

def isAuthorized (req : HttpRequest) (token : String) : Bool :=
  let token := trim token
  if token.isEmpty then
    true
  else
    match (headerValue req "Authorization").bind (stripStart "Bearer ") with
    | some rest => trim rest == token
    | none =>
      match headerValue req "X-Rustory-Token" with
      | some value => trim value == token
      | none => false

/-- Without a token the tracker is open. -/
def tokenAllows (token : Option String) (req : HttpRequest) : Bool :=
  match token with
  | none => true
  | some token => isAuthorized req token

def urlPath (url : String) : String :=
  match splitOnce '?' url with
  | some (path, _) => path
  | none => url

def urlQuery (url : String) : Option String := (splitOnce '?' url).map Prod.snd

def asks (req : HttpRequest) (method path : String) : Bool := req.method == method && urlPath req.url == path

def queryGet (query key : String) : Option String :=
  (query.toList.splitOn '&').findSome? fun part =>
    match splitOnce '=' (.ofList part) with
    | some (k, v) => if k = key then some v else none
    | none => none

def maxRequestBodyBytes : Nat := 16 * 1024 * 1024

/-- `prune_expired`; a ttl of 0 clears the map. -/
def pruneExpired (state : TrackerState) (now : OffsetDateTime) (ttlSec : UInt64) : TrackerState :=
  if ttlSec = 0 then
    ⟨∅⟩
  else
    ⟨expire PeerRecord.lastSeenUnix (asI64 ttlSec) now.unixTimestamp state.peers⟩

def cleanAddrs (addrs : List String) : List String := (addrs.map trim).filter fun addr => !addr.isEmpty

section

variable (libs : TrackerLibs)

/-- The part of a register request before the clock is read: an error, an answer that leaves the
    state alone, or a peer id and what it registers. -/
def readRegister (req : HttpRequest) : Except Error (HttpResponse ⊕ (String × RegisterRequest)) :=
  match req.body with
  | .error text => .error [.message "read request body", .message text]
  | .ok buf =>
    if within : buf.length ≤ maxRequestBodyBytes then
      match libs.registerRequest.fromSlice ⟨buf, within.trans (by decide)⟩ with
      | .error text => .error [.message "parse register request json", .message text]
      | .ok reg =>
        let peerId := trim reg.peerId
        if peerId.isEmpty then
          .ok (.inl (respondText 400 "peer_id required\n"))
        else
          match libs.parsePeerId peerId with
          | none => .ok (.inl (respondText 400 "invalid peer_id\n"))
          | some peerId => .ok (.inr (peerId, reg))
    else
      .ok (.inl (respondText 413 "payload too large\n"))

def peerRecord (now : OffsetDateTime) (reg : RegisterRequest) : PeerRecord :=
  ⟨cleanAddrs reg.addrs, reg.peerMeta, now.unixTimestamp⟩

def routeRegister (ttlSec : UInt64) (now : OffsetDateTime) (state : TrackerState) (req : HttpRequest) :
    Except Error HttpResponse × TrackerState :=
  match readRegister libs req with
  | .error err => (.error err, state)
  | .ok (.inl response) => (.ok response, state)
  | .ok (.inr (peerId, reg)) =>
    (respondJson libs.registerResponse 200 ⟨true, ttlSec⟩,
      ⟨(pruneExpired state now ttlSec).peers.insert peerId (peerRecord now reg)⟩)

def userMatches (userId : Option String) (peerMeta : Option PeerMeta) : Bool :=
  match userId, peerMeta with
  | none, _ => true
  | some want, some found => found.userId == some want
  | some _, none => false

def listedPeers (state : TrackerState) (userId : Option String) : List PeerInfo :=
  (state.peers.entries.filter fun entry => userMatches userId entry.snd.peerMeta).map fun entry =>
    ⟨entry.fst, entry.snd.addrs, entry.snd.peerMeta, entry.snd.lastSeenUnix⟩

def userIdQuery (req : HttpRequest) : Except Error (Option String) :=
  match (urlQuery req.url).bind fun query => queryGet query "user_id" with
  | none => .ok none
  | some value =>
    match libs.urldecode value with
    | .error text => .error [.message "decode user_id query", .message text]
    | .ok userId => .ok (some userId)

def routeList (ttlSec : UInt64) (now : OffsetDateTime) (state : TrackerState) (req : HttpRequest) :
    Except Error HttpResponse × TrackerState :=
  match userIdQuery libs req with
  | .error err => (.error err, state)
  | .ok userId =>
    let state := pruneExpired state now ttlSec
    (respondJson libs.listResponse 200 ⟨listedPeers state userId⟩, state)

def routeHttpRequest (ttlSec : UInt64) (token : Option String) (now : OffsetDateTime) (state : TrackerState)
    (req : HttpRequest) : Except Error HttpResponse × TrackerState :=
  if tokenAllows token req then
    if asks req "GET" "/api/v1/ping" then
      (.ok (respondText 200 "ok\n"), state)
    else if asks req "POST" "/api/v1/peers/register" then
      routeRegister libs ttlSec now state req
    else if asks req "GET" "/api/v1/peers" then
      routeList libs ttlSec now state req
    else
      (.ok (respondText 404 "not found\n"), state)
  else
    (.ok (respondText 401 "unauthorized\n"), state)

/-- One turn of the loop in `serve_http`. -/
def serveHttp (ttlSec : UInt64) (token : Option String) (now : OffsetDateTime) (state : TrackerState)
    (req : HttpRequest) : HttpResponse × TrackerState :=
  let (result, state) := routeHttpRequest libs ttlSec token now state req
  match result with
  | .ok response => (response, state)
  | .error err => (respondText 500 ("error: " ++ displayChain err ++ "\n"), state)

/-- The state after a sequence of requests, from an empty tracker. -/
def trackerAfter (ttlSec : UInt64) (token : Option String) (history : List (OffsetDateTime × HttpRequest)) :
    TrackerState :=
  history.foldl (fun state handled => (serveHttp libs ttlSec token handled.1 state handled.2).2) ⟨∅⟩

/-! `TrackerClient` -/

structure TrackerClient where
  baseUrl : String
  token : Option String

def TrackerClient.new (baseUrl : String) (token : Option String) : TrackerClient where
  baseUrl := .ofList (baseUrl.toList.reverse.dropWhile (fun c => c == '/')).reverse
  token := token

/-- `RetryPolicy::tracker().attempts` -/
def trackerAttempts : Nat := 3

def listPath (userId : Option String) : String :=
  match userId with
  | none => "/api/v1/peers"
  | some userId => "/api/v1/peers?user_id=" ++ libs.urlencode userId

/-- What `TrackerClient::list` sends, as the tracker sees it. -/
def TrackerClient.listRequest (client : TrackerClient) (userId : Option String) : HttpRequest where
  method := "GET"
  url := listPath libs userId
  headers :=
    match client.token with
    | none => []
    | some token => [("Authorization", "Bearer " ++ trim token)]
  body := .ok []

def readList (response : HttpResponse) : Except Error ListResponse :=
  match intoString response.body with
  | .error text => .error [.message "read response body", .message text]
  | .ok body =>
    match libs.listResponse.fromSlice body with
    | .error text => .error [.message "parse list response json", .message text]
    | .ok parsed => .ok parsed

/-- `TrackerClient::list`, given the tracker's answer. -/
def TrackerClient.list (client : TrackerClient) (userId : Option String) (answer : HttpResponse) :
    Except Error ListResponse :=
  let url := client.baseUrl ++ listPath libs userId
  match requestWithRetry trackerAttempts fun _ => call url answer with
  | .error err => .error (err.context ("GET " ++ url))
  | .ok response => readList libs response

end

end Rustory
