import Rustory.Foundations.Retry
import Rustory.P2p.Codec
import Rustory.Sync.PullSession

namespace Rustory

open Foundations LocalStore

/-! `http_retry` -/

inductive UreqError
  | status (code : Nat) (url : String)
  | transport (text : String)
  deriving DecidableEq, Repr

def UreqError.cause : UreqError → Cause
  | .status code url => .ureqStatus code url
  | .transport text => .ureqTransport text

def isRetryableError : UreqError → Bool
  | .transport _ => true
  | .status code _ => code == 408 || code == 429 || (500 ≤ code && code ≤ 599)

/-- `RetryPolicy::transport().attempts` -/
def transportAttempts : Nat := 3

/-- `f` is given the number of the attempt, from which its agent's timeouts follow. -/
def requestWithRetry {α : Type} (attempts : Nat) (f : Nat → Except UreqError α) : Except Error α :=
  (retry isRetryableError f (max attempts 1 - 1) 0).mapError fun err => [err.cause]

/-! The server. -/

structure EntriesResponse where
  entries : List Entry
  nextCursor : Option Int
  deriving DecidableEq

structure HttpResponse where
  code : Nat
  body : List UInt8

/-- `{err:#}` -/
def displayChain (err : Error) : String := ": ".intercalate (err.map Cause.display)

def respondText (code : Nat) (body : String) : HttpResponse := ⟨code, body.toUTF8.data.toList⟩

def respondJson {α : Type} (serde : SerdeJson α) (code : Nat) (value : α) : Except Error HttpResponse :=
  match serde.toVec value with
  | .error text => .error [.message "serialize json", .message text]
  | .ok body => .ok ⟨code, body.bytes⟩

section

variable (serde : SerdeJson EntriesResponse)

/-- `GET /api/v1/entries` in `route_http_request`. -/
def getEntries (store : LocalStore) (cursor : Int) (limit : UInt64) : Except Error HttpResponse :=
  match store.pullSinceCursor cursor limit with
  | .error err => .error err
  | .ok batch => respondJson serde 200 ⟨batch.entries, batch.nextCursor⟩

def serveEntries (store : LocalStore) (cursor : Int) (limit : UInt64) : HttpResponse :=
  match getEntries serde store cursor limit with
  | .error err => respondText 500 ("error: " ++ displayChain err ++ "\n")
  | .ok response => response

/-! The client. -/

/-- `ureq` turns every status from 400 on into an error. -/
def call (url : String) (response : HttpResponse) : Except UreqError HttpResponse :=
  if 400 ≤ response.code then .error (.status response.code url) else .ok response

/-- The limit of `ureq::Response::into_string`. -/
def intoStringLimit : Nat := 10 * 1024 * 1024

def intoString (body : List UInt8) : Except String ByteVec :=
  if within : body.length ≤ intoStringLimit then
    .ok ⟨body, within.trans (by decide)⟩
  else
    .error "response too big for into_string"

def entriesUrl (peerBaseUrl : String) (cursor : Int) (limit : UInt64) : String :=
  .ofList (peerBaseUrl.toList.reverse.dropWhile (fun c => c == '/')).reverse ++ "/api/v1/entries?cursor=" ++
    toString cursor ++ "&limit=" ++ toString limit

def readEntries (response : HttpResponse) : Except Error PullBatch :=
  match intoString response.body with
  | .error text => .error [.message "read response body", .message text]
  | .ok body =>
    match serde.fromSlice body with
    | .error text => .error [.message "parse entries response json", .message text]
    | .ok parsed => .ok ⟨parsed.entries, parsed.nextCursor⟩

/-- `http_pull_batch`, from a peer that nothing but sizes keeps from answering. -/
def httpPullBatch (peerBaseUrl : String) (remote : LocalStore) (cursor : Int) (limit : UInt64) :
    Except Error PullBatch :=
  let url := entriesUrl peerBaseUrl cursor limit
  match requestWithRetry transportAttempts fun _ => call url (serveEntries serde remote cursor limit) with
  | .error err => .error (err.context ("GET " ++ url))
  | .ok response => readEntries serde response

def FitsHttp (batch : PullBatch) : Prop :=
  ∃ body, serde.toVec ⟨batch.entries, batch.nextCursor⟩ = .ok body ∧ body.len ≤ intoStringLimit

end

section

variable {serde : SerdeJson EntriesResponse}

theorem requestWithRetry_const {α : Type} (attempts : Nat) (outcome : Except UreqError α) :
    requestWithRetry attempts (fun _ => outcome) = outcome.mapError fun err => [err.cause] := by
  unfold requestWithRetry
  rw [retry_const]

theorem httpPullBatch_eq {remote : LocalStore} {cursor : Int} {limit : UInt64} {batch : PullBatch}
    {body : ByteVec} (peerBaseUrl : String) (answer : remote.pullSinceCursor cursor limit = .ok batch)
    (written : serde.toVec ⟨batch.entries, batch.nextCursor⟩ = .ok body) :
    httpPullBatch serde peerBaseUrl remote cursor limit = readEntries serde ⟨200, body.bytes⟩ := by
  have served : serveEntries serde remote cursor limit = ⟨200, body.bytes⟩ := by
    simp only [serveEntries, getEntries, answer, respondJson, written]
  simp only [httpPullBatch, served, requestWithRetry_const]
  rfl

theorem intoString_small {body : ByteVec} (within : body.len ≤ intoStringLimit) :
    intoString body.bytes = .ok body := dif_pos within

theorem intoString_large {body : ByteVec} (large : intoStringLimit < body.len) :
    intoString body.bytes = .error "response too big for into_string" := dif_neg (Nat.not_le.mpr large)

theorem httpPullBatch_large {remote : LocalStore} {cursor : Int} {limit : UInt64} {batch : PullBatch}
    {body : ByteVec} (peerBaseUrl : String) (answer : remote.pullSinceCursor cursor limit = .ok batch)
    (written : serde.toVec ⟨batch.entries, batch.nextCursor⟩ = .ok body)
    (large : intoStringLimit < body.len) :
    ∃ err, httpPullBatch serde peerBaseUrl remote cursor limit = .error err ∧
      isPayloadTooLargeError err = false := by
  rw [httpPullBatch_eq peerBaseUrl answer written]
  simp only [readEntries, intoString_large large]
  exact ⟨_, rfl, by decide⟩

theorem httpPullBatch_carries (serdeRoundTrips : serde.RoundTrips) (peerBaseUrl : String) {remote : LocalStore}
    (answers : ∀ cursor limit, ∃ batch body, remote.pullSinceCursor cursor limit = .ok batch ∧
      serde.toVec ⟨batch.entries, batch.nextCursor⟩ = .ok body) :
    CarriesWhatFits remote (FitsHttp serde) (httpPullBatch serde peerBaseUrl remote) := by
  constructor
  · intro cursor limit batch answer fit
    obtain ⟨body, written, within⟩ := fit
    rw [httpPullBatch_eq peerBaseUrl answer written]
    simp only [readEntries, intoString_small within, serdeRoundTrips _ _ written]
  · intro cursor limit unfit
    obtain ⟨batch, body, answer, written⟩ := answers cursor limit
    have large : intoStringLimit < body.len := by
      by_contra within
      exact unfit ⟨batch, answer, body, written, Nat.not_lt.mp within⟩
    exact httpPullBatch_large peerBaseUrl answer written large

end

end Rustory
