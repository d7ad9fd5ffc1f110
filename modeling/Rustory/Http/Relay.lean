import Rustory.Http.Push
import Rustory.Sync.PullBatching

namespace Rustory.Transport

open Foundations LocalStore

/-! A hub that one device pushes to and another pulls from. -/

/-- `http_pull_batch` once the request is over. -/
def readPull (serde : SerdeJson EntriesResponse) (url : String) : Except Error HttpResponse → Except Error PullBatch
  | .error err => .error (err.context ("GET " ++ url))
  | .ok response => readEntries serde response

/-- `http_pull_batch`, at a server that nothing but sizes keeps from answering. -/
def httpPull (libs : TransportLibs) (peerBaseUrl : String) (remote : LocalStore) (cursor : Int) (limit : UInt64) :
    Except Error PullBatch :=
  let url := entriesUrl peerBaseUrl cursor limit
  readPull libs.entriesResponse url <| requestWithRetry transportAttempts fun _ =>
    call url (serveHttp libs remote noFaults (pullRequest libs peerBaseUrl cursor limit)).1

/-- `sync_pull_http_peer`, cut off after `fuel` steps. -/
def syncPullHttpPeer (libs : TransportLibs) (fuel : Nat) (store remote : LocalStore) (peerBaseUrl : String)
    (limit : UInt64) : Except Error (LocalStore × PullState) :=
  match normalizePeerBaseUrl peerBaseUrl with
  | .error err => .error err
  | .ok peerKey => .ok (syncPullFromPeer fuel store peerKey limit (httpPull libs peerKey remote))

/-- The numbers that a column of SQLite and a query of the server can hold. -/
def InI64 (cursor : Int) : Prop := minI64 ≤ cursor ∧ cursor ≤ maxI64

section

variable {libs : TransportLibs} {peerKey : String} {remote : LocalStore}

theorem httpPullBatch_read (serde : SerdeJson EntriesResponse) (cursor : Int) (limit : UInt64) :
    httpPullBatch serde peerKey remote cursor limit =
      readPull serde (entriesUrl peerKey cursor limit) (requestWithRetry transportAttempts fun _ =>
        call (entriesUrl peerKey cursor limit) (serveEntries serde remote cursor limit)) := by
  unfold httpPullBatch
  dsimp only
  cases requestWithRetry transportAttempts fun _ => call (entriesUrl peerKey cursor limit)
    (serveEntries serde remote cursor limit) <;> rfl

theorem httpPull_eq (named : NamesServer libs peerKey) {cursor : Int} (range : InI64 cursor) (limit : UInt64) :
    httpPull libs peerKey remote cursor limit =
      httpPullBatch libs.entriesResponse peerKey remote cursor limit := by
  have served : (serveHttp libs remote noFaults (pullRequest libs peerKey cursor limit)).1 =
      serveEntries libs.entriesResponse remote cursor limit := congrArg Prod.fst (serveHttp_pull named range limit)
  rw [httpPullBatch_read, httpPull, served]

theorem nextCursor_inI64 (rowids : remote.entries.sequence ≤ maxI64) {cursor nextCursor : Int} {limit : UInt64}
    {batch : PullBatch} (answer : remote.pullSinceCursor cursor limit = .ok batch)
    (found : batch.nextCursor = some nextCursor) : InI64 nextCursor := by
  obtain ⟨last, ends, rfl⟩ := (pullSinceCursor_of answer).nextCursor_some found
  have listed := (NumberedTable.mem_page (List.mem_of_getLast? ends)).1
  obtain ⟨low, high⟩ := remote.entries.numbered last listed
  unfold InI64 minI64
  omega

theorem httpPull_agrees (named : NamesServer libs peerKey) (rowids : remote.entries.sequence ≤ maxI64)
    (link : CarriesWhatFits remote (FitsHttp libs.entriesResponse)
      (httpPullBatch libs.entriesResponse peerKey remote)) :
    AgreeOn InI64 (httpPull libs peerKey remote) (httpPullBatch libs.entriesResponse peerKey remote) := by
  constructor
  · intro cursor limit range
    exact httpPull_eq named range limit
  · intro cursor limit batch nextCursor range answered found
    rw [httpPull_eq named range] at answered
    by_cases page : PageFits remote (FitsHttp libs.entriesResponse) cursor limit
    · obtain ⟨batch', answer, fit⟩ := page
      rw [link.carries cursor limit batch' answer fit] at answered
      cases answered
      exact nextCursor_inI64 rowids answer found
    · obtain ⟨err, failed, -⟩ := link.fails cursor limit page
      rw [failed] at answered
      cases answered

end

/-- What a device has pending reaches another one, new to the server, over the requests that are really sent: when
    each entry can be posted by itself and the server's pages can be read, the push and the pull both end with
    `Ok`, and then the other device has all of it. -/
theorem http_hub_relays {libs : TransportLibs} {store hub other : LocalStore}
    {pushBase pullBase pushKey pullKey : String} {pushLimit pullLimit : UInt64} {localDeviceId : Option String}
    (pushes : 1 ≤ pushLimit) (pulls : 1 ≤ pullLimit)
    (pushNormalized : normalizePeerBaseUrl pushBase = .ok pushKey) (pushNamed : NamesServer libs pushKey)
    (pullNormalized : normalizePeerBaseUrl pullBase = .ok pullKey) (pullNamed : NamesServer libs pullKey)
    (reads : ReadsArrays libs) (arrays : WritesArrays libs.entries (Offered store localDeviceId))
    (roundTrips : libs.entriesResponse.RoundTrips) (new : other.getLastCursorOpt pullKey = none)
    (fit : ∀ row ∈ pendingRows store pushKey localDeviceId, FitsAlone (FitsHttpPush libs) row.val)
    (rowids : (withPending hub store pushKey localDeviceId).entries.sequence ≤ maxI64)
    (answers : ∀ cursor limit, ∃ batch body,
      (withPending hub store pushKey localDeviceId).pullSinceCursor cursor limit = .ok batch ∧
        libs.entriesResponse.toVec ⟨batch.entries, batch.nextCursor⟩ = .ok body)
    (pages : PagesFit (withPending hub store pushKey localDeviceId) (FitsHttp libs.entriesResponse) 0 pullLimit) :
    ∃ fuel exchange, syncPushHttpPeer libs fuel store hub pushBase pushLimit localDeviceId = .ok exchange ∧
      exchange.Complete store hub pushKey localDeviceId ∧
      ∃ fuel' stats after, syncPullHttpPeer libs fuel' other exchange.remote pullBase pullLimit =
          .ok (after, .returned (.ok stats)) ∧
        ∀ row ∈ pendingRows store pushKey localDeviceId, after.Holds row.val.entryId := by
  obtain ⟨fuel, exchange, pushed, complete⟩ :=
    syncPushHttpPeer_delivers pushes pushNormalized pushNamed reads arrays hub fit
  have start : other.getLastCursor pullKey = 0 := by
    unfold getLastCursor
    rw [new]
    rfl
  have link := httpPullBatch_carries roundTrips pullKey answers
  have agree := httpPull_agrees pullNamed rowids link
  rw [← start] at pages
  obtain ⟨fuel', stats, after, pulled, adds⟩ := (pullCompletes_iff pulls link).mpr pages
  have range : InI64 (other.getLastCursor pullKey) := by
    rw [start]
    exact ⟨by decide, by decide⟩
  refine ⟨fuel, exchange, pushed, complete, fuel', stats, after, ?_, ?_⟩
  · simp only [syncPullHttpPeer, pullNormalized, complete.remote, agree.session range, pulled]
  · exact withPending_reaches new adds

/-! The server of the two entries. -/

theorem echo_relayed (key : String)
    (fresh : (longRemote 4).getLastPushedSeq key = 0) :
    withPending opened (longRemote 4) key (some "dev1") = longRemote 4 := by
  unfold withPending pendingRows
  rw [fresh]
  rfl

theorem http_hub_relays_echo :
    ∃ fuel exchange, syncPushHttpPeer echoTransport fuel (longRemote 4) opened "http://peer-a:8080/" 1 (some "dev1") =
        .ok exchange ∧ exchange.Complete (longRemote 4) opened "http://peer-a:8080" (some "dev1") ∧
      ∃ fuel' stats after, syncPullHttpPeer echoTransport fuel' opened exchange.remote "http://peer-a:8080" 1000 =
          .ok (after, .returned (.ok stats)) ∧
        ∀ row ∈ pendingRows (longRemote 4) "http://peer-a:8080" (some "dev1"), after.Holds row.val.entryId := by
  have small : 2 * 4 + 405 ≤ isizeMax := by decide
  have relayed := echo_relayed "http://peer-a:8080" rfl
  apply http_hub_relays (by decide) (by decide) (by decide) echoTransport_named (by decide) echoTransport_named
    echoTransport_reads (echoEntries_arrays (some "dev1")) (replySerde_roundTrips_short _) rfl
  · intro row pending
    obtain ⟨e, listed, read⟩ := echo_pending pending
    exact ⟨e, read, echo_fits listed⟩
  · rw [relayed]
    decide
  · intro cursor limit
    obtain ⟨reply, listed, answer⟩ := longRemote_answers 4 cursor limit
    obtain ⟨body, written, -⟩ := longHttp_toVec small listed
    rw [relayed]
    exact ⟨reply.1, body, answer, written⟩
  · intro cursor _
    obtain ⟨reply, listed, answer⟩ := longRemote_answers 4 cursor 1000
    have short := longReplies_length_le listed
    rw [relayed]
    exact ⟨reply.1, answer, (fitsHttp_long small listed).mpr (short.trans (by decide))⟩

end Rustory.Transport
