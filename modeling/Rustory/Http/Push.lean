import Rustory.Http.Served
import Rustory.Sync.PushAdapts

namespace Rustory.Transport

open Foundations LocalStore

def normalizePeerBaseUrl (value : String) : Except Error String :=
  let v := trimEndMatches (· == '/') (trim value)
  if v.isEmpty then .error (bail "peer url is empty") else .ok v

section

variable (libs : TransportLibs)

/-- One attempt of `http_push_batch`, at a server that nothing but sizes keeps from answering. -/
def postOnce (peerBaseUrl : String) (body : ByteVec) (remote : LocalStore) :
    Except UreqError HttpResponse × LocalStore :=
  let (answer, remote) := serveHttp libs remote noFaults (pushRequest libs peerBaseUrl body)
  (call (pushUrl peerBaseUrl) answer, remote)

def httpPushBatch (peerBaseUrl : String) (remote : LocalStore) (entries : List Entry) :
    Except Error Unit × LocalStore :=
  match libs.entries.toVec entries with
  | .error text => (.error [.message "serialize entries json", .message text], remote)
  | .ok body =>
    let (result, remote) :=
      retryOn isRetryableError (fun _ => postOnce libs peerBaseUrl body) (transportAttempts - 1) 0 remote
    match result with
    | .error err => (.error (Error.context [err.cause] ("POST " ++ pushUrl peerBaseUrl)), remote)
    | .ok response =>
      match intoString response.body with
      | .error text => (.error [.message "read response body", .message text], remote)
      | .ok _ => (.ok (), remote)

/-- `sync_push_http_peer`, cut off after `fuel` steps, with the store of the server it pushes to. -/
def syncPushHttpPeer (fuel : Nat) (store remote : LocalStore) (peerBaseUrl : String) (limit : UInt64)
    (localDeviceId : Option String) : Except Error (PushExchange LocalStore) :=
  match normalizePeerBaseUrl peerBaseUrl with
  | .error err => .error err
  | .ok peerKey => .ok (syncPushToRemote fuel store remote peerKey limit localDeviceId (httpPushBatch libs peerKey))

def FitsHttpPush (entries : List Entry) : Prop :=
  ∃ body, libs.entries.toVec entries = .ok body ∧ body.len ≤ maxRequestBodyBytes

/-- What `serde` and the server's reader promise about arrays of entries, and about the answer to them. -/
structure ReadsArrays : Prop where
  array : ∀ entries body, libs.entries.toVec entries = .ok body → libs.entriesRequest body = .ok (.array entries)
  answer : ∀ response, ∃ body, libs.pushResponse.toVec response = .ok body ∧ body.len ≤ intoStringLimit

/-- A list is written when each of its entries is, and is longer than each of them. -/
structure WritesArrays (serde : SerdeJson (List Entry)) (offers : List Entry → Prop) : Prop where
  written : ∀ batch, offers batch → (∀ e ∈ batch, ∃ one, serde.toVec [e] = .ok one) →
    ∃ body, serde.toVec batch = .ok body
  contains : ∀ batch body, serde.toVec batch = .ok body → ∀ e ∈ batch,
    ∃ one, serde.toVec [e] = .ok one ∧ one.len ≤ body.len

/-- The result of `http_push_batch`, which does not depend on what the server's store holds. -/
def pushAnswer (peerBaseUrl : String) (entries : List Entry) : Except Error Unit :=
  match libs.entries.toVec entries with
  | .error text => .error [.message "serialize entries json", .message text]
  | .ok body =>
    if body.len ≤ maxRequestBodyBytes then
      .ok ()
    else
      .error (Error.context [.ureqStatus 413 (pushUrl peerBaseUrl)] ("POST " ++ pushUrl peerBaseUrl))

end

section

variable {libs : TransportLibs} {peerBaseUrl : String} {body : ByteVec} {remote : LocalStore}

theorem asks_push (named : NamesServer libs peerBaseUrl) :
    asks (pushRequest libs peerBaseUrl body) "POST" "/api/v1/entries" = true := by
  have method : (pushRequest libs peerBaseUrl body).method = "POST" := rfl
  have url : (pushRequest libs peerBaseUrl body).url = "/api/v1/entries" := named.push
  simp only [asks, method, url]
  decide

theorem postOnce_small (named : NamesServer libs peerBaseUrl) (reads : ReadsArrays libs) {entries : List Entry}
    (written : libs.entries.toVec entries = .ok body) (within : body.len ≤ maxRequestBodyBytes)
    (remote : LocalStore) :
    ∃ answer : ByteVec, answer.len ≤ intoStringLimit ∧
      postOnce libs peerBaseUrl body remote = (.ok ⟨200, answer.bytes⟩, remote.inserted entries) := by
  obtain ⟨answer, sent, short⟩ := reads.answer ⟨true, .ofNat (remote.insertedStats entries).inserted,
    .ofNat (remote.insertedStats entries).ignored⟩
  have read : readPush libs (pushRequest libs peerBaseUrl body) = .ok (.inr entries) :=
    readPush_body rfl within (reads.array entries body written)
  have served := serveHttp_posted (asks_push named) read (insertEntriesWithStats_noFaults remote entries) sent
  refine ⟨answer, short, ?_⟩
  simp only [postOnce, served]
  rfl

theorem postOnce_large (named : NamesServer libs peerBaseUrl) (large : ¬ body.len ≤ maxRequestBodyBytes)
    (remote : LocalStore) :
    postOnce libs peerBaseUrl body remote = (.error (.status 413 (pushUrl peerBaseUrl)), remote) := by
  have sent : (pushRequest libs peerBaseUrl body).body = .ok body.bytes := rfl
  have read : readPush libs (pushRequest libs peerBaseUrl body) =
      .ok (.inl (respondText 413 "payload too large\n")) := by
    unfold ByteVec.len at large
    simp only [readPush, sent, large, dif_neg, not_false_eq_true]
  have routed : routePush libs remote noFaults (pushRequest libs peerBaseUrl body) =
      (.ok (respondText 413 "payload too large\n"), remote) := by
    simp only [routePush, read]
  have served : serveHttp libs remote noFaults (pushRequest libs peerBaseUrl body) =
      (respondText 413 "payload too large\n", remote) := by
    simp only [serveHttp, routeHttpRequest_post (asks_push named), routed]
  simp only [postOnce, served]
  rfl

theorem httpPushBatch_takes (named : NamesServer libs peerBaseUrl) (reads : ReadsArrays libs) :
    Takes (pushAnswer libs peerBaseUrl) (httpPushBatch libs peerBaseUrl) := by
  have result : ∀ remote batch, httpPushBatch libs peerBaseUrl remote batch =
      (pushAnswer libs peerBaseUrl batch,
        if (pushAnswer libs peerBaseUrl batch).isOk then remote.inserted batch else remote) := by
    intro remote batch
    unfold httpPushBatch pushAnswer
    cases written : libs.entries.toVec batch with
    | error text => rfl
    | ok body =>
      by_cases within : body.len ≤ maxRequestBodyBytes
      · obtain ⟨answer, short, done⟩ := postOnce_small named reads written within remote
        have once : retryOn isRetryableError (fun _ => postOnce libs peerBaseUrl body) (transportAttempts - 1) 0 remote =
            (.ok ⟨200, answer.bytes⟩, remote.inserted batch) := by
          simp only [transportAttempts, retryOn, done]
        simp only [once, intoString_small short, within, if_true]
        rfl
      · have refused := postOnce_large named within
        have once := @retryOn_const _ _ _ isRetryableError (fun _ => postOnce libs peerBaseUrl body)
          (.error (.status 413 (pushUrl peerBaseUrl))) (fun _ here => by rw [refused here])
          (fun _ _ _ here => by rw [refused here]) (transportAttempts - 1) 0 remote
        simp only [once, refused, within, if_false]
        rfl
  constructor
  · intro remote batch
    rw [result]
  · intro remote batch taken
    rw [result, taken]
    rfl
  · intro remote batch err refused
    rw [result, refused]
    rfl

theorem pushAnswer_sizes {offers : List Entry → Prop} (arrays : WritesArrays libs.entries offers) :
    TakesWhatFits offers (FitsHttpPush libs) (pushAnswer libs peerBaseUrl) := by
  constructor
  · intro batch ⟨body, written, within⟩
    simp only [pushAnswer, written, within, if_true]
  · intro batch offered unfit
    cases written : libs.entries.toVec batch with
    | error text =>
      refine ⟨_, by simp only [pushAnswer, written]; rfl, fun alone => ?_⟩
      obtain ⟨body, again⟩ := arrays.written batch offered fun e listed => (alone e listed).imp fun _ fit => fit.1
      cases written.symm.trans again
    | ok body =>
      have large : ¬ body.len ≤ maxRequestBodyBytes := fun within => unfit ⟨body, written, within⟩
      refine ⟨_, by simp only [pushAnswer, written, large, if_false]; rfl, fun _ => ?_⟩
      simp [isPayloadTooLargeError, Error.context, Cause.payloadTooLarge]

theorem fitsHttpPush_entrywise {offers : List Entry → Prop} (arrays : WritesArrays libs.entries offers) :
    Entrywise (FitsHttpPush libs) := by
  intro batch ⟨body, written, within⟩ e listed
  obtain ⟨one, alone, short⟩ := arrays.contains batch body written e listed
  exact ⟨one, alone, short.trans within⟩

end

theorem syncPushHttpPeer_delivers {libs : TransportLibs} {store : LocalStore} {peerBaseUrl peerKey : String}
    {limit : UInt64} {localDeviceId : Option String} (positive : 1 ≤ limit)
    (normalized : normalizePeerBaseUrl peerBaseUrl = .ok peerKey) (named : NamesServer libs peerKey)
    (reads : ReadsArrays libs) (arrays : WritesArrays libs.entries (Offered store localDeviceId))
    (remote : LocalStore)
    (fit : ∀ row ∈ pendingRows store peerKey localDeviceId, FitsAlone (FitsHttpPush libs) row.val) :
    ∃ fuel exchange, syncPushHttpPeer libs fuel store remote peerBaseUrl limit localDeviceId = .ok exchange ∧
      exchange.Complete store remote peerKey localDeviceId := by
  obtain ⟨fuel, complete⟩ := (@push_delivers store remote peerKey localDeviceId limit _ _ _
    (httpPushBatch_takes named reads) (pushAnswer_sizes arrays) positive).1 fit
  exact ⟨fuel, _, by simp only [syncPushHttpPeer, normalized], complete⟩

/-- A push over HTTP delivers everything that is pending, in however many batches it takes, exactly when each
    pending entry is readable and small enough to be posted by itself. -/
theorem http_push_delivers_iff {libs : TransportLibs} {store : LocalStore} {peerBaseUrl peerKey : String}
    {limit : UInt64} {localDeviceId : Option String} (positive : 1 ≤ limit)
    (normalized : normalizePeerBaseUrl peerBaseUrl = .ok peerKey) (named : NamesServer libs peerKey)
    (reads : ReadsArrays libs) (arrays : WritesArrays libs.entries (Offered store localDeviceId))
    (remote : LocalStore) :
    (∃ fuel exchange, syncPushHttpPeer libs fuel store remote peerBaseUrl limit localDeviceId = .ok exchange ∧
        exchange.Complete store remote peerKey localDeviceId) ↔
      ∀ row ∈ pendingRows store peerKey localDeviceId, FitsAlone (FitsHttpPush libs) row.val := by
  constructor
  · rintro ⟨fuel, exchange, run, complete⟩
    have session := @push_delivers store remote peerKey localDeviceId limit _ _ _ (httpPushBatch_takes named reads)
      (pushAnswer_sizes arrays) positive
    simp only [syncPushHttpPeer, normalized, Except.ok.injEq] at run
    subst run
    exact session.2 (fitsHttpPush_entrywise arrays) ⟨fuel, complete⟩
  · exact syncPushHttpPeer_delivers positive normalized named reads arrays remote

/-! Two entries pushed to `http://peer-a:8080`. -/

theorem offered_arrays {source : Option String} {entries : List Entry} (offered : Offered (longRemote 4) source entries) :
    ∃ array ∈ arrayTexts, array.1 = entries := by
  obtain ⟨cursor, limit, batch, read, rfl⟩ := offered
  have batches : ∀ reply ∈ longReplies 4, ∃ array ∈ arrayTexts, array.1 = reply.1.entries := by decide +kernel
  have collected : collectBatch ((longRemote 4).entries.page (pushSelects source) cursor (asI64 limit)) ⟨[], none⟩ =
      .ok batch := by
    cases source <;> exact read
  obtain ⟨reply, listed, page⟩ := longRemote_collects 4 (pushSelects source) cursor (asI64 limit)
  rw [collected] at page
  cases page
  exact batches reply listed

theorem echoTransport_reads : ReadsArrays echoTransport where
  array := by
    intro entries body written
    have read := echoEntries_roundTrips entries body written
    simp only [echoTransport, read, Except.map]
  answer := echoTransport_writes

theorem echoEntries_arrays (source : Option String) : WritesArrays echoEntries (Offered (longRemote 4) source) where
  written := by
    intro batch offered _
    obtain ⟨array, listed, rfl⟩ := offered_arrays offered
    obtain ⟨body, written, -⟩ := echoEntries_toVec listed
    exact ⟨body, written⟩
  contains := by
    intro batch body written e listed
    have singles : ∀ array ∈ arrayTexts, ∀ e ∈ array.1,
        ∃ one ∈ arrayTexts, one.1 = [e] ∧ one.2.length ≤ array.2.length := by decide +kernel
    obtain ⟨array, member, rfl, length⟩ := arraySerde_listed (by decide) written
    obtain ⟨one, single, alone, short⟩ := singles array member e listed
    obtain ⟨text, toVec, size⟩ := echoEntries_toVec single
    have brackets : "[".toList.length + "]".toList.length = 2 := by decide
    rw [alone] at toVec
    exact ⟨text, toVec, by omega⟩

theorem echo_fits {e : Entry} (listed : e ∈ [longFirst 4, longSecond 4]) : FitsHttpPush echoTransport [e] := by
  have singles : ∀ e ∈ [longFirst 4, longSecond 4], ∃ one ∈ arrayTexts, one.1 = [e] := by decide +kernel
  obtain ⟨one, single, alone⟩ := singles e listed
  obtain ⟨body, written, length⟩ := echoEntries_toVec single
  have short := arrayTexts_short one single
  rw [alone] at written
  refine ⟨body, written, ?_⟩
  unfold maxRequestBodyBytes
  omega

theorem echo_pending {peerKey : String} {row : IngestRow}
    (pending : row ∈ pendingRows (longRemote 4) peerKey (some "dev1")) :
    ∃ e ∈ [longFirst 4, longSecond 4], rowToEntryWithOffset row.val 1 = .ok e := by
  have rows : ∀ row ∈ (longRemote 4).entries.rows, ∃ e ∈ [longFirst 4, longSecond 4],
      rowToEntryWithOffset row.val 1 = .ok e := by
    rw [longRemote_rows]
    intro row listed
    rcases List.mem_cons.mp listed with rfl | last
    · exact ⟨longFirst 4, List.mem_cons_self, rfl⟩
    · rw [List.mem_singleton.mp last]
      exact ⟨longSecond 4, List.mem_cons_of_mem _ List.mem_cons_self, rfl⟩
  exact rows row (NumberedTable.mem_after.mp pending).1

/-- With a limit of 1 it takes two requests. -/
theorem http_push_delivers_iff_echo :
    (∃ fuel exchange, syncPushHttpPeer echoTransport fuel (longRemote 4) opened " http://peer-a:8080/ " 1
        (some "dev1") = .ok exchange ∧ exchange.Complete (longRemote 4) opened "http://peer-a:8080" (some "dev1")) ↔
      ∀ row ∈ pendingRows (longRemote 4) "http://peer-a:8080" (some "dev1"),
        FitsAlone (FitsHttpPush echoTransport) row.val :=
  http_push_delivers_iff (by decide) (by decide) echoTransport_named echoTransport_reads
    (echoEntries_arrays (some "dev1")) opened

end Rustory.Transport
