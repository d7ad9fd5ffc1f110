import Rustory.Storage.Batch
import Rustory.Storage.Recent

namespace Rustory

open Foundations LocalStore

structure SyncPull where
  cursor : Int
  limit : UInt64

structure SyncBatch where
  entries : List Entry
  nextCursor : Option Int
  deriving DecidableEq

structure EntriesPush where
  entries : List Entry

structure PushAck where
  ok : Bool
  inserted : Option Nat
  ignored : Option Nat
  deriving DecidableEq

/-- The inbound requests that reach `serve_async`. -/
inductive ServeRequest
  | sync (request : SyncPull)
  | push (request : EntriesPush)

inductive ServeReply
  | sync (response : SyncBatch)
  | push (response : PushAck)
  deriving DecidableEq

def serveSync (store : LocalStore) (request : SyncPull) : Except Error SyncBatch :=
  match store.pullSinceCursor request.cursor request.limit with
  | .error err => .error err
  | .ok batch => .ok ⟨batch.entries, batch.nextCursor⟩

def servePush (store : LocalStore) (request : EntriesPush) : PushAck × LocalStore :=
  match store.insertEntriesWithStats request.entries with
  | (.ok stats, store) => (⟨true, some stats.inserted, some stats.ignored⟩, store)
  | (.error _, store) => (⟨false, none, none⟩, store)

/-- One turn of the loop; an error leaves `serve_async`. -/
def serveRequest (store : LocalStore) : ServeRequest → Except Error (ServeReply × LocalStore)
  | .sync request =>
    match serveSync store request with
    | .error err => .error err
    | .ok response => .ok (.sync response, store)
  | .push request =>
    let (ack, store) := servePush store request
    .ok (.push ack, store)

/-- The loop of `serve_async` over the requests that arrive, with its replies so far. -/
def serve (store : LocalStore) : List ServeRequest → List ServeReply × Except Error LocalStore
  | [] => ([], .ok store)
  | request :: rest =>
    match serveRequest store request with
    | .error err => ([], .error err)
    | .ok (reply, store) =>
      let (replies, result) := serve store rest
      (reply :: replies, result)

def ServeRequest.entries : ServeRequest → List Entry
  | .sync _ => []
  | .push request => request.entries

def pushedEntries (requests : List ServeRequest) : List Entry := requests.flatMap ServeRequest.entries

/-! What one request and what a whole run leave in the store. -/

theorem serveSync_ok {store : LocalStore} {request : SyncPull} {response : SyncBatch} :
    serveSync store request = .ok response ↔
      store.pullSinceCursor request.cursor request.limit = .ok ⟨response.entries, response.nextCursor⟩ := by
  unfold serveSync
  cases store.pullSinceCursor request.cursor request.limit with
  | error err => simp
  | ok batch =>
    obtain ⟨entries, nextCursor⟩ := batch
    obtain ⟨entries', nextCursor'⟩ := response
    simp

theorem servePush_store (store : LocalStore) (request : EntriesPush) :
    (servePush store request).2 = store.inserted request.entries := by
  simp only [servePush, insertEntriesWithStats_noFaults]

theorem serveRequest_ok {store after : LocalStore} {request : ServeRequest} {reply : ServeReply}
    (h : serveRequest store request = .ok (reply, after)) : after = store.inserted request.entries := by
  cases request with
  | sync request =>
    simp only [serveRequest] at h
    split at h
    · cases h
    · cases h
      rfl
  | push request =>
    simp only [serveRequest] at h
    cases h
    exact servePush_store store request

theorem serveRequest_readable {store : LocalStore} {request : ServeRequest}
    (readable : ∀ value ∈ store.values, value.Readable) :
    ∃ reply after, serveRequest store request = .ok (reply, after) := by
  cases request with
  | sync request =>
    obtain ⟨batch, read⟩ := pullSinceCursor_readable readable request.cursor request.limit
    have served : serveSync store request = .ok ⟨batch.entries, batch.nextCursor⟩ := serveSync_ok.mpr read
    exact ⟨.sync ⟨batch.entries, batch.nextCursor⟩, store, by simp only [serveRequest, served]⟩
  | push request => exact ⟨_, _, rfl⟩

theorem serve_cons {store : LocalStore} {request : ServeRequest} {rest : List ServeRequest}
    {reply : ServeReply} {next : LocalStore} (first : serveRequest store request = .ok (reply, next)) :
    serve store (request :: rest) = (reply :: (serve next rest).1, (serve next rest).2) := by
  simp only [serve, first]

theorem serve_snoc {store after : LocalStore} {requests : List ServeRequest} {request : ServeRequest}
    {replies : List ServeReply} (h : serve store (requests ++ [request]) = (replies, .ok after)) :
    ∃ earlier reply, replies = earlier ++ [reply] ∧
      serveRequest (store.inserted (pushedEntries requests)) request = .ok (reply, after) := by
  induction requests generalizing store replies with
  | nil =>
    rw [List.nil_append] at h
    cases only : serveRequest store request with
    | error err =>
      simp only [serve, only] at h
      cases h
    | ok turn =>
      obtain ⟨reply, next⟩ := turn
      rw [serve_cons only] at h
      cases h
      exact ⟨[], reply, rfl, only⟩
  | cons other rest ih =>
    rw [List.cons_append] at h
    cases first : serveRequest store other with
    | error err =>
      simp only [serve, first] at h
      cases h
    | ok turn =>
      obtain ⟨reply, next⟩ := turn
      rw [serve_cons first] at h
      have later := congrArg Prod.snd h
      dsimp only at later
      obtain ⟨earlier, last, same, served⟩ := ih (Prod.ext rfl later)
      refine ⟨reply :: earlier, last, ?_, ?_⟩
      · rw [List.cons_append, ← same]
        exact (congrArg Prod.fst h).symm
      · rw [serveRequest_ok first, ← inserted_append] at served
        exact served

theorem serve_ok {store after : LocalStore} {requests : List ServeRequest} {replies : List ServeReply}
    (h : serve store requests = (replies, .ok after)) :
    after = store.inserted (pushedEntries requests) := by
  induction requests generalizing store replies with
  | nil =>
    cases h
    rfl
  | cons request rest ih =>
    cases first : serveRequest store request with
    | error err =>
      simp only [serve, first] at h
      cases h
    | ok turn =>
      obtain ⟨reply, next⟩ := turn
      rw [serve_cons first] at h
      have later := congrArg Prod.snd h
      dsimp only at later
      rw [ih (Prod.ext rfl later), serveRequest_ok first, ← inserted_append]
      rfl

theorem values_pushed {entries : List Entry} {value : EntryRow} :
    value ∈ (opened.inserted entries).values ↔
      ∃ before e after, entries = before ++ e :: after ∧ (∀ b ∈ before, b.entryId ≠ e.entryId) ∧
        e.toRow = value := by
  rw [values_inserted, NumberedTable.mem_firstNew]
  constructor
  · rintro (old | ⟨-, before, after, split, earlier⟩)
    · cases old
    · obtain ⟨first, last, rfl, rfl, rest⟩ := List.map_eq_append_iff.mp split
      obtain ⟨e, after, rfl, rfl, rfl⟩ := List.map_eq_cons_iff.mp rest
      refine ⟨first, e, after, rfl, ?_, rfl⟩
      intro b member
      exact earlier b.toRow (List.mem_map_of_mem member)
  · rintro ⟨before, e, after, rfl, earlier, rfl⟩
    have empty : ¬ opened.entries.Holds e.toRow.entryId := by
      intro ⟨row, member, _⟩
      cases member
    refine Or.inr ⟨empty, rowsOf before, rowsOf after, ?_, ?_⟩
    · simp only [rowsOf, List.map_append, List.map_cons]
    · intro row member
      obtain ⟨b, listed, rfl⟩ := List.mem_map.mp member
      exact earlier b listed

end Rustory
