import Rustory.P2p.PushWire

namespace Rustory

open Foundations LocalStore

/-- A request with the protocol that its stream speaks. -/
structure AskedOver where
  protocol : String
  request : ServeRequest

section

variable (serde : SerdeJson SyncBatch) (zstd : Zstd)

/-- The reply to a pull, as the peer reads it from what `write_response` leaves on the stream. -/
def Gets (asked : AskedOver) (reply : ServeReply) : Prop :=
  match asked.request, reply with
  | .sync _, .sync response =>
    (pullCodec.readResponse serde zstd asked.protocol
      (pullCodec.writeResponse serde zstd asked.protocol [] response).2).result = .ok response
  | .push _, .push _ => True
  | _, _ => False

/-- Every state the server can reach over these requests can be read, no request stops the loop,
    and each pull gets its batch. -/
def ServesAll (requests : List AskedOver) : Prop :=
  ∀ handled, handled <+: requests → ∃ replies store,
    serve opened (handled.map AskedOver.request) = (replies, .ok store) ∧
    List.Forall₂ (Gets serde zstd) handled replies ∧
    (∀ row ∈ store.entries.rows, ∃ e, rowToEntry row.val = .ok e) ∧
    (∀ cursor limit, ∃ batch, store.pullSinceCursor cursor limit = .ok batch) ∧
    ∀ limit, ∃ entries, store.listRecent limit = .ok entries

/-- What has been pushed when a request is handled. -/
def pushedBefore (before : List AskedOver) : List Entry := pushedEntries (before.map AskedOver.request)

/-- The page that a pull asks for fits a response. -/
def AnswerFits (store : LocalStore) (asked : AskedOver) : Prop :=
  match asked.request with
  | .sync request => PageFits store (FitsP2p serde zstd asked.protocol) request.cursor request.limit
  | .push _ => True

/-- Every entry that is kept can be read back, and every page that is asked for fits a response. -/
structure Servable (requests : List AskedOver) : Prop where
  inRange : ∀ before e after, pushedBefore requests = before ++ e :: after → (∀ b ∈ before, b.entryId ≠ e.entryId) →
    minUnixTimestamp ≤ e.ts.unixTimestamp ∧ e.ts.unixTimestamp ≤ maxUnixTimestamp
  answers : ∀ before asked after, requests = before ++ asked :: after →
    AnswerFits serde zstd (opened.inserted (pushedBefore before)) asked

variable {serde zstd}

theorem pushedBefore_append (before after : List AskedOver) :
    pushedBefore (before ++ after) = pushedBefore before ++ pushedBefore after := by
  simp [pushedBefore, pushedEntries]

theorem forall₂_last {α β : Type*} {R : α → β → Prop} {xs : List α} {ys : List β} {x : α} {y : β}
    (all : List.Forall₂ R (xs ++ [x]) (ys ++ [y])) : R x y := by
  have backwards := List.forall₂_reverse_iff.mpr all
  rw [List.reverse_append, List.reverse_append] at backwards
  cases backwards with
  | cons last _ => exact last

/-- What the peer reads is the page, so the page has fitted. -/
theorem fits_of_gets (serdeRejects : serde.RejectsEmpty) (zstdRejects : zstd.RejectsEmpty) {store after : LocalStore}
    {asked : AskedOver} {reply : ServeReply} (served : serveRequest store asked.request = .ok (reply, after))
    (got : Gets serde zstd asked reply) : AnswerFits serde zstd store asked := by
  obtain ⟨protocol, request⟩ := asked
  cases request with
  | push request => trivial
  | sync request =>
    simp only [serveRequest] at served
    split at served
    · cases served
    rename_i response read
    cases served
    have page := serveSync_ok.mp read
    by_contra unfit
    have large : ¬ FitsP2p serde zstd protocol ⟨response.entries, response.nextCursor⟩ :=
      fun fit => unfit ⟨_, page, fit⟩
    obtain ⟨text, broken, -⟩ := @readResponse_empty serde zstd protocol serdeRejects zstdRejects
    have nothing := writeResponse_unfit large
    unfold Gets at got
    dsimp only at nothing got
    rw [nothing, broken] at got
    cases got

theorem gets_of_fits (serdeRoundTrips : serde.RoundTrips) (zstdRoundTrips : zstd.RoundTrips)
    {store after : LocalStore} {asked : AskedOver} {reply : ServeReply}
    (served : serveRequest store asked.request = .ok (reply, after)) (fits : AnswerFits serde zstd store asked) :
    Gets serde zstd asked reply := by
  obtain ⟨protocol, request⟩ := asked
  cases request with
  | push request =>
    simp only [serveRequest] at served
    cases served
    trivial
  | sync request =>
    simp only [serveRequest] at served
    split at served
    · cases served
    rename_i response read
    cases served
    obtain ⟨batch, answer, fit⟩ := fits
    rw [serveSync_ok.mp read] at answer
    cases answer
    exact readResponse_fit serdeRoundTrips zstdRoundTrips fit

theorem serve_gets (serdeRoundTrips : serde.RoundTrips) (zstdRoundTrips : zstd.RoundTrips) {store : LocalStore}
    {requests : List AskedOver}
    (readable : ∀ value ∈ (store.inserted (pushedBefore requests)).values, value.Readable)
    (answers : ∀ before asked after, requests = before ++ asked :: after →
      AnswerFits serde zstd (store.inserted (pushedBefore before)) asked) :
    ∃ replies, serve store (requests.map AskedOver.request) =
        (replies, .ok (store.inserted (pushedBefore requests))) ∧
      List.Forall₂ (Gets serde zstd) requests replies := by
  induction requests generalizing store with
  | nil => exact ⟨[], rfl, .nil⟩
  | cons asked rest ih =>
    have split : store.inserted (pushedBefore (asked :: rest)) =
        (store.inserted asked.request.entries).inserted (pushedBefore rest) := inserted_append _ _ _
    have before : ∀ value ∈ store.values, value.Readable := by
      intro value member
      exact readable value (values_inserted.mpr (Or.inl member))
    obtain ⟨reply, next, first⟩ := @serveRequest_readable store asked.request before
    have got := gets_of_fits serdeRoundTrips zstdRoundTrips first (answers [] asked rest rfl)
    obtain rfl := serveRequest_ok first
    rw [split] at readable
    have later : ∀ before other after, rest = before ++ other :: after →
        AnswerFits serde zstd ((store.inserted asked.request.entries).inserted (pushedBefore before)) other := by
      intro before other after here
      rw [← inserted_append]
      exact answers (asked :: before) other after (congrArg (List.cons asked) here)
    obtain ⟨replies, served, gotten⟩ := ih readable later
    refine ⟨reply :: replies, ?_, .cons got gotten⟩
    rw [List.map_cons, serve_cons first, served, split]

theorem ServesAll.answers (serdeRejects : serde.RejectsEmpty) (zstdRejects : zstd.RejectsEmpty)
    {requests : List AskedOver} (serves : ServesAll serde zstd requests) (before : List AskedOver)
    (asked : AskedOver) (after : List AskedOver) (split : requests = before ++ asked :: after) :
    AnswerFits serde zstd (opened.inserted (pushedBefore before)) asked := by
  have front : before ++ [asked] <+: requests := ⟨after, by simp [split]⟩
  obtain ⟨replies, store, served, gotten, -⟩ := serves (before ++ [asked]) front
  rw [List.map_append, List.map_singleton] at served
  obtain ⟨earlier, reply, rfl, last⟩ := serve_snoc served
  exact fits_of_gets serdeRejects zstdRejects last (forall₂_last gotten)

theorem Servable.front {before after : List AskedOver} (servable : Servable serde zstd (before ++ after)) :
    Servable serde zstd before where
  inRange := by
    intro first e last split earlier
    apply servable.inRange first e (last ++ pushedBefore after) _ earlier
    rw [pushedBefore_append, split, List.append_assoc, List.cons_append]
  answers := by
    intro first asked last split
    apply servable.answers first asked (last ++ after)
    rw [split, List.append_assoc, List.cons_append]

theorem Servable.readable {requests : List AskedOver} (servable : Servable serde zstd requests) :
    ∀ value ∈ (opened.inserted (pushedBefore requests)).values, value.Readable := by
  intro value member
  obtain ⟨before, e, after, split, earlier, rfl⟩ := values_pushed.mp member
  exact servable.inRange before e after split earlier

end

/-- The server serves everything exactly when every entry it keeps has a UTC second that can be read back and
    every page it is asked for fits a response. -/
theorem serves_all_iff {serde : SerdeJson SyncBatch} {zstd : Zstd} (serdeRoundTrips : serde.RoundTrips)
    (zstdRoundTrips : zstd.RoundTrips) (serdeRejects : serde.RejectsEmpty) (zstdRejects : zstd.RejectsEmpty)
    (requests : List AskedOver) :
    ServesAll serde zstd requests ↔ Servable serde zstd requests := by
  constructor
  · intro serves
    constructor
    · intro before e after split earlier
      obtain ⟨replies, store, served, -, readable, -⟩ := serves requests List.prefix_rfl
      obtain rfl := serve_ok served
      have kept : e.toRow ∈ (opened.inserted (pushedBefore requests)).values :=
        values_pushed.mpr ⟨before, e, after, split, earlier, rfl⟩
      obtain ⟨row, member, same⟩ := mem_values.mp kept
      have parsed := rowToEntry_readable.mp (readable row member)
      rw [same] at parsed
      exact parsed
    · exact serves.answers serdeRejects zstdRejects
  · intro servable handled front
    obtain ⟨later, rfl⟩ := front
    have here := servable.front
    obtain ⟨replies, served, gotten⟩ := serve_gets serdeRoundTrips zstdRoundTrips here.readable here.answers
    refine ⟨replies, _, served, gotten, ?_, ?_, listRecent_ok here.readable⟩
    · intro row member
      exact rowToEntry_readable.mpr (here.readable row.val (mem_values.mpr ⟨row, member, rfl⟩))
    · intro cursor limit
      exact pullSinceCursor_readable here.readable cursor limit

/-- Two pushes of one entry each, and a pull of both. -/
def longRequests (n : Nat) : List AskedOver :=
  [⟨entriesPushProtocolPlain, .push ⟨[longFirst n]⟩⟩, ⟨entriesPushProtocolPlain, .push ⟨[longSecond n]⟩⟩,
    ⟨syncPullProtocolPlain, .sync ⟨0, 2⟩⟩]

/-- Only the last of them is answered with a page. -/
theorem longRequests_answers {serde : SerdeJson SyncBatch} {zstd : Zstd} {n : Nat} :
    (∀ before asked after, longRequests n = before ++ asked :: after →
      AnswerFits serde zstd (opened.inserted (pushedBefore before)) asked) ↔
    PageFits (longRemote n) (FitsP2p serde zstd syncPullProtocolPlain) 0 2 := by
  constructor
  · intro answers
    exact answers ((longRequests n).take 2) _ [] rfl
  · intro page before asked after split
    match before with
    | [] =>
      cases split
      trivial
    | [_] =>
      cases split
      trivial
    | [_, _] =>
      cases split
      exact page
    | _ :: _ :: _ :: before =>
      have longer := congrArg List.length split
      simp [longRequests] at longer

theorem serves_all_short : ServesAll (longSync 4) rawZstd (longRequests 4) := by
  have small : 2 * 4 + 405 ≤ isizeMax := by decide
  apply (serves_all_iff (replySerde_roundTrips_short _) rawZstd_roundTrips replySerde_rejectsEmpty
    rawZstd_rejectsEmpty _).mpr
  constructor
  · intro before e after split _
    have listed : e ∈ [longFirst 4, longSecond 4] := by
      have pushed : pushedBefore (longRequests 4) = [longFirst 4, longSecond 4] := rfl
      rw [← pushed, split]
      simp
    rcases List.mem_cons.mp listed with rfl | last
    · decide
    · rw [List.mem_singleton.mp last]
      decide
  · apply longRequests_answers.mpr
    obtain ⟨reply, listed, answer⟩ := longRemote_answers 4 0 2
    have short := longReplies_length_le listed
    exact ⟨reply.1, answer, (fitsP2p_long small listed).mpr (short.trans (by decide))⟩

/-- One such entry, pushed, stops the server at the next pull. -/
theorem late_entry_stops_serve :
    serve opened [.push ⟨[lateEcho]⟩, .sync ⟨0, 10⟩] =
        ([.push ⟨true, some 1, some 0⟩], .error (invalidTimestamp 4 253402304399)) ∧
      ¬ ∀ requests, ServesAll (longSync 4) rawZstd requests := by
  have stops : serve opened [.push ⟨[lateEcho]⟩, .sync ⟨0, 10⟩] =
      ([.push ⟨true, some 1, some 0⟩], .error (invalidTimestamp 4 253402304399)) := by rfl
  apply And.intro stops
  intro serves
  obtain ⟨replies, store, served, -⟩ := serves [⟨entriesPushProtocolPlain, .push ⟨[lateEcho]⟩⟩,
    ⟨syncPullProtocolPlain, .sync ⟨0, 10⟩⟩] _ List.prefix_rfl
  cases stops.symm.trans served

/-- Two entries that can be pushed one by one, and that are too long for one response. -/
theorem long_page_goes_unanswered : ¬ ServesAll (longSync 16777015) rawZstd (longRequests 16777015) := by
  have small : 2 * 16777015 + 405 ≤ isizeMax := by decide
  have large : pullRespMaxBytes.toNat < 2 * 16777015 + 405 := by decide
  have unfit := (long_fits fun reply listed => fitsP2p_long small listed).2 large
  intro serves
  exact unfit (longRequests_answers.mp (serves.answers replySerde_rejectsEmpty rawZstd_rejectsEmpty))

end Rustory
