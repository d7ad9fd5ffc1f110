import Mathlib.Data.List.Sublists
import Rustory.Http.Transport
import Rustory.P2p.Client

namespace Rustory

open Foundations LocalStore

def SinglesFit (remote : LocalStore) (fits : PullBatch → Prop) : Prop :=
  ∀ row ∈ remote.entries.rows, ∃ e, rowToEntry row.val = .ok e ∧ fits ⟨[e], some row.seq⟩

/-- What the halving of the limit is for: that no batch is too large as long as no entry is. -/
def AdaptsToSize (store remote : LocalStore) (peerId : String) (limit : UInt64) (fits : PullBatch → Prop)
    (pull : Int → UInt64 → Except Error PullBatch) : Prop :=
  SinglesFit remote fits → PullCompletes store remote peerId limit pull

theorem SinglesFit.answers {remote : LocalStore} {fits : PullBatch → Prop} (singles : SinglesFit remote fits)
    (cursor : Int) (limit : UInt64) : ∃ batch, remote.pullSinceCursor cursor limit = .ok batch := by
  apply pullSinceCursor_readable
  intro value member
  obtain ⟨row, held, rfl⟩ := mem_values.mp member
  obtain ⟨e, read, -⟩ := singles row held
  exact rowToEntry_readable.mp ⟨e, read⟩

/-- A session adapts exactly when it never has to: when every batch of `limit` entries fits. -/
theorem pull_adapts_iff (store remote : LocalStore) (peerId : String) (limit : UInt64) (positive : 1 ≤ limit)
    (sync : SerdeJson SyncBatch) (zstd : Zstd) (protocol : String) (policy : RequestRetryPolicy)
    (http : SerdeJson EntriesResponse) (syncRoundTrips : sync.RoundTrips) (zstdRoundTrips : zstd.RoundTrips)
    (syncRejects : sync.RejectsEmpty) (zstdRejects : zstd.RejectsEmpty) (httpRoundTrips : http.RoundTrips)
    (httpSerializes : ∀ cursor limit batch, remote.pullSinceCursor cursor limit = .ok batch →
      ∃ body, http.toVec ⟨batch.entries, batch.nextCursor⟩ = .ok body) :
    (AdaptsToSize store remote peerId limit (FitsP2p sync zstd protocol)
        (p2pPull sync zstd protocol policy remote) ↔
      (SinglesFit remote (FitsP2p sync zstd protocol) →
        PagesFit remote (FitsP2p sync zstd protocol) (store.getLastCursor peerId) limit)) ∧
    (AdaptsToSize store remote peerId limit (FitsHttp http) (httpPullBatch http peerId remote) ↔
      (SinglesFit remote (FitsHttp http) →
        PagesFit remote (FitsHttp http) (store.getLastCursor peerId) limit)) := by
  constructor
  · apply imp_congr_right
    intro singles
    exact pullCompletes_iff positive
      (p2pPull_carries syncRoundTrips zstdRoundTrips syncRejects zstdRejects policy remote)
  · apply imp_congr_right
    intro singles
    apply pullCompletes_iff positive
    apply httpPullBatch_carries httpRoundTrips
    intro cursor limit
    obtain ⟨batch, answer⟩ := singles.answers cursor limit
    obtain ⟨body, written⟩ := httpSerializes cursor limit batch answer
    exact ⟨batch, body, answer, written⟩

/-! Two entries with long commands. -/

section

variable (n : Nat)

def longEntry (echo : Entry) : Entry := { echo with cmd := .ofList (List.replicate n 'a') }

def longFirst : Entry := longEntry n firstEcho
def longSecond : Entry := longEntry n secondEcho

def longRemote : LocalStore := opened.inserted [longFirst n, longSecond n]

def longHead (id second : String) : List UInt8 :=
  ascii ("\x7b\"entry_id\":\"" ++ id ++ "\",\"device_id\":\"dev1\",\"user_id\":\"user1\",\"ts\":[1970,1,0,0," ++
    second ++ ",0,0,0,0],\"cmd\":\"")

def longTail : List UInt8 :=
  ascii ("\",\"cwd\":\"/tmp\",\"exit_code\":0,\"duration_ms\":12,\"shell\":\"zsh\",\"hostname\":\"host\"," ++
    "\"version\":\"0.1.0\"\x7d")

def longText (id second : String) : List UInt8 := longHead id second ++ List.replicate n 97 ++ longTail

def batchText (entries : List UInt8) (nextCursor : String) : List UInt8 :=
  ascii "\x7b\"entries\":[" ++ entries ++ ascii ("],\"next_cursor\":" ++ nextCursor ++ "\x7d")

/-- The replies of the remote store and their JSON. -/
def longReplies : List (PullBatch × List UInt8) :=
  [(⟨[], none⟩, batchText [] "null"),
    (⟨[longFirst n], some 1⟩, batchText (longText n "id-1" "1") "1"),
    (⟨[longSecond n], some 2⟩, batchText (longText n "id-2" "2") "2"),
    (⟨[longFirst n, longSecond n], some 2⟩,
      batchText (longText n "id-1" "1" ++ ascii "," ++ longText n "id-2" "2") "2")]

end

def replySerde {α : Type} [DecidableEq α] (make : List Entry → Option Int → α) (n : Nat) : SerdeJson α :=
  listedSerde ((longReplies n).map fun reply => (make reply.1.entries reply.1.nextCursor, reply.2))

def longSync (n : Nat) : SerdeJson SyncBatch := replySerde SyncBatch.mk n
def longHttp (n : Nat) : SerdeJson EntriesResponse := replySerde EntriesResponse.mk n

section

variable {α : Type} [DecidableEq α] {make : List Entry → Option Int → α} {n : Nat}

theorem replySerde_rejectsEmpty : (replySerde make n).RejectsEmpty := by rfl

theorem replySerde_toVec (injective : Function.Injective2 make) {reply : PullBatch × List UInt8}
    (listed : reply ∈ longReplies n) (fits : reply.2.length ≤ isizeMax) :
    (replySerde make n).toVec (make reply.1.entries reply.1.nextCursor) = .ok ⟨reply.2, fits⟩ := by
  apply listedSerde_toVec
  · simp [longReplies, injective.eq_iff]
  · exact List.mem_map.mpr ⟨reply, listed, rfl⟩

end

theorem rawZstd_rejectsEmpty : rawZstd.RejectsEmpty := by rfl

theorem longRemote_rows (n : Nat) :
    (longRemote n).entries.rows = [⟨1, (longFirst n).toRow⟩, ⟨2, (longSecond n).toRow⟩] := rfl

theorem longRemote_page (n : Nat) (p : EntryRow → Bool) (cursor limit : Int) :
    (longRemote n).entries.page p cursor limit ∈
      ([[], [⟨1, (longFirst n).toRow⟩], [⟨2, (longSecond n).toRow⟩],
        [⟨1, (longFirst n).toRow⟩, ⟨2, (longSecond n).toRow⟩]] : List (List IngestRow)) := by
  have initial := (limitRows_initial limit ((longRemote n).entries.after p cursor)).sublist
  have selected : ((longRemote n).entries.after p cursor).Sublist (longRemote n).entries.rows := List.filter_sublist
  rw [longRemote_rows] at selected
  exact List.mem_sublists.mpr (initial.trans selected)

theorem longRemote_collects (n : Nat) (p : EntryRow → Bool) (cursor limit : Int) :
    ∃ reply ∈ longReplies n, collectBatch ((longRemote n).entries.page p cursor limit) ⟨[], none⟩ = .ok reply.1 := by
  have listed := longRemote_page n p cursor limit
  simp only [List.mem_cons, List.not_mem_nil, or_false] at listed
  rcases listed with page | page | page | page
  · exact ⟨_, List.mem_cons_self, by rw [page]; rfl⟩
  · exact ⟨_, List.mem_cons_of_mem _ List.mem_cons_self, by rw [page]; rfl⟩
  · exact ⟨_, List.mem_cons_of_mem _ (List.mem_cons_of_mem _ List.mem_cons_self), by rw [page]; rfl⟩
  · exact ⟨_, List.mem_cons_of_mem _ (List.mem_cons_of_mem _ (List.mem_cons_of_mem _ List.mem_cons_self)),
      by rw [page]; rfl⟩

theorem longRemote_answers (n : Nat) (cursor : Int) (limit : UInt64) :
    ∃ reply ∈ longReplies n, (longRemote n).pullSinceCursor cursor limit = .ok reply.1 :=
  longRemote_collects n (fun _ => true) cursor (asI64 limit)

theorem longText_length (n : Nat) :
    (longText n "id-1" "1").length = n + 187 ∧ (longText n "id-2" "2").length = n + 187 := by
  have first : (longHead "id-1" "1").length = 91 := by decide
  have second : (longHead "id-2" "2").length = 91 := by decide
  have rest : longTail.length = 96 := by decide
  simp only [longText, List.length_append, List.length_replicate, first, second, rest]
  omega

theorem batchText_length (entries : List UInt8) :
    (batchText entries "null").length = entries.length + 33 ∧
      (batchText entries "1").length = entries.length + 30 ∧
      (batchText entries "2").length = entries.length + 30 := by
  have start : (ascii "\x7b\"entries\":[").length = 12 := by decide
  have none : (ascii ("],\"next_cursor\":" ++ "null" ++ "\x7d")).length = 21 := by decide
  have first : (ascii ("],\"next_cursor\":" ++ "1" ++ "\x7d")).length = 18 := by decide
  have second : (ascii ("],\"next_cursor\":" ++ "2" ++ "\x7d")).length = 18 := by decide
  simp only [batchText, List.length_append, start, none, first, second]
  omega

theorem longReplies_lengths (n : Nat) :
    (longReplies n).map (fun reply => (reply.1, reply.2.length)) =
      [(⟨[], none⟩, 33), (⟨[longFirst n], some 1⟩, n + 217), (⟨[longSecond n], some 2⟩, n + 217),
        (⟨[longFirst n, longSecond n], some 2⟩, 2 * n + 405)] := by
  have comma : (ascii ",").length = 1 := by decide
  simp only [longReplies, List.map_cons, List.map_nil, batchText_length, List.length_append, longText_length,
    List.length_nil, comma, List.cons.injEq, Prod.mk.injEq, and_true, true_and]
  omega

theorem longReplies_of_length {n length : Nat} {batch : PullBatch}
    (listed : (batch, length) ∈ (longReplies n).map fun reply => (reply.1, reply.2.length)) :
    ∃ reply ∈ longReplies n, reply.1 = batch ∧ reply.2.length = length := by
  obtain ⟨reply, member, same⟩ := List.mem_map.mp listed
  cases same
  exact ⟨reply, member, rfl, rfl⟩

theorem longReplies_length_le {n : Nat} {reply : PullBatch × List UInt8} (listed : reply ∈ longReplies n) :
    reply.2.length ≤ 2 * n + 405 := by
  have length : (reply.1, reply.2.length) ∈ (longReplies n).map fun reply => (reply.1, reply.2.length) :=
    List.mem_map_of_mem listed
  rw [longReplies_lengths] at length
  simp only [List.mem_cons, List.not_mem_nil, or_false, Prod.mk.injEq] at length
  omega

section

variable {n : Nat} (small : 2 * n + 405 ≤ isizeMax)

include small

theorem fitsP2p_long {reply : PullBatch × List UInt8} (listed : reply ∈ longReplies n) :
    FitsP2p (longSync n) rawZstd syncPullProtocolPlain reply.1 ↔ reply.2.length ≤ pullRespMaxBytes.toNat := by
  have fits : reply.2.length ≤ isizeMax := (longReplies_length_le listed).trans small
  have written : (longSync n).toVec ⟨reply.1.entries, reply.1.nextCursor⟩ = .ok ⟨reply.2, fits⟩ :=
    replySerde_toVec (fun _ _ _ _ same => SyncBatch.mk.inj same) listed fits
  have plain : isZstdProtocol syncPullProtocolPlain = false := by decide
  simp only [FitsP2p, SentBytes, written, plain]
  constructor
  · rintro ⟨json, sent, ⟨same, rfl⟩, -, within⟩
    cases same
    exact within
  · intro within
    exact ⟨_, _, ⟨rfl, rfl⟩, Bool.noConfusion, within⟩

theorem longHttp_toVec {reply : PullBatch × List UInt8} (listed : reply ∈ longReplies n) :
    ∃ body, (longHttp n).toVec ⟨reply.1.entries, reply.1.nextCursor⟩ = .ok body ∧ body.len = reply.2.length := by
  have fits : reply.2.length ≤ isizeMax := (longReplies_length_le listed).trans small
  exact ⟨⟨reply.2, fits⟩, replySerde_toVec (fun _ _ _ _ same => EntriesResponse.mk.inj same) listed fits, rfl⟩

theorem fitsHttp_long {reply : PullBatch × List UInt8} (listed : reply ∈ longReplies n) :
    FitsHttp (longHttp n) reply.1 ↔ reply.2.length ≤ intoStringLimit := by
  obtain ⟨body, written, length⟩ := longHttp_toVec small listed
  unfold FitsHttp
  rw [written, ← length]
  constructor
  · intro ⟨_, same, within⟩
    cases same
    exact within
  · intro within
    exact ⟨body, rfl, within⟩

end

theorem long_fits {n max : Nat} {fits : PullBatch → Prop}
    (decides : ∀ reply ∈ longReplies n, fits reply.1 ↔ reply.2.length ≤ max) :
    (n + 217 ≤ max → SinglesFit (longRemote n) fits) ∧
      (max < 2 * n + 405 → ¬ PageFits (longRemote n) fits 0 2) := by
  have lengths := longReplies_lengths n
  constructor
  · intro room row member
    obtain ⟨first, firstListed, firstBatch, firstLength⟩ : ∃ reply ∈ longReplies n,
        reply.1 = ⟨[longFirst n], some 1⟩ ∧ reply.2.length = n + 217 :=
      longReplies_of_length (by simp [lengths])
    obtain ⟨second, secondListed, secondBatch, secondLength⟩ : ∃ reply ∈ longReplies n,
        reply.1 = ⟨[longSecond n], some 2⟩ ∧ reply.2.length = n + 217 :=
      longReplies_of_length (by simp [lengths])
    rw [longRemote_rows] at member
    rcases List.mem_cons.mp member with rfl | last
    · refine ⟨longFirst n, rfl, ?_⟩
      rw [← firstBatch]
      exact (decides first firstListed).mpr (by omega)
    · rw [List.mem_singleton.mp last]
      refine ⟨longSecond n, rfl, ?_⟩
      rw [← secondBatch]
      exact (decides second secondListed).mpr (by omega)
  · intro full ⟨batch, answer, fit⟩
    have both : (longRemote n).pullSinceCursor 0 2 = .ok ⟨[longFirst n, longSecond n], some 2⟩ := by rfl
    rw [both] at answer
    cases answer
    obtain ⟨reply, listed, batch, length⟩ : ∃ reply ∈ longReplies n,
        reply.1 = ⟨[longFirst n, longSecond n], some 2⟩ ∧ reply.2.length = 2 * n + 405 :=
      longReplies_of_length (by simp [lengths])
    rw [← batch] at fit
    have within := (decides reply listed).mp fit
    omega

theorem replySerde_roundTrips_short {α : Type} [DecidableEq α] (make : List Entry → Option Int → α) :
    (replySerde make 4).RoundTrips := by
  have texts : ((longReplies 4).map fun reply => (make reply.1.entries reply.1.nextCursor, reply.2)).map Prod.snd =
      (longReplies 4).map Prod.snd := by rw [List.map_map]; rfl
  apply listedSerde_roundTrips
  · rw [texts]
    decide +kernel
  · rw [texts]
    decide +kernel

theorem pull_completes_short :
    PullCompletes opened (longRemote 4) "http://peer:8844" 2
        (p2pPull (longSync 4) rawZstd syncPullProtocolPlain .default (longRemote 4)) ∧
      PullCompletes opened (longRemote 4) "http://peer:8844" 2
        (httpPullBatch (longHttp 4) "http://peer:8844" (longRemote 4)) := by
  have small : 2 * 4 + 405 ≤ isizeMax := by decide
  obtain ⟨overP2p, overHttp⟩ := pull_adapts_iff opened (longRemote 4) "http://peer:8844" 2 (by decide)
    (longSync 4) rawZstd syncPullProtocolPlain .default (longHttp 4) (replySerde_roundTrips_short _)
    rawZstd_roundTrips replySerde_rejectsEmpty rawZstd_rejectsEmpty (replySerde_roundTrips_short _) (by
      intro cursor limit batch answer
      obtain ⟨reply, listed, answers⟩ := longRemote_answers 4 cursor limit
      rw [answers] at answer
      cases answer
      obtain ⟨body, written, -⟩ := longHttp_toVec small listed
      exact ⟨body, written⟩)
  constructor
  · apply overP2p.mpr
    · intro _ cursor _
      obtain ⟨reply, listed, answer⟩ := longRemote_answers 4 cursor 2
      have short := longReplies_length_le listed
      exact ⟨reply.1, answer, (fitsP2p_long small listed).mpr (short.trans (by decide))⟩
    · exact (long_fits fun reply listed => fitsP2p_long small listed).1 (by decide)
  · apply overHttp.mpr
    · intro _ cursor _
      obtain ⟨reply, listed, answer⟩ := longRemote_answers 4 cursor 2
      have short := longReplies_length_le listed
      exact ⟨reply.1, answer, (fitsHttp_long small listed).mpr (short.trans (by decide))⟩
    · exact (long_fits fun reply listed => fitsHttp_long small listed).1 (by decide)

theorem opened_getLastCursor (peerId : String) : opened.getLastCursor peerId = 0 := rfl

theorem p2pPull_does_not_adapt {n : Nat} (small : 2 * n + 405 ≤ isizeMax)
    (one : n + 217 ≤ pullRespMaxBytes.toNat) (two : pullRespMaxBytes.toNat < 2 * n + 405) (peerId : String) :
    ¬ AdaptsToSize opened (longRemote n) peerId 2 (FitsP2p (longSync n) rawZstd syncPullProtocolPlain)
      (p2pPull (longSync n) rawZstd syncPullProtocolPlain .default (longRemote n)) := by
  intro adapts
  obtain ⟨singles, unfit⟩ := long_fits fun reply listed => fitsP2p_long small listed
  have completes := adapts (singles one)
  have positive : (1 : UInt64) ≤ 2 := by decide
  apply not_pullCompletes positive _ completes
  rw [opened_getLastCursor]
  exact p2pPull_unfit replySerde_rejectsEmpty rawZstd_rejectsEmpty .default (unfit two)

theorem httpPullBatch_does_not_adapt {n : Nat} (small : 2 * n + 405 ≤ isizeMax)
    (one : n + 217 ≤ intoStringLimit) (two : intoStringLimit < 2 * n + 405) (peerId : String) :
    ¬ AdaptsToSize opened (longRemote n) peerId 2 (FitsHttp (longHttp n))
      (httpPullBatch (longHttp n) peerId (longRemote n)) := by
  intro adapts
  obtain ⟨singles, unfit⟩ := long_fits fun reply listed => fitsHttp_long small listed
  have completes := adapts (singles one)
  have positive : (1 : UInt64) ≤ 2 := by decide
  apply not_pullCompletes positive _ completes
  rw [opened_getLastCursor]
  obtain ⟨reply, listed, answer⟩ := longRemote_answers n 0 2
  obtain ⟨body, written, length⟩ := longHttp_toVec small listed
  have large : intoStringLimit < body.len := by
    by_contra within
    exact unfit two ⟨reply.1, answer, body, written, Nat.not_lt.mp within⟩
  exact httpPullBatch_large peerId answer written large

/-- Two entries that travel alone but not together: with a limit of 2 the session brings neither. -/
theorem oversized_batch_ends_session :
    ¬ AdaptsToSize opened (longRemote 0x1100000) "http://peer:8844" 2
        (FitsP2p (longSync 0x1100000) rawZstd syncPullProtocolPlain)
        (p2pPull (longSync 0x1100000) rawZstd syncPullProtocolPlain .default (longRemote 0x1100000)) ∧
      ¬ AdaptsToSize opened (longRemote 0x600000) "http://peer:8844" 2 (FitsHttp (longHttp 0x600000))
        (httpPullBatch (longHttp 0x600000) "http://peer:8844" (longRemote 0x600000)) := by
  constructor
  · apply p2pPull_does_not_adapt
    · decide
    · decide
    · decide
  · apply httpPullBatch_does_not_adapt
    · decide
    · decide
    · decide

end Rustory
