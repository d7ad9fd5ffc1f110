import Rustory.Sync.PullSession

namespace Rustory

open Foundations LocalStore

/-- A pull from a store that nobody changes; only a request for more than one entry may be
    answered with "too large". -/
def PullsFrom (remote : LocalStore) (pull : Int → UInt64 → Except Error PullBatch) : Prop :=
  ∀ cursor limit, pull cursor limit = remote.pullSinceCursor cursor limit ∨
    (limit ≠ 1 ∧ ∃ err, pull cursor limit = .error err ∧ isPayloadTooLargeError err = true)

/-- The remote rows that a session of `peerId` still has to receive. -/
def unseenRows (remote store : LocalStore) (peerId : String) : List IngestRow :=
  remote.entries.after (fun _ => true) (store.getLastCursor peerId)

/-- The store once `rows` of `peerId` have been received. -/
def pulledTo (store : LocalStore) (peerId : String) (rows : List IngestRow) : LocalStore :=
  match rows.getLast? with
  | none => store
  | some last =>
    { store with entries := (store.entries.insertAll (rows.map Numbered.val)).1 }.setLastCursor peerId last.seq

def changedBy (store : LocalStore) (rows : List IngestRow) : Nat :=
  (store.entries.insertAll (rows.map Numbered.val)).2

section

variable {store remote : LocalStore} {peerId : String} {rows later : List IngestRow}
  {batch : PullBatch} {last : IngestRow}

theorem changedBy_le (store : LocalStore) (rows : List IngestRow) : changedBy store rows ≤ rows.length := by
  have bound := store.entries.insertAll_changed_le (rows.map Numbered.val)
  rw [List.length_map] at bound
  exact bound

theorem pulledTo_append (read : BatchOf rows batch) (ends : rows.getLast? = some last) :
    pulledTo ((store.inserted batch.entries).setLastCursor peerId last.seq) peerId later =
      pulledTo store peerId (rows ++ later) := by
  unfold pulledTo
  rw [List.getLast?_append, ends]
  cases final : later.getLast? with
  | none =>
    rw [List.getLast?_eq_none_iff.mp final, List.append_nil, ← read.entries]
    rfl
  | some row =>
    rw [List.map_append, NumberedTable.insertAll_append, ← read.entries]
    simp [setLastCursor, inserted]

theorem changedBy_append (read : BatchOf rows batch) :
    (store.insertedStats batch.entries).inserted +
        changedBy ((store.inserted batch.entries).setLastCursor peerId last.seq) later =
      changedBy store (rows ++ later) := by
  unfold changedBy
  rw [List.map_append, NumberedTable.insertAll_append_changed, ← read.entries]
  rfl

end

namespace PullState

/-- From here on the session receives every remote row above its cursor, in order. -/
def Receives (peerId : String) (pull : Int → UInt64 → Except Error PullBatch) (remote store : LocalStore)
    (vars : PullVars) : Prop :=
  let ahead := remote.entries.after (fun _ => true) vars.cursor
  ∃ fuel, (step peerId pull)^[fuel] (store, .pulling vars) =
    (pulledTo store peerId ahead, .returned (.ok ⟨vars.receivedTotal + ahead.length,
      vars.insertedTotal + changedBy store ahead, vars.ignoredTotal + (ahead.length - changedBy store ahead)⟩))

variable {peerId : String} {pull : Int → UInt64 → Except Error PullBatch} {remote store : LocalStore}
  {vars : PullVars} {batch : PullBatch} {last : IngestRow}

theorem receives_empty (answer : pull vars.cursor vars.batchLimit = .ok batch) (none : batch.entries = [])
    (empty : remote.entries.after (fun _ => true) vars.cursor = []) :
    Receives peerId pull remote store vars := by
  unfold Receives
  rw [empty]
  exact ⟨1, by simp [step, answer, onReply, none, pulledTo, changedBy, NumberedTable.insertAll]⟩

theorem receives_turn (answer : pull vars.cursor vars.batchLimit = .ok batch)
    (read : BatchOf (remote.entries.page (fun _ => true) vars.cursor (asI64 vars.batchLimit)) batch)
    (ends : (remote.entries.page (fun _ => true) vars.cursor (asI64 vars.batchLimit)).getLast? = some last)
    (found : batch.nextCursor = some last.seq) (nonempty : batch.entries ≠ [])
    (above : vars.cursor < last.seq)
    (receives : Receives peerId pull remote ((store.inserted batch.entries).setLastCursor peerId last.seq)
      ⟨last.seq, vars.receivedTotal + batch.entries.length,
        vars.insertedTotal + (store.insertedStats batch.entries).inserted,
        vars.ignoredTotal + (store.insertedStats batch.entries).ignored, vars.batchLimit⟩) :
    Receives peerId pull remote store vars := by
  have split := NumberedTable.after_last ends
  have size := congrArg List.length read.entries
  rw [rowsOf, List.length_map, List.length_map] at size
  let later := remote.entries.after (fun _ => true) last.seq
  let next := (store.inserted batch.entries).setLastCursor peerId last.seq
  let stats := store.insertedStats batch.entries
  have first : stats.inserted + stats.ignored = batch.entries.length :=
    store.insertedStats_total batch.entries
  have rest := changedBy_le next later
  have ignored : vars.ignoredTotal + stats.ignored + (later.length - changedBy next later) =
      vars.ignoredTotal + (batch.entries.length + later.length - (stats.inserted + changedBy next later)) := by
    omega
  obtain ⟨fuel, run⟩ := receives
  refine ⟨fuel + 3, ?_⟩
  rw [Function.iterate_add_apply, turn store answer nonempty found above, run, split, List.length_append,
    ← pulledTo_append read ends, ← @changedBy_append store peerId _ later batch last read, ← size,
    ← ignored, ← Nat.add_assoc, ← Nat.add_assoc]

theorem receives_halved {err : Error} (answer : pull vars.cursor vars.batchLimit = .error err)
    (tooLarge : isPayloadTooLargeError err = true) (several : ¬ vars.batchLimit ≤ 1)
    (receives : Receives peerId pull remote store { vars with batchLimit := halved vars.batchLimit }) :
    Receives peerId pull remote store vars := by
  obtain ⟨fuel, run⟩ := receives
  refine ⟨fuel + 1, ?_⟩
  rw [Function.iterate_add_apply, turn_rejected store answer tooLarge several]
  exact run

theorem breaks_error {err : Error} (answer : pull vars.cursor vars.batchLimit = .error err)
    (final : ¬ (isPayloadTooLargeError err = true ∧ ¬ vars.batchLimit ≤ 1)) :
    Breaks peerId pull store vars := by
  by_cases tooLarge : isPayloadTooLargeError err = true
  · have one : vars.batchLimit ≤ 1 := by
      by_contra several
      exact final ⟨tooLarge, several⟩
    exact ⟨1, err.context "pull batch too large even with limit=1", store,
      by simp [step, answer, onReply, tooLarge, one]⟩
  · exact ⟨1, err, store, by simp [step, answer, onReply, tooLarge]⟩

/-- The session receives everything, or meets a row that the remote store cannot read. -/
theorem receives_or_breaks (pulls : PullsFrom remote pull) (limit : 1 ≤ vars.batchLimit) :
    ((∀ row ∈ remote.entries.after (fun _ => true) vars.cursor, row.val.Readable) ∧
        Receives peerId pull remote store vars) ∨
      ((¬ ∀ row ∈ remote.entries.after (fun _ => true) vars.cursor, row.val.Readable) ∧
        Breaks peerId pull store vars) := by
  -- on the remote rows still ahead of the cursor, and on the limit while they stay
  induction measure : remaining (remote.entries.after (fun _ => true) vars.cursor) vars.batchLimit
    using Nat.strong_induction_on generalizing vars store with
  | _ size ih =>
    subst measure
    cases answer : pull vars.cursor vars.batchLimit with
    | error err =>
      by_cases again : isPayloadTooLargeError err = true ∧ ¬ vars.batchLimit ≤ 1
      · obtain ⟨tooLarge, several⟩ := again
        let later : PullVars := { vars with batchLimit := halved vars.batchLimit }
        rcases @ih _ (remaining_halved several _) store later (one_le_halved _) rfl with
          ⟨readable, receives⟩ | ⟨unreadable, breaks⟩
        · exact Or.inl ⟨readable, receives_halved answer tooLarge several receives⟩
        · exact Or.inr ⟨unreadable, breaks_later (turn_rejected store answer tooLarge several) breaks⟩
      · refine Or.inr ⟨fun readable => ?_, breaks_error answer again⟩
        rcases pulls vars.cursor vars.batchLimit with same | ⟨notOne, err', rejects, tooLarge⟩
        · obtain ⟨batch, served⟩ := pullSinceCursor_ok_iff.mpr fun row listed =>
            readable row ((limitRows_initial _ _).subset listed)
          cases answer.symm.trans (same.trans served)
        · cases answer.symm.trans rejects
          exact again ⟨tooLarge, fun one => notOne (UInt64.le_antisymm one limit)⟩
    | ok batch =>
      have served : remote.pullSinceCursor vars.cursor vars.batchLimit = .ok batch := by
        rcases pulls vars.cursor vars.batchLimit with same | ⟨-, err, rejects, -⟩
        · exact same.symm.trans answer
        · cases answer.symm.trans rejects
      have read := pullSinceCursor_of served
      by_cases none : batch.entries = []
      · have empty := (limitRows_eq_nil (asI64_ne_zero limit)).mp (read.entries_nil.mp none)
        apply Or.inl
        apply And.intro _ (receives_empty answer none empty)
        rw [empty]
        exact fun row listed => absurd listed List.not_mem_nil
      · obtain ⟨last, ends, found, above, shorter⟩ := read.page_last none
        have pageReadable := pullSinceCursor_ok_iff.mp ⟨batch, served⟩
        let later : PullVars := ⟨last.seq, vars.receivedTotal + batch.entries.length,
          vars.insertedTotal + (store.insertedStats batch.entries).inserted,
          vars.ignoredTotal + (store.insertedStats batch.entries).ignored, vars.batchLimit⟩
        rw [NumberedTable.forall_after_last ends]
        rcases @ih _ (remaining_shorter shorter _) _ later limit rfl with
          ⟨readable, receives⟩ | ⟨unreadable, breaks⟩
        · exact Or.inl ⟨⟨pageReadable, readable⟩, receives_turn answer read ends found none above receives⟩
        · exact Or.inr ⟨fun readable => unreadable readable.2,
            breaks_later (turn store answer none found above) breaks⟩

end PullState

/-- What a session that has received everything left behind. -/
structure ReceivedAll (remote store : LocalStore) (peerId : String) (stats : PullStats)
    (after : LocalStore) : Prop where
  received : stats.received = (unseenRows remote store peerId).length
  inserted : stats.inserted =
    ((unseenRows remote store peerId).filter fun row => ¬ store.Holds row.val.entryId).length
  total : stats.received = stats.inserted + stats.ignored
  again : ∀ (limit : UInt64) pull, 1 ≤ limit → PullsFrom remote pull → ∃ fuel stats' after',
    syncPullFromPeer fuel after peerId limit pull = (after', .returned (.ok stats')) ∧ stats'.received = 0

/-- Two sessions from the same store return the same, and leave the same store. -/
def PullIgnoresBatching (remote store : LocalStore) (peerId : String) (limit₁ limit₂ : UInt64)
    (pull₁ pull₂ : Int → UInt64 → Except Error PullBatch) : Prop :=
  ∃ fuel₁ fuel₂ stats after,
    syncPullFromPeer fuel₁ store peerId limit₁ pull₁ = (after, .returned (.ok stats)) ∧
    syncPullFromPeer fuel₂ store peerId limit₂ pull₂ = (after, .returned (.ok stats)) ∧
    ReceivedAll remote store peerId stats after

section

variable {remote store : LocalStore} {peerId : String} {limit : UInt64}
  {pull : Int → UInt64 → Except Error PullBatch}

/-- What every session returns that meets no unreadable row. -/
def pullResult (remote store : LocalStore) (peerId : String) : PullStats :=
  let unseen := unseenRows remote store peerId
  ⟨unseen.length, changedBy store unseen, unseen.length - changedBy store unseen⟩

theorem sync_readable (positive : 1 ≤ limit) (pulls : PullsFrom remote pull)
    (readable : ∀ row ∈ unseenRows remote store peerId, row.val.Readable) :
    ∃ fuel, syncPullFromPeer fuel store peerId limit pull =
      (pulledTo store peerId (unseenRows remote store peerId),
        .returned (.ok (pullResult remote store peerId))) := by
  unfold syncPullFromPeer
  rw [PullState.start_pulling positive]
  let vars : PullVars := ⟨store.getLastCursor peerId, 0, 0, 0, limit⟩
  have first : 1 ≤ vars.batchLimit := positive
  rcases @PullState.receives_or_breaks peerId pull remote store vars pulls first with
    ⟨-, fuel, run⟩ | ⟨unreadable, -⟩
  · refine ⟨fuel, ?_⟩
    rw [run]
    simp only [vars, Nat.zero_add]
    rfl
  · exact absurd readable unreadable

theorem not_sync_unreadable (positive : 1 ≤ limit) (pulls : PullsFrom remote pull) {row : IngestRow}
    (unseen : row ∈ unseenRows remote store peerId) (unreadable : ¬ row.val.Readable) {fuel : Nat}
    {stats : PullStats} {after : LocalStore} :
    syncPullFromPeer fuel store peerId limit pull ≠ (after, .returned (.ok stats)) := by
  unfold syncPullFromPeer
  rw [PullState.start_pulling positive]
  intro returned
  let vars : PullVars := ⟨store.getLastCursor peerId, 0, 0, 0, limit⟩
  have first : 1 ≤ vars.batchLimit := positive
  rcases @PullState.receives_or_breaks peerId pull remote store vars pulls first with
    ⟨readable, -⟩ | ⟨-, fuel', err, after', broken⟩
  · exact unreadable (readable row unseen)
  · cases PullState.returned_unique returned broken

theorem unseenRows_pulledTo :
    unseenRows remote (pulledTo store peerId (unseenRows remote store peerId)) peerId = [] := by
  unfold pulledTo
  cases ends : (unseenRows remote store peerId).getLast? with
  | none => exact List.getLast?_eq_none_iff.mp ends
  | some last =>
    have cursor : ({ store with entries := (store.entries.insertAll
        ((unseenRows remote store peerId).map Numbered.val)).1 }.setLastCursor peerId
          last.seq).getLastCursor peerId = last.seq := by
      simp [getLastCursor, getLastCursorOpt, setLastCursor]
    show remote.entries.after _ (LocalStore.getLastCursor _ peerId) = []
    rw [cursor]
    exact NumberedTable.after_end ends

theorem changedBy_unseen :
    changedBy store (unseenRows remote store peerId) =
      ((unseenRows remote store peerId).filter fun row => ¬ store.Holds row.val.entryId).length := by
  have distinct : ((unseenRows remote store peerId).map fun row => row.val.entryId).Nodup :=
    (List.filter_sublist.map _).nodup remote.entries.keys_nodup
  unfold changedBy
  rw [NumberedTable.insertAll_changed_of_nodup _ (by rw [List.map_map]; exact distinct), List.filter_map,
    List.length_map]
  rfl

theorem receivedAll :
    ReceivedAll remote store peerId (pullResult remote store peerId)
      (pulledTo store peerId (unseenRows remote store peerId)) := by
  have bound := changedBy_le store (unseenRows remote store peerId)
  apply ReceivedAll.mk rfl changedBy_unseen
  · simp only [pullResult]
    omega
  · intro limit pull positive pulls
    have seen := @unseenRows_pulledTo remote store peerId
    have still : ∀ row ∈ unseenRows remote (pulledTo store peerId (unseenRows remote store peerId)) peerId,
        row.val.Readable := by
      rw [seen]
      exact fun row listed => absurd listed List.not_mem_nil
    obtain ⟨fuel, returned⟩ := sync_readable positive pulls still
    refine ⟨fuel, _, _, returned, ?_⟩
    rw [pullResult, seen]
    rfl

end

/-- The outcome of a pull depends on the two stores alone, as long as every row can be read. -/
theorem pull_ignores_batching_iff {remote store : LocalStore} {peerId : String} {limit₁ limit₂ : UInt64}
    {pull₁ pull₂ : Int → UInt64 → Except Error PullBatch} (positive₁ : 1 ≤ limit₁) (positive₂ : 1 ≤ limit₂)
    (pulls₁ : PullsFrom remote pull₁) (pulls₂ : PullsFrom remote pull₂) :
    PullIgnoresBatching remote store peerId limit₁ limit₂ pull₁ pull₂ ↔
      ∀ row ∈ unseenRows remote store peerId, row.val.Readable := by
  constructor
  · intro ⟨fuel₁, fuel₂, stats, after, first, _, _⟩ row unseen
    by_contra unreadable
    exact not_sync_unreadable positive₁ pulls₁ unseen unreadable first
  · intro readable
    obtain ⟨fuel₁, first⟩ := sync_readable positive₁ pulls₁ readable
    obtain ⟨fuel₂, second⟩ := sync_readable positive₂ pulls₂ readable
    exact ⟨fuel₁, fuel₂, _, _, first, second, receivedAll⟩

theorem pull_ignores_batching_iff_echo :
    PullIgnoresBatching (opened.inserted [firstEcho, secondEcho]) opened "peer-a" 1 2
        (opened.inserted [firstEcho, secondEcho]).pullSinceCursor
        (opened.inserted [firstEcho, secondEcho]).pullSinceCursor ↔
      ∀ row ∈ unseenRows (opened.inserted [firstEcho, secondEcho]) opened "peer-a", row.val.Readable :=
  pull_ignores_batching_iff (by decide) (by decide) (fun _ _ => Or.inl rfl) (fun _ _ => Or.inl rfl)

/-- A remote entry that cannot be read back stops every session that reaches it. -/
theorem unreadable_entry_stops_pull :
    ¬ ∀ (remote store : LocalStore) (peerId : String) (limit₁ limit₂ : UInt64)
      (pull₁ pull₂ : Int → UInt64 → Except Error PullBatch), 1 ≤ limit₁ → 1 ≤ limit₂ →
      PullsFrom remote pull₁ → PullsFrom remote pull₂ →
      PullIgnoresBatching remote store peerId limit₁ limit₂ pull₁ pull₂ := by
  intro same
  let remote := opened.inserted [lateEcho]
  have pulls : PullsFrom remote remote.pullSinceCursor := fun _ _ => Or.inl rfl
  obtain ⟨fuel, -, stats, after, returned, -, -⟩ :=
    same remote opened "peer-a" 1 2 _ _ (by decide) (by decide) pulls pulls
  have unseen : (⟨1, lateEcho.toRow⟩ : IngestRow) ∈ unseenRows remote opened "peer-a" := by decide
  exact not_sync_unreadable (by decide) pulls unseen (by decide) returned

end Rustory
