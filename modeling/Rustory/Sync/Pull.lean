import Rustory.Storage.Insert

namespace Rustory

open LocalStore

/-! Errors that ask for a smaller batch. -/

def Cause.payloadTooLarge : Cause → Bool
  | .ureqStatus code _ => code == 413
  | .ureqTransport _ => false
  | .outbound (.io text) => contains text "too large"
  | cause =>
    contains cause.display "message too large" || contains cause.display "request too large" ||
      contains cause.display "payload too large"

def isPayloadTooLargeError (err : Error) : Bool := err.any Cause.payloadTooLarge

/-- `(batch_limit / 2).max(1)` -/
def halved (batchLimit : UInt64) : UInt64 := max (batchLimit / 2) 1

theorem one_le_halved (batchLimit : UInt64) : 1 ≤ halved batchLimit := by
  change 1 ≤ if batchLimit / 2 ≤ 1 then 1 else batchLimit / 2
  split
  · exact UInt64.le_refl 1
  · rename_i above
    exact UInt64.le_of_lt (UInt64.not_le.mp above)

theorem halved_lt {batchLimit : UInt64} (several : ¬ batchLimit ≤ 1) :
    (halved batchLimit).toNat < batchLimit.toNat := by
  rw [UInt64.le_iff_toNat_le] at several
  have one : (1 : UInt64).toNat = 1 := rfl
  have half : (batchLimit / 2).toNat = batchLimit.toNat / 2 := UInt64.toNat_div batchLimit 2
  change (if batchLimit / 2 ≤ 1 then 1 else batchLimit / 2).toNat < _
  split <;> omega

/-- What a session has before it: the rows above its cursor, and the limit as long as they stay. -/
def remaining (ahead : List IngestRow) (batchLimit : UInt64) : Nat :=
  ahead.length * 0x10000000000000000 + batchLimit.toNat

theorem remaining_halved {batchLimit : UInt64} (several : ¬ batchLimit ≤ 1) (ahead : List IngestRow) :
    remaining ahead (halved batchLimit) < remaining ahead batchLimit :=
  Nat.add_lt_add_left (halved_lt several) _

theorem remaining_shorter {ahead later : List IngestRow} (shorter : later.length < ahead.length)
    (batchLimit : UInt64) : remaining later batchLimit < remaining ahead batchLimit := by
  unfold remaining
  omega

structure PullStats where
  received : Nat
  inserted : Nat
  ignored : Nat
  deriving DecidableEq, Repr

structure PullVars where
  cursor : Int
  receivedTotal : Nat
  insertedTotal : Nat
  ignoredTotal : Nat
  batchLimit : UInt64
  deriving DecidableEq

/-- The points of `sync_pull_from_peer` (and of `sync_pull_from_peer_async`, whose body is the
    same) between two calls that leave the process. -/
inductive PullState
  | pulling (vars : PullVars)
  | inserting (vars : PullVars) (batch : PullBatch)
  | advancing (vars : PullVars) (nextCursor : Int)
  | returned (result : Except Error PullStats)

namespace PullState

def start (limit : UInt64) (lastCursor : Except Error Int) : PullState :=
  if limit = 0 then
    .returned (.ok ⟨0, 0, 0⟩)
  else
    match lastCursor with
    | .error err => .returned (.error err)
    | .ok cursor => .pulling ⟨cursor, 0, 0, 0, limit⟩

def onReply (vars : PullVars) : Except Error PullBatch → PullState
  | .error err =>
    if isPayloadTooLargeError err then
      if vars.batchLimit ≤ 1 then
        .returned (.error (err.context "pull batch too large even with limit=1"))
      else
        .pulling { vars with batchLimit := halved vars.batchLimit }
    else
      .returned (.error err)
  | .ok batch =>
    if batch.entries.isEmpty then
      .returned (.ok ⟨vars.receivedTotal, vars.insertedTotal, vars.ignoredTotal⟩)
    else
      .inserting vars batch

def onInserted (vars : PullVars) (batch : PullBatch) : Except Error InsertStats → PullState
  | .error err => .returned (.error err)
  | .ok stats =>
    let vars := { vars with
      receivedTotal := vars.receivedTotal + batch.entries.length
      insertedTotal := vars.insertedTotal + stats.inserted
      ignoredTotal := vars.ignoredTotal + stats.ignored }
    match batch.nextCursor with
    | none =>
      .returned (.error (bail "invalid pull batch: entries is non-empty but next_cursor is None"))
    | some nextCursor =>
      if nextCursor ≤ vars.cursor then
        .returned (.error (bail "invalid pull batch: next_cursor did not advance"))
      else
        .advancing vars nextCursor

def onCursorSet (vars : PullVars) (nextCursor : Int) : Except Error Unit → PullState
  | .error err => .returned (.error err)
  | .ok () => .pulling { vars with cursor := nextCursor }

/-- One step of a session that is alone on its store. -/
def step (peerId : String) (pull : Int → UInt64 → Except Error PullBatch) :
    LocalStore × PullState → LocalStore × PullState
  | (store, .pulling vars) => (store, onReply vars (pull vars.cursor vars.batchLimit))
  | (store, .inserting vars batch) =>
    let (result, store) := store.insertEntriesWithStats batch.entries
    (store, onInserted vars batch result)
  | (store, .advancing vars nextCursor) =>
    (store.setLastCursor peerId nextCursor, onCursorSet vars nextCursor (.ok ()))
  | (store, .returned result) => (store, .returned result)

end PullState

/-- `sync_pull_from_peer` with no other writer on `local`, cut off after `fuel` steps. -/
def syncPullFromPeer (fuel : Nat) (store : LocalStore) (peerId : String) (limit : UInt64)
    (pull : Int → UInt64 → Except Error PullBatch) : LocalStore × PullState :=
  (PullState.step peerId pull)^[fuel] (store, .start limit (.ok (store.getLastCursor peerId)))

/-! What the steps of a session can lead to. -/

namespace PullState

theorem start_pulling {limit : UInt64} (positive : 1 ≤ limit) (cursor : Int) :
    start limit (.ok cursor) = .pulling ⟨cursor, 0, 0, 0, limit⟩ := if_neg (limit_ne_zero positive)

theorem onReply_pulling {vars next : PullVars} {reply : Except Error PullBatch}
    (h : onReply vars reply = .pulling next) :
    next.cursor = vars.cursor ∧ next.batchLimit = halved vars.batchLimit := by
  unfold onReply at h
  split at h
  · split at h
    · split at h
      · cases h
      · cases h
        exact ⟨rfl, rfl⟩
    · cases h
  · split at h <;> cases h

theorem onReply_inserting {vars next : PullVars} {reply : Except Error PullBatch} {batch : PullBatch}
    (h : onReply vars reply = .inserting next batch) :
    next = vars ∧ reply = .ok batch ∧ batch.entries ≠ [] := by
  unfold onReply at h
  split at h
  · split at h
    · split at h <;> cases h
    · cases h
  · split at h
    · cases h
    · rename_i nonempty
      cases h
      exact ⟨rfl, rfl, fun none => nonempty (by simp [none])⟩

theorem onReply_returned_ok {vars : PullVars} {reply : Except Error PullBatch} {stats : PullStats}
    (h : onReply vars reply = .returned (.ok stats)) :
    ∃ batch, reply = .ok batch ∧ batch.entries = [] := by
  unfold onReply at h
  split at h
  · split at h
    · split at h <;> cases h
    · cases h
  · rename_i batch
    split at h
    · rename_i none
      exact ⟨batch, rfl, List.isEmpty_iff.mp none⟩
    · cases h

theorem start_inserting {limit : UInt64} {lastCursor : Except Error Int} {vars : PullVars}
    {batch : PullBatch} : start limit lastCursor ≠ .inserting vars batch := by
  intro h
  unfold start at h
  split at h
  · cases h
  · split at h <;> cases h

theorem onReply_advancing {vars next : PullVars} {reply : Except Error PullBatch} {cursor : Int} :
    onReply vars reply ≠ .advancing next cursor := by
  intro h
  unfold onReply at h
  split at h
  · split at h
    · split at h <;> cases h
    · cases h
  · split at h <;> cases h

theorem onInserted_cases (vars : PullVars) (batch : PullBatch) (result : Except Error InsertStats) :
    (∃ err, onInserted vars batch result = .returned (.error err)) ∨
      ∃ next nextCursor stats, onInserted vars batch result = .advancing next nextCursor ∧
        result = .ok stats ∧ batch.nextCursor = some nextCursor ∧ vars.cursor < nextCursor ∧
        next.batchLimit = vars.batchLimit := by
  unfold onInserted
  split
  · exact Or.inl ⟨_, rfl⟩
  · rename_i stats
    dsimp only
    split
    · exact Or.inl ⟨_, rfl⟩
    · rename_i nextCursor found
      split
      · exact Or.inl ⟨_, rfl⟩
      · rename_i advances
        exact Or.inr ⟨_, nextCursor, stats, rfl, rfl, found, by omega, rfl⟩

theorem onInserted_inserting {vars next : PullVars} {batch again : PullBatch}
    {result : Except Error InsertStats} : onInserted vars batch result ≠ .inserting next again := by
  intro h
  rcases onInserted_cases vars batch result with ⟨err, state⟩ | ⟨_, _, _, state, -⟩
  · rw [state] at h
    cases h
  · rw [state] at h
    cases h

end PullState

end Rustory
