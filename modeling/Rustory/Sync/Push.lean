import Rustory.Sync.Pull

namespace Rustory

open LocalStore

structure PushVars where
  cursor : Int
  pushedTotal : Nat
  batchLimit : UInt64
  deriving DecidableEq

/-- The points of `sync_push_to_peer` (and of `sync_push_to_peer_async`, whose body is the
    same) between two steps that other processes can see. -/
inductive PushState
  | reading (vars : PushVars)
  | pushing (vars : PushVars) (batch : PullBatch)
  | advancing (vars : PushVars)
  | returned (result : Except Error Nat)

def readPushBatch (store : LocalStore) (sourceDeviceId : Option String) (cursor : Int)
    (batchLimit : UInt64) : Except Error PullBatch :=
  match sourceDeviceId with
  | some deviceId => store.pullSinceCursorForDevice cursor batchLimit deviceId
  | none => store.pullSinceCursor cursor batchLimit

namespace PushState

def start (limit : UInt64) (lastPushedSeq : Except Error Int) : PushState :=
  if limit = 0 then
    .returned (.ok 0)
  else
    match lastPushedSeq with
    | .error err => .returned (.error err)
    | .ok cursor => .reading ⟨cursor, 0, limit⟩

def onRead (vars : PushVars) : Except Error PullBatch → PushState
  | .error err => .returned (.error err)
  | .ok batch =>
    if batch.entries.isEmpty then
      .returned (.ok vars.pushedTotal)
    else
      .pushing vars batch

def onPushed (vars : PushVars) (batch : PullBatch) : Except Error Unit → PushState
  | .error err =>
    if isPayloadTooLargeError err then
      if vars.batchLimit ≤ 1 then
        .returned (.error (err.context "push batch too large even with limit=1"))
      else
        .reading { vars with batchLimit := halved vars.batchLimit }
    else
      .returned (.error err)
  | .ok () =>
    let vars := { vars with pushedTotal := vars.pushedTotal + batch.entries.length }
    match batch.nextCursor with
    | none =>
      .returned (.error (bail
        "invalid local push batch: entries is non-empty but next_cursor is None"))
    | some nextCursor =>
      if nextCursor ≤ vars.cursor then
        .returned (.error (bail "invalid local push batch: next_cursor did not advance"))
      else
        .advancing { vars with cursor := nextCursor }

def onSeqSet (vars : PushVars) : Except Error Unit → PushState
  | .error err => .returned (.error err)
  | .ok () => .reading vars

end PushState

/-- A session that is alone on its store, with the batches it has handed to `push`. -/
structure PushRun where
  store : LocalStore
  state : PushState
  handed : List (List Entry)

def PushRun.step (peerId : String) (sourceDeviceId : Option String)
    (push : List Entry → Except Error Unit) (run : PushRun) : PushRun :=
  match run.state with
  | .reading vars =>
    { run with state := .onRead vars (readPushBatch run.store sourceDeviceId vars.cursor vars.batchLimit) }
  | .pushing vars batch =>
    { run with
      state := .onPushed vars batch (push batch.entries)
      handed := run.handed ++ [batch.entries] }
  | .advancing vars =>
    { run with
      store := run.store.setLastPushedSeq peerId vars.cursor
      state := .onSeqSet vars (.ok ()) }
  | .returned _ => run

/-- `sync_push_to_peer` with no other writer on `local`, cut off after `fuel` steps. -/
def syncPushToPeer (fuel : Nat) (store : LocalStore) (peerId : String) (limit : UInt64)
    (sourceDeviceId : Option String) (push : List Entry → Except Error Unit) : PushRun :=
  (PushRun.step peerId sourceDeviceId push)^[fuel]
    ⟨store, .start limit (.ok (store.getLastPushedSeq peerId)), []⟩

/-! What the steps of a session can lead to. -/

namespace PushState

theorem onRead_cases (vars : PushVars) (result : Except Error PullBatch) :
    (∃ err, onRead vars result = .returned (.error err)) ∨
      ∃ batch, result = .ok batch ∧
        ((batch.entries = [] ∧ onRead vars result = .returned (.ok vars.pushedTotal)) ∨
          (batch.entries ≠ [] ∧ onRead vars result = .pushing vars batch)) := by
  cases result with
  | error err => exact Or.inl ⟨err, rfl⟩
  | ok batch =>
    refine Or.inr ⟨batch, rfl, ?_⟩
    by_cases none : batch.entries = []
    · exact Or.inl ⟨none, by simp [onRead, none]⟩
    · exact Or.inr ⟨none, by simp [onRead, none]⟩

theorem start_reading {limit : UInt64} (positive : 1 ≤ limit) (cursor : Int) :
    start limit (.ok cursor) = .reading ⟨cursor, 0, limit⟩ := if_neg (limit_ne_zero positive)

theorem onPushed_error (vars : PushVars) (batch : PullBatch) (err : Error) :
    (∃ err', onPushed vars batch (.error err) = .returned (.error err')) ∨
      onPushed vars batch (.error err) = .reading { vars with batchLimit := halved vars.batchLimit } := by
  simp only [onPushed]
  split
  · split
    · exact Or.inl ⟨_, rfl⟩
    · exact Or.inr rfl
  · exact Or.inl ⟨_, rfl⟩

theorem onPushed_ok (vars : PushVars) (batch : PullBatch) :
    (∃ err, onPushed vars batch (.ok ()) = .returned (.error err)) ∨
      ∃ next, onPushed vars batch (.ok ()) = .advancing next ∧
        batch.nextCursor = some next.cursor ∧ vars.cursor < next.cursor ∧
        next.batchLimit = vars.batchLimit := by
  simp only [onPushed]
  split
  · exact Or.inl ⟨_, rfl⟩
  · rename_i nextCursor found
    split
    · exact Or.inl ⟨_, rfl⟩
    · rename_i advances
      exact Or.inr ⟨_, rfl, found, by dsimp only; omega, rfl⟩

theorem onPushed_pushing {vars next : PushVars} {batch again : PullBatch} {result : Except Error Unit} :
    onPushed vars batch result ≠ .pushing next again := by
  intro h
  cases result with
  | error err =>
    rcases onPushed_error vars batch err with ⟨err', state⟩ | state <;> rw [state] at h <;> cases h
  | ok done =>
    rcases onPushed_ok vars batch with ⟨err, state⟩ | ⟨next', state, -⟩ <;> rw [state] at h <;> cases h

end PushState

end Rustory
