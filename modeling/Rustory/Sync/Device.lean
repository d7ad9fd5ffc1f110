import Rustory.Foundations.Transition
import Rustory.Sync.AnyPeer

namespace Rustory

open Foundations LocalStore

/-! What one device does to its store over time. -/

inductive DeviceAction
  | record (e : Entry)
  | pull (peerId : String)
  | push (peerId : String) (ends : PushState)
  | prune

/-- Single calls of the device `deviceId`: it records its own entries, pulls from peers that answer as
    they like, uploads what it has recorded, and prunes. A session may break off at any point. -/
inductive DeviceStep (deviceId : String) : LocalStore → DeviceAction → LocalStore → Prop
  | record (store : LocalStore) (e : Entry) (faults : TxFaults) :
      e.deviceId = deviceId →
      DeviceStep deviceId store (.record e) (store.insertEntriesWithStats [e] faults).2
  | pull (store : LocalStore) (peerId : String) (limit : UInt64) (outside : Nat → PullOutside) (n : Nat) :
      DeviceStep deviceId store (.pull peerId)
        (pullRun peerId limit (.ok (store.getLastCursor peerId)) outside store n).1
  | push (store after : LocalStore) (peerId : String) (limit : UInt64) (outside : Nat → PushOutside) (n : Nat)
      (ends : PushState) :
      (∀ m, (outside m).others = id) →
      pushRun peerId limit (some deviceId) (.ok (store.getLastPushedSeq peerId)) outside store n = (after, ends) →
      DeviceStep deviceId store (.push peerId ends) after
  | prune (store : LocalStore) (cutoffUnix : Int) (keepRecent : UInt64) (dryRun : Bool) :
      DeviceStep deviceId store .prune (store.pruneEntriesOlderThan cutoffUnix keepRecent dryRun).2

/-! What a step leaves alone: the peer book, and the cursors of every other peer. -/

def DeviceAction.peer : DeviceAction → Option String
  | .record _ => none
  | .pull peerId => some peerId
  | .push peerId _ => some peerId
  | .prune => none

structure KeepsOthers (peer : Option String) (store after : LocalStore) : Prop where
  book : after.peerBook = store.peerBook
  cursor : ∀ key, peer ≠ some key → after.getLastCursorOpt key = store.getLastCursorOpt key
  pushed : ∀ key, peer ≠ some key → after.getLastPushedSeqOpt key = store.getLastPushedSeqOpt key

theorem KeepsOthers.refl (peer : Option String) (store : LocalStore) : KeepsOthers peer store store :=
  ⟨rfl, fun _ _ => rfl, fun _ _ => rfl⟩

theorem KeepsOthers.trans {peer : Option String} {store between after : LocalStore}
    (first : KeepsOthers peer store between) (second : KeepsOthers peer between after) :
    KeepsOthers peer store after where
  book := second.book.trans first.book
  cursor := fun key other => (second.cursor key other).trans (first.cursor key other)
  pushed := fun key other => (second.pushed key other).trans (first.pushed key other)

theorem setLastCursor_keeps (store : LocalStore) (peerId : String) (cursor : Int) :
    KeepsOthers (some peerId) store (store.setLastCursor peerId cursor) where
  book := rfl
  cursor := fun _ other => AList.lookup_insert_ne fun same => other (congrArg some same.symm)
  pushed := fun _ _ => rfl

theorem setLastPushedSeq_keeps (store : LocalStore) (peerId : String) (seq : Int) :
    KeepsOthers (some peerId) store (store.setLastPushedSeq peerId seq) where
  book := rfl
  cursor := fun _ _ => rfl
  pushed := fun _ other => AList.lookup_insert_ne fun same => other (congrArg some same.symm)

theorem insertEntriesWithStats_keeps (peer : Option String) (store : LocalStore) (entries : List Entry)
    (faults : TxFaults) : KeepsOthers peer store (store.insertEntriesWithStats entries faults).2 := by
  constructor <;> simp [getLastCursorOpt, getLastPushedSeqOpt]

theorem PullOutside.step_keeps (peerId : String) (outside : PullOutside) (run : LocalStore × PullState) :
    KeepsOthers (some peerId) run.1 (outside.step peerId run).1 := by
  obtain ⟨store, state⟩ := run
  have move := @PullOutside.step_moves peerId outside store state
  generalize outside.step peerId (store, state) = out at move ⊢
  obtain ⟨after, next⟩ := out
  cases move with
  | retries | accepts | returns => exact .refl _ _
  | inserts | rejects => exact insertEntriesWithStats_keeps _ _ _ outside.faults
  | sets vars nextCursor => exact setLastCursor_keeps store peerId nextCursor

theorem PushOutside.step_keeps (peerId : String) (sourceDeviceId : Option String) {outside : PushOutside}
    (alone : outside.others = id) (run : LocalStore × PushState) :
    KeepsOthers (some peerId) run.1 (outside.step peerId sourceDeviceId run).1 := by
  obtain ⟨store, state⟩ := run
  have move := @PushOutside.step_moves peerId outside sourceDeviceId store state
  generalize outside.step peerId sourceDeviceId (store, state) = out at move ⊢
  obtain ⟨after, next⟩ := out
  have same : outside.others store = store := congrFun alone store
  have left : KeepsOthers (some peerId) store (outside.others store) := by
    rw [same]
    exact .refl _ store
  cases move with
  | reads | retries | accepts | returns => exact left
  | sets vars => exact left.trans (setLastPushedSeq_keeps _ peerId vars.cursor)

theorem pullRun_keeps {store : LocalStore} {peerId : String} {limit : UInt64} {lastCursor : Except Error Int}
    (outside : Nat → PullOutside) (n : Nat) :
    KeepsOthers (some peerId) store (pullRun peerId limit lastCursor outside store n).1 := by
  induction n with
  | zero => exact .refl _ store
  | succ n ih => exact ih.trans ((outside n).step_keeps peerId _)

theorem pushRun_keeps {store : LocalStore} {peerId : String} {limit : UInt64} {sourceDeviceId : Option String}
    {lastPushedSeq : Except Error Int} {outside : Nat → PushOutside} (alone : ∀ n, (outside n).others = id) (n : Nat) :
    KeepsOthers (some peerId) store (pushRun peerId limit sourceDeviceId lastPushedSeq outside store n).1 := by
  induction n with
  | zero => exact .refl _ store
  | succ n ih => exact ih.trans (PushOutside.step_keeps peerId sourceDeviceId (alone n) _)

theorem DeviceStep.keeps {deviceId : String} {store after : LocalStore} {action : DeviceAction}
    (step : DeviceStep deviceId store action after) : KeepsOthers action.peer store after := by
  cases step with
  | record e faults => exact insertEntriesWithStats_keeps none store [e] faults
  | pull peerId limit outside n => exact pullRun_keeps outside n
  | push _ _ _ _ n _ alone pushed =>
    have ended : after = _ := (congrArg Prod.fst pushed).symm
    rw [ended]
    exact pushRun_keeps alone n
  | prune cutoffUnix keepRecent dryRun => constructor <;> simp [getLastCursorOpt, getLastPushedSeqOpt]

/-- No peer that has been pushed to waits for an entry of the device. -/
def NothingPending (deviceId : String) (store : LocalStore) : Prop :=
  ∀ peerId seq, store.getLastPushedSeqOpt peerId = some seq →
    store.countPendingPushEntries peerId (some deviceId) = 0

section

variable {deviceId : String} {store : LocalStore} {cutoffUnix : Int} {row : IngestRow}

theorem nothingPending_iff : NothingPending deviceId store ↔
    ∀ pushed ∈ store.peerPushState.entries, store.countPendingPushEntries pushed.fst (some deviceId) = 0 := by
  constructor
  · intro nothing pushed listed
    exact nothing pushed.fst pushed.snd (AList.mem_lookup_iff.mpr listed)
  · intro nothing peerId seq cursor
    exact nothing ⟨peerId, seq⟩ (AList.mem_lookup_iff.mp cursor)

theorem NothingPending.below (nothing : NothingPending deviceId store) (member : row ∈ store.entries.rows)
    (own : row.val.deviceId = deviceId) {peerId : String} {seq : Int}
    (cursor : store.getLastPushedSeqOpt peerId = some seq) : row.seq ≤ seq := by
  by_contra above
  have none := nothing peerId seq cursor
  rw [countPendingPushEntries_device, List.length_eq_zero_iff, List.filter_eq_nil_iff] at none
  apply none row member
  have pushed : store.getLastPushedSeq peerId = seq := by
    rw [getLastPushedSeq, cursor]
    rfl
  rw [pushed]
  simp [ofDevice, own]
  omega

theorem above_floor_iff {seq : Int} :
    (∀ floor, store.prunePushedFloorSeq = some floor → seq ≤ floor) ↔
      ¬ ∃ peerId pushed, store.getLastPushedSeqOpt peerId = some pushed ∧ pushed < seq := by
  constructor
  · intro below ⟨peerId, pushed, cursor, above⟩
    obtain ⟨floor, found, least⟩ := pushedFloor_le cursor
    have most := below floor found
    omega
  · intro none floor found
    obtain ⟨peerId, cursor⟩ := pushedFloor_mem found
    by_contra above
    exact none ⟨peerId, floor, cursor, by omega⟩

theorem pruneSelects_old_iff {pushedFloor : Option Int} :
    pruneSelects cutoffUnix none pushedFloor row = true ↔
      row.val.ts < cutoffUnix ∧ ∀ floor, pushedFloor = some floor → row.seq ≤ floor := by
  unfold pruneSelects
  cases pushedFloor <;> simp

/-- Without a number of rows to keep, a prune leaves of the old rows those above some push cursor. -/
theorem mem_pruned_old_iff (store : LocalStore) (cutoffUnix : Int) (row : IngestRow) :
    (row ∈ (store.pruneEntriesOlderThan cutoffUnix 0 false).2.entries.rows ∧ row.val.ts < cutoffUnix) ↔
      row ∈ store.entries.rows ∧ row.val.ts < cutoffUnix ∧
        ∃ peerId seq, store.getLastPushedSeqOpt peerId = some seq ∧ seq < row.seq := by
  have none_kept : store.pruneKeepFloorSeq 0 = none := rfl
  rw [pruneEntriesOlderThan_rows, if_neg Bool.false_ne_true, List.mem_filter, and_assoc, none_kept,
    Bool.not_eq_true', ← Bool.not_eq_true, pruneSelects_old_iff, above_floor_iff]
  apply and_congr_right
  intro member
  constructor
  · intro ⟨kept, old⟩
    exact ⟨old, by_contra fun none => kept ⟨old, none⟩⟩
  · intro ⟨old, above⟩
    exact ⟨fun selected => selected.2 above, old⟩

end

/-- With nothing pending, a prune leaves exactly those old rows that are another device's and came after
    the push cursor of some peer. -/
theorem prune_leaves_only_foreign (store : LocalStore) (deviceId : String) (cutoffUnix : Int)
    (nothing : NothingPending deviceId store) (row : IngestRow) :
    (row ∈ (store.pruneEntriesOlderThan cutoffUnix 0 false).2.entries.rows ∧ row.val.ts < cutoffUnix) ↔
      row ∈ store.entries.rows ∧ row.val.ts < cutoffUnix ∧ row.val.deviceId ≠ deviceId ∧
        ∃ peerId seq, store.getLastPushedSeqOpt peerId = some seq ∧ seq < row.seq := by
  rw [mem_pruned_old_iff]
  constructor
  · intro ⟨member, old, peerId, seq, cursor, above⟩
    refine ⟨member, old, ?_, peerId, seq, cursor, above⟩
    intro own
    have below := nothing.below member own cursor
    omega
  · intro ⟨member, old, _, above⟩
    exact ⟨member, old, above⟩

theorem prune_leaves_only_foreign_echo :
    ∃ store : LocalStore, NothingPending "dev1" store ∧ store.getLastPushedSeqOpt "peer-a" = some 1 ∧
      ∀ row, (row ∈ (store.pruneEntriesOlderThan 100 0 false).2.entries.rows ∧ row.val.ts < 100) ↔
        row ∈ store.entries.rows ∧ row.val.ts < 100 ∧ row.val.deviceId ≠ "dev1" ∧
          ∃ peerId seq, store.getLastPushedSeqOpt peerId = some seq ∧ seq < row.seq := by
  let store := (opened.inserted [firstEcho]).setLastPushedSeq "peer-a" 1
  have nothing : NothingPending "dev1" store := nothingPending_iff.mpr (by decide)
  exact ⟨store, nothing, rfl, prune_leaves_only_foreign store "dev1" 100 nothing⟩

/-- The same command on another device. -/
def foreignEcho : Entry := { secondEcho with deviceId := "dev2" }

/-- A peer that has one entry of another device, and takes every upload. -/
def hasForeign : PullOutside where
  reply := ⟨.ok ⟨[foreignEcho], some 1⟩, fun _ _ answered found => by
    cases answered
    cases found
    decide⟩
  faults := noFaults
  cursorSet := .ok ()

def takesAll : PushOutside where
  others := id
  rowids := fun _ rowids => rowids
  read := .ok ()
  push := .ok ()
  seqSet := .ok ()

/-- An old entry of another device, pulled after the last upload, is there to stay. -/
theorem pulled_entry_is_not_pruned :
    ¬ ∀ (deviceId : String) (actions : List DeviceAction) (store : LocalStore) (cutoffUnix : Int),
      Run (DeviceStep deviceId) opened actions store → NothingPending deviceId store →
      ∀ row ∈ (store.pruneEntriesOlderThan cutoffUnix 0 false).2.entries.rows, ¬ row.val.ts < cutoffUnix := by
  intro effective
  have idle : Run (DeviceStep "dev1") opened [] opened := .nil _
  have recorded := idle.snoc (.record _ firstEcho noFaults rfl)
  have pushed := recorded.snoc (.push _ _ "peer-a" 1 (fun _ => takesAll) 4 _ (fun _ => rfl) rfl)
  have pulled := pushed.snoc (.pull _ "peer-b" 1 (fun _ => hasForeign) 3)
  have gone := effective "dev1" _ _ 100 pulled (nothingPending_iff.mpr (by decide))
  revert gone
  decide

end Rustory
