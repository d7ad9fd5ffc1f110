import Mathlib.Data.List.AList
import Mathlib.Data.List.Sort
import Mathlib.Data.String.Basic
import Rustory.Core.Entry
import Rustory.Core.Error
import Rustory.Foundations.Cursor

namespace Rustory

open Foundations

structure EntryRow where
  entryId : EntryId
  deviceId : String
  userId : String
  ts : Int
  cmd : String
  cwd : String
  exitCode : Int32
  durationMs : Int64
  shell : String
  hostname : String
  version : String
  deriving DecidableEq

/-- Table `entries`: `ingest_seq` is the AUTOINCREMENT key, `entry_id` is UNIQUE. -/
abbrev EntriesTable := NumberedTable EntryRow.entryId

abbrev IngestRow := Numbered EntryRow

/-- A row of `peer_book` under its `peer_id`; `addrs_json` is kept as the list it encodes. -/
structure PeerBookRow where
  addrs : List String
  userId : Option String
  deviceId : Option String
  lastSeen : Int
  deriving DecidableEq

structure LocalStore where
  entries : EntriesTable
  peerState : AList (fun _ : String => Int)
  peerPushState : AList (fun _ : String => Int)
  peerBook : AList (fun _ : String => PeerBookRow)

namespace LocalStore

def opened : LocalStore := ⟨.empty, ∅, ∅, ∅⟩

instance : Inhabited LocalStore := ⟨opened⟩

def Holds (store : LocalStore) (id : EntryId) : Prop := store.entries.Holds id

instance (store : LocalStore) (id : EntryId) : Decidable (store.Holds id) :=
  inferInstanceAs (Decidable (store.entries.Holds id))

end LocalStore

structure PullBatch where
  entries : List Entry
  nextCursor : Option Int
  deriving DecidableEq

/-- `usize as i64` -/
def asI64 (n : UInt64) : Int := if n.toNat < 2 ^ 63 then n.toNat else n.toNat - 2 ^ 64

theorem limit_ne_zero {limit : UInt64} (positive : 1 ≤ limit) : limit ≠ 0 := by
  rintro rfl
  exact absurd positive (by decide)

theorem asI64_ne_zero {limit : UInt64} (positive : 1 ≤ limit) : asI64 limit ≠ 0 := by
  rw [UInt64.le_iff_toNat_le] at positive
  have bound := limit.toNat_lt
  have one : (1 : UInt64).toNat = 1 := rfl
  unfold asI64
  split <;> omega

/-! Reading and writing one row. -/

/-- The parameters `insert_entries_with_stats` binds. -/
def Entry.toRow (e : Entry) : EntryRow where
  entryId := e.entryId
  deviceId := e.deviceId
  userId := e.userId
  ts := e.ts.unixTimestamp
  cmd := e.cmd
  cwd := e.cwd
  exitCode := e.exitCode
  durationMs := e.durationMs
  shell := e.shell
  hostname := e.hostname
  version := e.version

def invalidTimestamp (column : Nat) (ts : Int) : Error :=
  [.message ("Conversion error from type Integer at index: " ++ toString column ++
      ", invalid unix timestamp: " ++ toString ts),
    .message ("invalid unix timestamp: " ++ toString ts)]

def rowToEntryWithOffset (row : EntryRow) (offset : Nat) : Except Error Entry :=
  match OffsetDateTime.fromUnixTimestamp row.ts with
  | none => .error (invalidTimestamp (offset + 3) row.ts)
  | some ts => .ok {
      entryId := row.entryId
      deviceId := row.deviceId
      userId := row.userId
      ts := ts
      cmd := row.cmd
      cwd := row.cwd
      exitCode := row.exitCode
      durationMs := row.durationMs
      shell := row.shell
      hostname := row.hostname
      version := row.version }

def rowToEntry (row : EntryRow) : Except Error Entry := rowToEntryWithOffset row 0

def EntryRow.Readable (row : EntryRow) : Prop :=
  minUnixTimestamp ≤ row.ts ∧ row.ts ≤ maxUnixTimestamp

instance (row : EntryRow) : Decidable row.Readable := inferInstanceAs (Decidable (_ ∧ _))

theorem toRow_of_rowToEntry {row : EntryRow} {offset : Nat} {e : Entry}
    (h : rowToEntryWithOffset row offset = .ok e) : e.toRow = row := by
  unfold rowToEntryWithOffset at h
  split at h
  · cases h
  · rename_i ts read
    cases h
    simp only [Entry.toRow, OffsetDateTime.unixTimestamp_of_fromUnixTimestamp read]

theorem rowToEntry_readable {row : EntryRow} {offset : Nat} :
    (∃ e, rowToEntryWithOffset row offset = .ok e) ↔ row.Readable := by
  unfold rowToEntryWithOffset EntryRow.Readable
  rw [← OffsetDateTime.fromUnixTimestamp_isSome]
  cases OffsetDateTime.fromUnixTimestamp row.ts <;> simp

namespace LocalStore

/-! Inserting: one transaction. SQLite reports an error at one of these points, if at all. -/

inductive TxPoint
  | begin
  | prepare
  | execute (index : Nat)
  | commit
  deriving DecidableEq

abbrev TxFaults := TxPoint → Option Error

def noFaults : TxFaults := fun _ => none

structure InsertStats where
  inserted : Nat
  ignored : Nat
  deriving DecidableEq, Repr

def failsAt (faults : TxFaults) (point : TxPoint) (context : String) : Except Error Unit :=
  match faults point with
  | some err => .error (err.context context)
  | none => .ok ()

/-- The loop over `entries`: the table inside the transaction and the rows changed so far. -/
def executeInserts (faults : TxFaults) : Nat → List Entry → EntriesTable × Nat →
    Except Error (EntriesTable × Nat)
  | _, [], tx => .ok tx
  | index, e :: rest, (table, inserted) =>
    match failsAt faults (.execute index) "insert entry" with
    | .error err => .error err
    | .ok () =>
      let (table, changed) := table.insertOrIgnore e.toRow
      executeInserts faults (index + 1) rest (table, inserted + changed)

def insertTx (faults : TxFaults) (table : EntriesTable) (entries : List Entry) :
    Except Error (EntriesTable × Nat) := do
  failsAt faults .begin "begin tx"
  failsAt faults .prepare "prepare insert"
  let tx ← executeInserts faults 0 entries (table, 0)
  failsAt faults .commit "commit tx"
  return tx

/-- On an error the transaction is dropped, which rolls it back. -/
def insertEntriesWithStats (store : LocalStore) (entries : List Entry)
    (faults : TxFaults := noFaults) : Except Error InsertStats × LocalStore :=
  if entries.isEmpty then
    (.ok ⟨0, 0⟩, store)
  else
    match insertTx faults store.entries entries with
    | .error err => (.error err, store)
    | .ok (table, inserted) =>
      (.ok ⟨inserted, entries.length - inserted⟩, { store with entries := table })

/-! Queries over `entries`. -/

/-- Collects the rows of a query in order; the first unreadable row ends it. -/
def collectBatch : List IngestRow → PullBatch → Except Error PullBatch
  | [], batch => .ok batch
  | row :: rest, batch =>
    match rowToEntryWithOffset row.val 1 with
    | .error err => .error err
    | .ok entry => collectBatch rest ⟨batch.entries ++ [entry], some row.seq⟩

def pullSinceCursor (store : LocalStore) (cursor : Int) (limit : UInt64) : Except Error PullBatch :=
  collectBatch (store.entries.page (fun _ => true) cursor (asI64 limit)) ⟨[], none⟩

def ofDevice (deviceId : String) (row : EntryRow) : Bool := decide (row.deviceId = deviceId)

def pullSinceCursorForDevice (store : LocalStore) (cursor : Int) (limit : UInt64)
    (deviceId : String) : Except Error PullBatch :=
  collectBatch (store.entries.page (ofDevice deviceId) cursor (asI64 limit)) ⟨[], none⟩

/-- `ORDER BY ts DESC, device_id ASC, entry_id ASC` -/
def recentFirst (a b : EntryRow) : Prop :=
  b.ts < a.ts ∨ (a.ts = b.ts ∧
    (a.deviceId < b.deviceId ∨ (a.deviceId = b.deviceId ∧ a.entryId ≤ b.entryId)))

instance : DecidableRel recentFirst := fun _ _ => inferInstanceAs (Decidable (_ ∨ _))

def recentRows (store : LocalStore) (limit : UInt64) : List EntryRow :=
  limitRows (asI64 limit) ((store.entries.rows.map Numbered.val).insertionSort recentFirst)

def listRecent (store : LocalStore) (limit : UInt64) : Except Error (List Entry) :=
  (store.recentRows limit).mapM rowToEntry

def latestIngestSeq (store : LocalStore) : Int := ((store.entries.rows.map Numbered.seq).max?).getD 0

def countEntriesAfterSeq (store : LocalStore) (seq : Int) (sourceDeviceId : Option String) : Nat :=
  match sourceDeviceId with
  | some deviceId => (store.entries.after (ofDevice deviceId) seq).length
  | none => (store.entries.after (fun _ => true) seq).length

/-! Peer tables. -/

def getLastCursorOpt (store : LocalStore) (peerId : String) : Option Int := store.peerState.lookup peerId
def getLastCursor (store : LocalStore) (peerId : String) : Int := (store.getLastCursorOpt peerId).getD 0

def setLastCursor (store : LocalStore) (peerId : String) (cursor : Int) : LocalStore :=
  { store with peerState := store.peerState.insert peerId cursor }

def getLastPushedSeqOpt (store : LocalStore) (peerId : String) : Option Int :=
  store.peerPushState.lookup peerId

def getLastPushedSeq (store : LocalStore) (peerId : String) : Int :=
  (store.getLastPushedSeqOpt peerId).getD 0

def setLastPushedSeq (store : LocalStore) (peerId : String) (seq : Int) : LocalStore :=
  { store with peerPushState := store.peerPushState.insert peerId seq }

def countPendingPushEntries (store : LocalStore) (peerId : String) (sourceDeviceId : Option String) :
    Nat :=
  store.countEntriesAfterSeq (store.getLastPushedSeq peerId) sourceDeviceId

structure PeerBookPeer where
  peerId : String
  addrs : List String
  userId : Option String
  deviceId : Option String
  lastSeenUnix : Int
  deriving DecidableEq

def upsertPeerBook (store : LocalStore) (peer : PeerBookPeer) : LocalStore :=
  let row : PeerBookRow := ⟨peer.addrs, peer.userId, peer.deviceId, peer.lastSeenUnix⟩
  { store with peerBook := store.peerBook.insert peer.peerId row }

structure PeerSyncStatus where
  peerId : String
  lastCursor : Int
  lastPushedSeq : Int
  deriving DecidableEq, Repr

def listPeerSyncStatus (store : LocalStore) : List PeerSyncStatus :=
  let ids := (store.peerState.keys ++ store.peerPushState.keys ++ store.peerBook.keys).dedup
  (ids.insertionSort (· ≤ ·)).map fun id => ⟨id, store.getLastCursor id, store.getLastPushedSeq id⟩

/-! Pruning, one definition for each SQL statement. -/

/-- `SELECT MIN(ingest_seq)` over the `keep_recent` rows of largest `ingest_seq`. -/
def pruneKeepFloorSeq (store : LocalStore) (keepRecent : UInt64) : Option Int :=
  if keepRecent = 0 then
    none
  else
    (limitRows (asI64 keepRecent) (store.entries.rows.map Numbered.seq).reverse).min?

def prunePushedFloorSeq (store : LocalStore) : Option Int :=
  (store.peerPushState.entries.map Sigma.snd).min?

/-- The `WHERE` clause of the `COUNT` and the `DELETE`, by the floors that were found. -/
def pruneSelects (cutoffUnix : Int) (keepFloorSeq pushedFloorSeq : Option Int) (row : IngestRow) : Bool :=
  match keepFloorSeq, pushedFloorSeq with
  | some keepFloor, some pushedFloor =>
    decide (row.val.ts < cutoffUnix) && decide (row.seq < keepFloor) && decide (row.seq ≤ pushedFloor)
  | some keepFloor, none => decide (row.val.ts < cutoffUnix) && decide (row.seq < keepFloor)
  | none, some pushedFloor => decide (row.val.ts < cutoffUnix) && decide (row.seq ≤ pushedFloor)
  | none, none => decide (row.val.ts < cutoffUnix)

def pruneCount (store : LocalStore) (selects : IngestRow → Bool) : Nat :=
  (store.entries.rows.filter selects).length

def pruneDelete (store : LocalStore) (selects : IngestRow → Bool) : LocalStore × Nat :=
  let (table, deleted) := store.entries.deleteWhere selects
  ({ store with entries := table }, deleted)

structure PruneStats where
  matched : Nat
  deleted : Nat
  deriving DecidableEq, Repr

def pruneEntriesOlderThan (store : LocalStore) (cutoffUnix : Int) (keepRecent : UInt64)
    (dryRun : Bool) : PruneStats × LocalStore :=
  let keepFloorSeq := store.pruneKeepFloorSeq keepRecent
  let pushedFloorSeq := store.prunePushedFloorSeq
  let selects := pruneSelects cutoffUnix keepFloorSeq pushedFloorSeq
  let matched := store.pruneCount selects
  if dryRun || matched = 0 then
    (⟨matched, 0⟩, store)
  else
    let (store, deleted) := store.pruneDelete selects
    (⟨matched, deleted⟩, store)

end LocalStore

end Rustory
