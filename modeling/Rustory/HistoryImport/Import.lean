import Rustory.Foundations.Fields
import Rustory.HistoryImport.Parse
import Rustory.Storage.Insert

namespace Rustory

open Foundations LocalStore

/-- `OffsetDateTime::checked_sub` for whole seconds. -/
def OffsetDateTime.checkedSub (ts : OffsetDateTime) (seconds : Nat) : Option OffsetDateTime :=
  if range : minUnixTimestamp ≤ ts.localSecond - seconds ∧ ts.localSecond - seconds ≤ maxUnixTimestamp then
    some { ts with localSecond := ts.localSecond - seconds, date := range }
  else
    none

/-- The name whose UUIDv5 identifies an imported record. -/
def importName (userId deviceId shell : String) (tsUnix : Int) (cmd : String) (sourceIndex : Nat) : String :=
  s!"rustory:import\x00{userId}\x00{deviceId}\x00{shell}\x00{tsUnix}\x00{sourceIndex}\x00{cmd}"

structure ImportStats where
  received : Nat
  inserted : Nat
  ignored : Nat
  skipped : Nat
  deriving DecidableEq, Repr

structure ImportRequest where
  shell : HistoryShell
  content : String
  limit : Option UInt64
  userId : String
  deviceId : String
  hostname : String
  ignoreRegex : Option (String → Bool)

/-- The last `n` commands, if so requested. -/
def consideredRecords (req : ImportRequest) : List HistoryRecord :=
  let records := parseHistory req.shell req.content
  match req.limit with
  | none => records
  | some n => if n.toNat < records.length then records.drop (records.length - n.toNat) else records

def skipsRecord (ignoreRegex : Option (String → Bool)) (record : HistoryRecord) : Bool :=
  let cmd := trim record.cmd
  cmd.isEmpty || splitWhitespaceNext cmd == some "rr" ||
    match ignoreRegex with
    | none => false
    | some isMatch => isMatch cmd

/-- The oldest record gets the earliest synthetic timestamp. A difference that is out of range
    panics, which is kept as an error here. -/
def filledTsUnix (total index : Nat) (original : Option Int) (now : OffsetDateTime) : Except Error Int :=
  match original with
  | some ts => .ok ts
  | none =>
    match now.checkedSub (total - 1 - index) with
    | some ts => .ok ts.unixTimestamp
    | none => .error (bail "resulting value is out of range")

def BATCH : Nat := 2000

/-- The variables of `import_into_store`, with the number of inserts made so far and the entry
    made of each accepted record. -/
structure ImportVars where
  store : LocalStore
  stats : ImportStats
  buf : List Entry
  inserts : Nat
  made : List (HistoryRecord × Entry)

section

variable (uuidV5 : String → EntryId)

def importEntryId (userId deviceId shell : String) (tsUnix : Int) (cmd : String) (sourceIndex : Nat) :
    EntryId :=
  uuidV5 (importName userId deviceId shell tsUnix cmd sourceIndex)

def recordId (req : ImportRequest) (record : HistoryRecord) : EntryId :=
  importEntryId uuidV5 req.userId req.deviceId req.shell.asStr (record.tsUnix.getD 0) (trim record.cmd)
    record.sourceIndex

def importEntry (req : ImportRequest) (total : Nat) (now : OffsetDateTime) (index : Nat)
    (record : HistoryRecord) : Except Error Entry :=
  match filledTsUnix total index record.tsUnix now with
  | .error err => .error err
  | .ok tsUnix =>
    match OffsetDateTime.fromUnixTimestamp tsUnix with
    | none => .error (bail ("invalid unix timestamp: " ++ toString tsUnix))
    | some ts =>
      .ok (.newWithId (recordId uuidV5 req record) {
        deviceId := req.deviceId
        userId := req.userId
        ts := ts
        cmd := trim record.cmd
        cwd := "unknown"
        exitCode := 0
        durationMs := record.durationMs
        shell := req.shell.asStr
        hostname := req.hostname })

/-- `insert_entries_with_stats(&buf)`, whose failure ends the import. -/
def insertBuf (faults : Nat → TxFaults) (vars : ImportVars) : Except (Error × LocalStore) ImportVars :=
  match vars.store.insertEntriesWithStats vars.buf (faults vars.inserts) with
  | (.error err, store) => .error (err, store)
  | (.ok s, store) =>
    .ok { vars with
      store := store
      stats := { vars.stats with
        inserted := vars.stats.inserted + s.inserted
        ignored := vars.stats.ignored + s.ignored }
      buf := []
      inserts := vars.inserts + 1 }

def importRecord (req : ImportRequest) (total : Nat) (now : OffsetDateTime) (faults : Nat → TxFaults)
    (index : Nat) (record : HistoryRecord) (vars : ImportVars) : Except (Error × LocalStore) ImportVars :=
  let vars := { vars with stats := { vars.stats with received := vars.stats.received + 1 } }
  if skipsRecord req.ignoreRegex record then
    .ok { vars with stats := { vars.stats with skipped := vars.stats.skipped + 1 } }
  else
    match importEntry uuidV5 req total now index record with
    | .error err => .error (err, vars.store)
    | .ok entry =>
      let vars := { vars with buf := vars.buf ++ [entry], made := vars.made ++ [(record, entry)] }
      if BATCH ≤ vars.buf.length then
        insertBuf faults vars
      else
        .ok vars

def importRecords (req : ImportRequest) (total : Nat) (now : OffsetDateTime) (faults : Nat → TxFaults) :
    Nat → List HistoryRecord → ImportVars → Except (Error × LocalStore) ImportVars
  | _, [], vars => .ok vars
  | index, record :: rest, vars =>
    match importRecord uuidV5 req total now faults index record vars with
    | .error failed => .error failed
    | .ok vars => importRecords req total now faults (index + 1) rest vars

def importRun (store : LocalStore) (req : ImportRequest) (now : OffsetDateTime) (faults : Nat → TxFaults) :
    Except (Error × LocalStore) ImportVars :=
  let records := consideredRecords req
  match importRecords uuidV5 req records.length now faults 0 records ⟨store, ⟨0, 0, 0, 0⟩, [], 0, []⟩ with
  | .error failed => .error failed
  | .ok vars => if vars.buf.isEmpty then .ok vars else insertBuf faults vars

/-- `import_into_store` at the time `now`. -/
def importIntoStore (store : LocalStore) (req : ImportRequest) (now : OffsetDateTime)
    (faults : Nat → TxFaults := fun _ => noFaults) : Except Error ImportStats × LocalStore :=
  match importRun uuidV5 store req now faults with
  | .error (err, store) => (.error err, store)
  | .ok vars => (.ok vars.stats, vars.store)

end

end Rustory
