import Rustory.Core.Text
import Rustory.Sync.PushQueue

namespace Rustory

open Foundations LocalStore

/-- What a command reads of its process and its machine. -/
structure Process where
  env : String → Option String
  defaultCwd : String
  defaultShell : Option String
  nowUtc : OffsetDateTime
  newEntryId : EntryId
  regexIsMatch : String → String → Except String Bool

def envNonempty (env : String → Option String) (key : String) : Option String := normalizeOptString (env key)

structure FileConfig where
  userId : Option String
  deviceId : Option String
  recordIgnoreRegex : Option String

def resolveRecordIgnoreRegex (env : String → Option String) (cfg : FileConfig) : Option String :=
  (envNonempty env "RUSTORY_RECORD_IGNORE_REGEX").or (normalizeOptString cfg.recordIgnoreRegex)

def isSelfRrCommand (cmd : String) : Bool :=
  (cmd.toList.dropWhile isWhitespace).takeWhile (fun c => !isWhitespace c) == "rr".toList

def resolveDeviceId (env : String → Option String) (cfg : FileConfig) : String :=
  ((envNonempty env "RUSTORY_DEVICE_ID").or (normalizeOptString cfg.deviceId)).getD
    (((envNonempty env "HOSTNAME").or (envNonempty env "HOST")).getD "unknown")

/-! `Command::Record` -/

structure RecordArgs where
  cmd : String
  cwd : Option String
  exitCode : Int32
  durationMs : Int64
  shell : Option String
  hostname : Option String
  userId : Option String
  deviceId : Option String

def recordHostname (env : String → Option String) (hostname : Option String) : String :=
  ((normalizeOptString hostname).or (envNonempty env "HOSTNAME")).getD "unknown"

def recordUserId (env : String → Option String) (cfg : FileConfig) (userId : Option String) : String :=
  ((((normalizeOptString userId).or (envNonempty env "RUSTORY_USER_ID")).or
    (normalizeOptString cfg.userId)).or (envNonempty env "USER")).getD "unknown"

def recordDeviceId (env : String → Option String) (cfg : FileConfig) (deviceId hostname : Option String) :
    String :=
  (((normalizeOptString deviceId).or (envNonempty env "RUSTORY_DEVICE_ID")).or
    (normalizeOptString cfg.deviceId)).getD (recordHostname env hostname)

/-- A pattern that does not compile skips the record. -/
def recordSkips (process : Process) (cfg : FileConfig) (cmd : String) : Bool :=
  cmd.isEmpty || isSelfRrCommand cmd ||
    match resolveRecordIgnoreRegex process.env cfg with
    | none => false
    | some pattern =>
      match process.regexIsMatch pattern cmd with
      | .ok ignored => ignored
      | .error _ => true

def recordEntry (process : Process) (cfg : FileConfig) (args : RecordArgs) : Option Entry :=
  let cmd := trim args.cmd
  if recordSkips process cfg cmd then
    none
  else
    some (.new process.newEntryId {
      deviceId := recordDeviceId process.env cfg args.deviceId args.hostname
      userId := recordUserId process.env cfg args.userId
      ts := process.nowUtc
      cmd := cmd
      cwd := (normalizeOptString args.cwd).getD process.defaultCwd
      exitCode := args.exitCode
      durationMs := args.durationMs
      shell := ((normalizeOptString args.shell).or process.defaultShell).getD "unknown"
      hostname := recordHostname process.env args.hostname })

def record (process : Process) (cfg : FileConfig) (args : RecordArgs) (store : LocalStore)
    (faults : TxFaults := noFaults) : Except Error Unit × LocalStore :=
  match recordEntry process cfg args with
  | none => (.ok (), store)
  | some entry =>
    let (result, store) := store.insertEntriesWithStats [entry] faults
    (result.map fun _ => (), store)

/-! What this device records and what it uploads. -/

theorem recordEntry_deviceId {process : Process} {cfg : FileConfig} {args : RecordArgs} {e : Entry}
    (recorded : recordEntry process cfg args = some e) :
    e.deviceId = recordDeviceId process.env cfg args.deviceId args.hostname := by
  simp only [recordEntry] at recorded
  split at recorded
  · cases recorded
  · cases recorded
    rfl

/-- The device that a record without `--device-id` is stamped with is the one that pushes and
    pending counts select, and what is recorded above a push cursor is pushed. -/
structure UploadsWhatItRecords (env : String → Option String) (cfg : FileConfig)
    (hostname : Option String) : Prop where
  device : recordDeviceId env cfg none hostname = resolveDeviceId env cfg
  uploads : ∀ process args e, process.env = env → args.hostname = hostname → args.deviceId = none →
    recordEntry process cfg args = some e →
    ∀ (store : LocalStore) (peerId : String), ∀ row ∈ store.entries.rows, row.val = e.toRow →
    store.getLastPushedSeq peerId < row.seq →
    (row ∈ pendingRows store peerId (some (resolveDeviceId env cfg)) ∧
      store.countPendingPushEntries peerId (some (resolveDeviceId env cfg)) =
        (pendingRows store peerId (some (resolveDeviceId env cfg))).length) ∧
    ∀ (limit : UInt64) push, 1 ≤ limit →
      (∀ fuel total, (syncPushToPeer fuel store peerId limit (some (resolveDeviceId env cfg)) push).state =
          .returned (.ok total) →
        ∃ batch ∈ (syncPushToPeer fuel store peerId limit (some (resolveDeviceId env cfg)) push).handed,
          e.toRow ∈ rowsOf batch) ∧
      ((∀ batch, push batch = .ok ()) → (∀ row ∈ store.entries.rows, row.val.Readable) →
        ∃ fuel total, (syncPushToPeer fuel store peerId limit (some (resolveDeviceId env cfg)) push).state =
          .returned (.ok total))

/-- Without a device id in the environment or in the config file, the host names decide. -/
def HostnamesAgree (env : String → Option String) (hostname : Option String) : Prop :=
  match normalizeOptString hostname with
  | some name => name = ((envNonempty env "HOSTNAME").or (envNonempty env "HOST")).getD "unknown"
  | none => (envNonempty env "HOSTNAME").isSome ∨ (envNonempty env "HOST").getD "unknown" = "unknown"

theorem deviceIds_agree_iff (env : String → Option String) (cfg : FileConfig) (hostname : Option String) :
    recordDeviceId env cfg none hostname = resolveDeviceId env cfg ↔
      (envNonempty env "RUSTORY_DEVICE_ID").isSome ∨ (normalizeOptString cfg.deviceId).isSome ∨
        HostnamesAgree env hostname := by
  unfold recordDeviceId resolveDeviceId
  have none_given : normalizeOptString none = none := rfl
  rw [none_given, Option.none_or]
  cases envNonempty env "RUSTORY_DEVICE_ID" with
  | some id => simp
  | none =>
    cases normalizeOptString cfg.deviceId with
    | some id => simp
    | none =>
      simp only [Option.none_or, Option.getD_none, Option.isSome_none, Bool.false_eq_true, false_or,
        recordHostname, HostnamesAgree]
      cases normalizeOptString hostname with
      | some name => simp
      | none =>
        cases envNonempty env "HOSTNAME" with
        | some name => simp
        | none => simp [eq_comm]

/-- This device uploads what it records exactly when the two chains of fallbacks agree. -/
theorem uploads_what_it_records_iff (env : String → Option String) (cfg : FileConfig)
    (hostname : Option String) :
    UploadsWhatItRecords env cfg hostname ↔
      (envNonempty env "RUSTORY_DEVICE_ID").isSome ∨ (normalizeOptString cfg.deviceId).isSome ∨
        HostnamesAgree env hostname := by
  rw [← deviceIds_agree_iff]
  constructor
  · exact UploadsWhatItRecords.device
  · intro device
    apply UploadsWhatItRecords.mk device
    rintro process args e rfl rfl noDevice recorded store peerId row member same above
    have own : ofDevice (resolveDeviceId process.env cfg) row.val = true := by
      rw [same, ← device, ← noDevice, ← recordEntry_deviceId recorded]
      exact decide_eq_true rfl
    constructor
    · have pending : row ∈ pendingRows store peerId (some (resolveDeviceId process.env cfg)) :=
        NumberedTable.mem_after.mpr ⟨member, above, own⟩
      exact ⟨pending, countPendingPushEntries_eq store peerId _⟩
    · intro limit push positive
      constructor
      · intro fuel total ends
        rw [← same]
        exact push_session_hands positive ends member own above
      · intro accepts readable
        exact push_session_completes positive accepts readable

/-- `rr record --hostname laptop` where neither the environment nor the config names a device. -/
theorem recorded_not_uploaded :
    ¬ ∀ env cfg hostname, UploadsWhatItRecords env cfg hostname := by
  intro uploads
  have device := (uploads (fun _ => none) ⟨none, none, none⟩ (some "laptop")).device
  exact absurd device (by decide)

end Rustory
