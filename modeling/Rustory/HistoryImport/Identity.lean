import Rustory.HistoryImport.Stable

namespace Rustory

open Foundations LocalStore

/-! What an entry id of an import stands for. -/

def NulFree (text : String) : Prop := '\x00' ∉ text.toList

theorem importName_inj {userId userId' deviceId deviceId' shell shell' cmd cmd' : String}
    {tsUnix tsUnix' : Int} {index index' : Nat} (user : NulFree userId) (user' : NulFree userId')
    (device : NulFree deviceId) (device' : NulFree deviceId') (plain : NulFree shell)
    (plain' : NulFree shell')
    (same : importName userId deviceId shell tsUnix cmd index =
      importName userId' deviceId' shell' tsUnix' cmd' index') :
    userId = userId' ∧ deviceId = deviceId' ∧ shell = shell' ∧ tsUnix = tsUnix' ∧ cmd = cmd' := by
  have chars := congrArg String.toList same
  rw [importName_toList, importName_toList] at chars
  have free : ∀ {u d s : String} (ts : Int) (i : Nat), NulFree u → NulFree d → NulFree s →
      ∀ field ∈ ["rustory:import".toList, u.toList, d.toList, s.toList, (Int.repr ts).toList,
        (Nat.repr i).toList], '\x00' ∉ field := by
    intro u d s ts i user device shell field listed
    simp only [List.mem_cons, List.not_mem_nil, or_false] at listed
    rcases listed with rfl | rfl | rfl | rfl | rest
    · decide
    · exact user
    · exact device
    · exact shell
    · apply numbers_free ts i
      simpa using rest
  obtain ⟨fields, last⟩ := joinFields_inj (by rfl) (free tsUnix index user device plain)
    (free tsUnix' index' user' device' plain') chars
  simp only [List.cons.injEq, true_and, and_true] at fields
  obtain ⟨users, devices, shells, numbers, -⟩ := fields
  exact ⟨String.toList_inj.mp users, String.toList_inj.mp devices, String.toList_inj.mp shells,
    Int.repr_injective (String.toList_inj.mp numbers), String.toList_inj.mp last⟩

theorem asStr_nulFree (shell : HistoryShell) : NulFree shell.asStr := by
  unfold NulFree
  cases shell <;> decide

/-- Two entries of one id: everything but the origin of the copy (host, duration) and the timestamp. -/
structure SameCommand (a b : Entry) : Prop where
  entryId : a.entryId = b.entryId
  deviceId : a.deviceId = b.deviceId
  userId : a.userId = b.userId
  cmd : a.cmd = b.cmd
  cwd : a.cwd = b.cwd
  exitCode : a.exitCode = b.exitCode
  shell : a.shell = b.shell
  version : a.version = b.version

def echoHistoryOn (hostname : String) : ImportRequest := { echoHistory with hostname := hostname }

theorem importRun_makes {uuidV5 : String → EntryId} {store : LocalStore} {req : ImportRequest} {now : OffsetDateTime}
    {faults : Nat → TxFaults} {run : ImportVars} (ok : importRun uuidV5 store req now faults = .ok run)
    {record : HistoryRecord} (accepted : record ∈ acceptedRecords req) :
    ∃ entry, (record, entry) ∈ run.made ∧ EntryOf uuidV5 req record entry := by
  have imported := importRun_imported ok
  rw [← imported.accepted] at accepted
  obtain ⟨⟨record, entry⟩, listed, rfl⟩ := List.mem_map.mp accepted
  exact ⟨entry, listed, imported.entries _ listed⟩

theorem echoHistory_accepted : (⟨0, none, 0, "echo a"⟩ : HistoryRecord) ∈ acceptedRecords echoHistory := by decide

theorem equal_ids_same_command {uuidV5 : String → EntryId} (collisionFree : Function.Injective uuidV5)
    {store₁ store₂ : LocalStore} {req₁ req₂ : ImportRequest} {now₁ now₂ : OffsetDateTime}
    {faults₁ faults₂ : Nat → TxFaults} {run₁ run₂ : ImportVars}
    (user₁ : NulFree req₁.userId) (device₁ : NulFree req₁.deviceId)
    (user₂ : NulFree req₂.userId) (device₂ : NulFree req₂.deviceId)
    (ok₁ : importRun uuidV5 store₁ req₁ now₁ faults₁ = .ok run₁)
    (ok₂ : importRun uuidV5 store₂ req₂ now₂ faults₂ = .ok run₂)
    {record₁ record₂ : HistoryRecord} {entry₁ entry₂ : Entry}
    (made₁ : (record₁, entry₁) ∈ run₁.made) (made₂ : (record₂, entry₂) ∈ run₂.made)
    (same : entry₁.entryId = entry₂.entryId) :
    SameCommand entry₁ entry₂ ∧
      (record₁.tsUnix.isSome → record₂.tsUnix.isSome → entry₁.ts = entry₂.ts) := by
  have of₁ : EntryOf uuidV5 req₁ record₁ entry₁ := (importRun_imported ok₁).entries _ made₁
  have of₂ : EntryOf uuidV5 req₂ record₂ entry₂ := (importRun_imported ok₂).entries _ made₂
  have ids : recordId uuidV5 req₁ record₁ = recordId uuidV5 req₂ record₂ := by
    rw [← of₁.entryId, ← of₂.entryId, same]
  obtain ⟨users, devices, shells, numbers, cmds⟩ := importName_inj user₁ user₂ device₁ device₂
    (asStr_nulFree req₁.shell) (asStr_nulFree req₂.shell) (collisionFree ids)
  constructor
  · exact {
      entryId := same
      deviceId := by rw [of₁.deviceId, of₂.deviceId, devices]
      userId := by rw [of₁.userId, of₂.userId, users]
      cmd := by rw [of₁.cmd, of₂.cmd, cmds]
      cwd := by rw [of₁.cwd, of₂.cwd]
      exitCode := by rw [of₁.exitCode, of₂.exitCode]
      shell := by rw [of₁.shell, of₂.shell, shells]
      version := by rw [of₁.version, of₂.version] }
  · intro explicit₁ explicit₂
    obtain ⟨ts₁, given₁⟩ := Option.isSome_iff_exists.mp explicit₁
    obtain ⟨ts₂, given₂⟩ := Option.isSome_iff_exists.mp explicit₂
    rw [given₁, given₂] at numbers
    obtain rfl : ts₁ = ts₂ := numbers
    exact Option.some.inj ((of₁.ts ts₁ given₁).symm.trans (of₂.ts ts₁ given₂))

theorem equal_ids_same_command_echo :
    ∃ run₁ run₂ entry₁ entry₂,
      importRun echoUuidV5 opened (echoHistoryOn "laptop") (.atSecond 5) (fun _ => noFaults) = .ok run₁ ∧
      importRun echoUuidV5 opened (echoHistoryOn "desktop") (.atSecond 5) (fun _ => noFaults) = .ok run₂ ∧
      (⟨0, none, 0, "echo a"⟩, entry₁) ∈ run₁.made ∧ (⟨0, none, 0, "echo a"⟩, entry₂) ∈ run₂.made ∧
      SameCommand entry₁ entry₂ := by
  obtain ⟨run₁, ok₁⟩ := @exists_of_isOk _ _ (importRun echoUuidV5 opened (echoHistoryOn "laptop")
    (.atSecond 5) fun _ => noFaults) (by decide)
  obtain ⟨run₂, ok₂⟩ := @exists_of_isOk _ _ (importRun echoUuidV5 opened (echoHistoryOn "desktop")
    (.atSecond 5) fun _ => noFaults) (by decide)
  obtain ⟨entry₁, made₁, of₁⟩ := importRun_makes ok₁ echoHistory_accepted
  obtain ⟨entry₂, made₂, of₂⟩ := importRun_makes ok₂ echoHistory_accepted
  have user : NulFree "u1" := by unfold NulFree; decide
  have device : NulFree "d1" := by unfold NulFree; decide
  have same := equal_ids_same_command echoUuidV5_injective user device user device ok₁ ok₂ made₁ made₂
    (of₁.entryId.trans of₂.entryId.symm)
  exact ⟨run₁, run₂, entry₁, entry₂, ok₁, ok₂, made₁, made₂, same.1⟩

/-- The same history file, imported on two hosts. -/
theorem equal_ids_other_host :
    ¬ ∀ uuidV5 : String → EntryId, Function.Injective uuidV5 →
      ∀ (store₁ store₂ : LocalStore) (req₁ req₂ : ImportRequest) (now₁ now₂ : OffsetDateTime)
        (faults₁ faults₂ : Nat → TxFaults) (run₁ run₂ : ImportVars),
      importRun uuidV5 store₁ req₁ now₁ faults₁ = .ok run₁ →
      importRun uuidV5 store₂ req₂ now₂ faults₂ = .ok run₂ →
      ∀ made₁ ∈ run₁.made, ∀ made₂ ∈ run₂.made, made₁.2.entryId = made₂.2.entryId → made₁.2 = made₂.2 := by
  intro agree
  obtain ⟨run₁, ok₁⟩ := @exists_of_isOk _ _ (importRun echoUuidV5 opened (echoHistoryOn "laptop")
    (.atSecond 5) fun _ => noFaults) (by decide)
  obtain ⟨run₂, ok₂⟩ := @exists_of_isOk _ _ (importRun echoUuidV5 opened (echoHistoryOn "desktop")
    (.atSecond 5) fun _ => noFaults) (by decide)
  obtain ⟨entry₁, made₁, of₁⟩ := importRun_makes ok₁ echoHistory_accepted
  obtain ⟨entry₂, made₂, of₂⟩ := importRun_makes ok₂ echoHistory_accepted
  have equal := agree echoUuidV5 echoUuidV5_injective _ _ _ _ _ _ _ _ _ _ ok₁ ok₂ _ made₁ _ made₂
    (of₁.entryId.trans of₂.entryId.symm)
  have hosts := congrArg Entry.hostname equal
  rw [of₁.hostname, of₂.hostname] at hosts
  exact absurd hosts (by decide)

/-- A NUL in the ids of a user or a device moves the border between the two. -/
theorem equal_ids_other_device :
    ¬ ∀ uuidV5 : String → EntryId, Function.Injective uuidV5 →
      ∀ (store₁ store₂ : LocalStore) (req₁ req₂ : ImportRequest) (now₁ now₂ : OffsetDateTime)
        (faults₁ faults₂ : Nat → TxFaults) (run₁ run₂ : ImportVars),
      importRun uuidV5 store₁ req₁ now₁ faults₁ = .ok run₁ →
      importRun uuidV5 store₂ req₂ now₂ faults₂ = .ok run₂ →
      ∀ made₁ ∈ run₁.made, ∀ made₂ ∈ run₂.made, made₁.2.entryId = made₂.2.entryId → SameCommand made₁.2 made₂.2 := by
  intro agree
  let longUser : ImportRequest := { echoHistory with userId := "u1\x00d1", deviceId := "d2" }
  let longDevice : ImportRequest := { echoHistory with userId := "u1", deviceId := "d1\x00d2" }
  obtain ⟨run₁, ok₁⟩ := @exists_of_isOk _ _ (importRun echoUuidV5 opened longUser (.atSecond 5) fun _ => noFaults)
    (by decide)
  obtain ⟨run₂, ok₂⟩ := @exists_of_isOk _ _ (importRun echoUuidV5 opened longDevice (.atSecond 5) fun _ => noFaults)
    (by decide)
  obtain ⟨entry₁, made₁, of₁⟩ := importRun_makes ok₁ echoHistory_accepted
  obtain ⟨entry₂, made₂, of₂⟩ := importRun_makes ok₂ echoHistory_accepted
  have ids : recordId echoUuidV5 longUser ⟨0, none, 0, "echo a"⟩ =
      recordId echoUuidV5 longDevice ⟨0, none, 0, "echo a"⟩ := by decide
  have same := agree echoUuidV5 echoUuidV5_injective _ _ _ _ _ _ _ _ _ _ ok₁ ok₂ _ made₁ _ made₂
    (of₁.entryId.trans (ids.trans of₂.entryId.symm))
  have devices := same.deviceId
  rw [of₁.deviceId, of₂.deviceId] at devices
  exact absurd devices (by decide)

end Rustory
