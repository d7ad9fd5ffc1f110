import Rustory.HistoryImport.Import

namespace Rustory

open Foundations LocalStore

def acceptedRecords (req : ImportRequest) : List HistoryRecord :=
  (consideredRecords req).filter fun record => !skipsRecord req.ignoreRegex record

theorem consideredRecords_sublist (req : ImportRequest) :
    (consideredRecords req).Sublist (parseHistory req.shell req.content) := by
  unfold consideredRecords
  dsimp only
  split
  · exact List.Sublist.refl _
  · split
    · exact List.drop_sublist _ _
    · exact List.Sublist.refl _

section

variable {uuidV5 : String → EntryId} {req : ImportRequest} {total index : Nat} {now : OffsetDateTime}
  {faults : Nat → TxFaults} {record : HistoryRecord} {entry : Entry} {start : LocalStore}
  {done : List HistoryRecord} {vars next : ImportVars}

/-! One record. -/

/-- What `import_into_store` puts into the entry of a record, up to its timestamp. -/
structure EntryOf (uuidV5 : String → EntryId) (req : ImportRequest) (record : HistoryRecord)
    (entry : Entry) : Prop where
  entryId : entry.entryId = recordId uuidV5 req record
  deviceId : entry.deviceId = req.deviceId
  userId : entry.userId = req.userId
  cmd : entry.cmd = trim record.cmd
  cwd : entry.cwd = "unknown"
  exitCode : entry.exitCode = 0
  durationMs : entry.durationMs = record.durationMs
  shell : entry.shell = req.shell.asStr
  hostname : entry.hostname = req.hostname
  version : entry.version = pkgVersion
  ts : ∀ tsUnix, record.tsUnix = some tsUnix → OffsetDateTime.fromUnixTimestamp tsUnix = some entry.ts

theorem importEntry_of (made : importEntry uuidV5 req total now index record = .ok entry) :
    EntryOf uuidV5 req record entry := by
  unfold importEntry at made
  split at made
  · cases made
  · rename_i tsUnix filled
    split at made
    · cases made
    · rename_i ts read
      cases made
      apply EntryOf.mk rfl rfl rfl rfl rfl rfl rfl rfl rfl rfl
      intro explicit given
      rw [given] at filled
      cases filled
      exact read

/-! How far the loop has come: `done` are the records it has been through. -/

structure ImportProgress (uuidV5 : String → EntryId) (req : ImportRequest) (start : LocalStore)
    (done : List HistoryRecord) (vars : ImportVars) : Prop where
  stored : ∃ stored, vars.made.map Prod.snd = stored ++ vars.buf ∧ vars.store = start.inserted stored ∧
    vars.stats.inserted = (start.insertedStats stored).inserted ∧
    vars.stats.inserted + vars.stats.ignored = stored.length
  accepted : vars.made.map Prod.fst = done.filter fun record => !skipsRecord req.ignoreRegex record
  entries : ∀ made ∈ vars.made, EntryOf uuidV5 req made.1 made.2
  received : vars.stats.received = done.length
  skipped : vars.stats.skipped = (done.filter (skipsRecord req.ignoreRegex)).length

theorem importProgress_start : ImportProgress uuidV5 req start [] ⟨start, ⟨0, 0, 0, 0⟩, [], 0, []⟩ where
  stored := ⟨[], rfl, rfl, rfl, rfl⟩
  accepted := rfl
  entries := fun _ listed => absurd listed List.not_mem_nil
  received := rfl
  skipped := rfl

theorem insertBuf_progress (progress : ImportProgress uuidV5 req start done vars)
    (inserted : insertBuf faults vars = .ok next) :
    ImportProgress uuidV5 req start done next ∧ next.buf = [] := by
  unfold insertBuf at inserted
  split at inserted
  · cases inserted
  · rename_i s store committed
    cases inserted
    obtain ⟨rfl, rfl⟩ := insertEntriesWithStats_ok committed
    obtain ⟨stored, entries, same, changed, total⟩ := progress.stored
    refine ⟨⟨⟨stored ++ vars.buf, ?_, ?_, ?_, ?_⟩, progress.accepted, progress.entries, progress.received,
      progress.skipped⟩, rfl⟩
    · rw [entries, List.append_nil]
    · rw [same, inserted_append]
    · rw [changed, same, insertedStats_append]
    · have batch := vars.store.insertedStats_total vars.buf
      rw [List.length_append]
      dsimp only
      omega

theorem importRecord_progress (progress : ImportProgress uuidV5 req start done vars)
    (imported : importRecord uuidV5 req total now faults index record vars = .ok next) :
    ImportProgress uuidV5 req start (done ++ [record]) next := by
  unfold importRecord at imported
  dsimp only at imported
  split at imported
  · rename_i skips
    cases imported
    exact {
      stored := progress.stored
      accepted := by simp [progress.accepted, skips]
      entries := progress.entries
      received := by simp [progress.received]
      skipped := by simp [progress.skipped, skips] }
  · rename_i accepts
    split at imported
    · cases imported
    · rename_i entry made
      have extended : ImportProgress uuidV5 req start (done ++ [record]) { vars with
          stats := { vars.stats with received := vars.stats.received + 1 }
          buf := vars.buf ++ [entry]
          made := vars.made ++ [(record, entry)] } := by
        obtain ⟨stored, entries, same⟩ := progress.stored
        exact {
          stored := ⟨stored, by simp [entries], same⟩
          accepted := by simp [progress.accepted, accepts]
          entries := by
            intro pair listed
            rcases List.mem_append.mp listed with earlier | last
            · exact progress.entries pair earlier
            · rw [List.mem_singleton.mp last]
              exact importEntry_of made
          received := by simp [progress.received]
          skipped := by simp [progress.skipped, accepts] }
      split at imported
      · exact (insertBuf_progress extended imported).1
      · cases imported
        exact extended

/-! What each call changes of the variables, and how it can fail. -/

theorem insertBuf_ok (inserted : insertBuf faults vars = .ok next) :
    next.made = vars.made ∧ next.buf = [] ∧ next.inserts = vars.inserts + 1 := by
  unfold insertBuf at inserted
  split at inserted
  · cases inserted
  · cases inserted
    exact ⟨rfl, rfl, rfl⟩

theorem insertBuf_error {err : Error} {after : LocalStore} (failed : insertBuf faults vars = .error (err, after)) :
    after = vars.store ∧ faults vars.inserts ≠ noFaults := by
  unfold insertBuf at failed
  split at failed
  · rename_i err' store rolledBack
    cases failed
    apply And.intro (insertEntriesWithStats_error rolledBack)
    intro none
    rw [none, insertEntriesWithStats_noFaults] at rolledBack
    cases rolledBack
  · cases failed

theorem importRecord_ok (imported : importRecord uuidV5 req total now faults index record vars = .ok next) :
    (skipsRecord req.ignoreRegex record = true ∧ next.made = vars.made ∧ next.buf = vars.buf ∧
        next.inserts = vars.inserts) ∨
      (skipsRecord req.ignoreRegex record = false ∧ ∃ entry,
        importEntry uuidV5 req total now index record = .ok entry ∧
          next.made = vars.made ++ [(record, entry)] ∧
          ((vars.buf.length + 1 < BATCH ∧ next.buf = vars.buf ++ [entry] ∧ next.inserts = vars.inserts) ∨
            (BATCH ≤ vars.buf.length + 1 ∧ next.buf = [] ∧ next.inserts = vars.inserts + 1))) := by
  unfold importRecord at imported
  dsimp only at imported
  split at imported
  · rename_i skips
    cases imported
    exact Or.inl ⟨skips, rfl, rfl, rfl⟩
  · rename_i accepts
    split at imported
    · cases imported
    · rename_i entry made
      apply Or.inr
      refine ⟨Bool.eq_false_of_not_eq_true accepts, entry, made, ?_⟩
      split at imported
      · rename_i full
        rw [List.length_append, List.length_singleton] at full
        obtain ⟨sameMade, emptied, counted⟩ := insertBuf_ok imported
        exact ⟨sameMade, Or.inr ⟨full, emptied, counted⟩⟩
      · rename_i room
        rw [List.length_append, List.length_singleton] at room
        cases imported
        exact ⟨rfl, Or.inl ⟨Nat.lt_of_not_le room, rfl, rfl⟩⟩

theorem importRecord_error {err : Error} {after : LocalStore}
    (failed : importRecord uuidV5 req total now faults index record vars = .error (err, after)) :
    after = vars.store ∧ skipsRecord req.ignoreRegex record = false ∧
      (importEntry uuidV5 req total now index record = .error err ∨ faults vars.inserts ≠ noFaults) := by
  unfold importRecord at failed
  dsimp only at failed
  split at failed
  · cases failed
  · rename_i accepts
    have accepted := Bool.eq_false_of_not_eq_true accepts
    split at failed
    · rename_i err' invalid
      cases failed
      exact ⟨rfl, accepted, Or.inl invalid⟩
    · split at failed
      · obtain ⟨rolledBack, faulty⟩ := insertBuf_error failed
        exact ⟨rolledBack, accepted, Or.inr faulty⟩
      · cases failed

theorem importRecords_progress {records : List HistoryRecord}
    (progress : ImportProgress uuidV5 req start done vars)
    (imported : importRecords uuidV5 req total now faults index records vars = .ok next) :
    ImportProgress uuidV5 req start (done ++ records) next := by
  induction records generalizing index done vars with
  | nil =>
    cases imported
    simpa using progress
  | cons record rest ih =>
    simp only [importRecords] at imported
    split at imported
    · cases imported
    · rename_i later first
      have step := ih (importRecord_progress progress first) imported
      rwa [List.append_assoc] at step

theorem importRun_progress (imported : importRun uuidV5 start req now faults = .ok next) :
    ImportProgress uuidV5 req start (consideredRecords req) next ∧ next.buf = [] := by
  unfold importRun at imported
  dsimp only at imported
  split at imported
  · cases imported
  · rename_i vars looped
    have progress : ImportProgress uuidV5 req start (consideredRecords req) vars :=
      importRecords_progress importProgress_start looped
    split at imported
    · rename_i none
      cases imported
      exact ⟨progress, List.isEmpty_iff.mp none⟩
    · exact insertBuf_progress progress imported

/-! A whole import. -/

/-- What a successful import did: the entries of its accepted records went into the store, in order. -/
structure Imported (uuidV5 : String → EntryId) (store : LocalStore) (req : ImportRequest)
    (made : List (HistoryRecord × Entry)) (stats : ImportStats) (after : LocalStore) : Prop where
  inserts : after = store.inserted (made.map Prod.snd)
  accepted : made.map Prod.fst = acceptedRecords req
  entries : ∀ pair ∈ made, EntryOf uuidV5 req pair.1 pair.2
  inserted : stats.inserted = (store.insertedStats (made.map Prod.snd)).inserted
  stored : stats.inserted + stats.ignored = made.length
  received : stats.received = (consideredRecords req).length
  skipped : stats.skipped = ((consideredRecords req).filter (skipsRecord req.ignoreRegex)).length

theorem importRun_imported (imported : importRun uuidV5 start req now faults = .ok vars) :
    Imported uuidV5 start req vars.made vars.stats vars.store := by
  obtain ⟨progress, emptied⟩ := importRun_progress imported
  obtain ⟨stored, entries, same, changed, total⟩ := progress.stored
  rw [emptied, List.append_nil] at entries
  subst entries
  rw [List.length_map] at total
  exact ⟨same, progress.accepted, progress.entries, changed, total, progress.received, progress.skipped⟩

theorem importIntoStore_imported {stats : ImportStats} {after : LocalStore}
    (imported : importIntoStore uuidV5 start req now faults = (.ok stats, after)) :
    ∃ made, Imported uuidV5 start req made stats after := by
  unfold importIntoStore at imported
  split at imported
  · cases imported
  · rename_i vars run
    cases imported
    exact ⟨vars.made, importRun_imported run⟩

/-- Every record considered is counted once. -/
theorem Imported.counted {made : List (HistoryRecord × Entry)} {stats : ImportStats} {after : LocalStore}
    (imported : Imported uuidV5 start req made stats after) :
    stats.received = stats.inserted + stats.ignored + stats.skipped := by
  have total := imported.stored
  have accepted := congrArg List.length imported.accepted
  rw [List.length_map, acceptedRecords] at accepted
  have both := List.length_eq_length_filter_add (l := consideredRecords req) (skipsRecord req.ignoreRegex)
  rw [imported.received, imported.skipped]
  omega

theorem Imported.ids {made : List (HistoryRecord × Entry)} {stats : ImportStats} {after : LocalStore}
    (imported : Imported uuidV5 start req made stats after) :
    (made.map Prod.snd).map Entry.entryId = (acceptedRecords req).map (recordId uuidV5 req) := by
  rw [← imported.accepted, List.map_map, List.map_map]
  apply List.map_congr_left
  intro pair listed
  exact (imported.entries pair listed).entryId

theorem Imported.holds {made : List (HistoryRecord × Entry)} {stats : ImportStats} {after : LocalStore}
    (imported : Imported uuidV5 start req made stats after) (id : EntryId) :
    after.Holds id ↔ start.Holds id ∨ id ∈ (acceptedRecords req).map (recordId uuidV5 req) := by
  rw [← imported.ids, imported.inserts, inserted_holds, List.mem_map]

end

end Rustory
