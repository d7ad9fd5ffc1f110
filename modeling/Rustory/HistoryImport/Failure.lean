import Mathlib.Data.List.Forall2
import Rustory.HistoryImport.Progress

namespace Rustory

open Foundations LocalStore

section

variable {uuidV5 : String → EntryId} {req : ImportRequest} {total index : Nat} {now : OffsetDateTime}
  {faults : Nat → TxFaults} {record : HistoryRecord} {start : LocalStore}
  {done records : List HistoryRecord} {vars next : ImportVars}

/-! The loop stores whole batches. -/

/-- Every insert so far was of one full batch, and the buffer is not full. -/
structure BatchProgress (uuidV5 : String → EntryId) (req : ImportRequest) (start : LocalStore)
    (done : List HistoryRecord) (vars : ImportVars) : Prop
    extends ImportProgress uuidV5 req start done vars where
  batches : vars.made.length = BATCH * vars.inserts + vars.buf.length
  room : vars.buf.length < BATCH

theorem batchProgress_start : BatchProgress uuidV5 req start [] ⟨start, ⟨0, 0, 0, 0⟩, [], 0, []⟩ where
  toImportProgress := importProgress_start
  batches := rfl
  room := Nat.zero_lt_succ _

theorem importRecord_batches (progress : BatchProgress uuidV5 req start done vars)
    (imported : importRecord uuidV5 req total now faults index record vars = .ok next) :
    BatchProgress uuidV5 req start (done ++ [record]) next := by
  have batches := progress.batches
  have room := progress.room
  apply BatchProgress.mk (importRecord_progress progress.toImportProgress imported)
  all_goals
    rcases importRecord_ok imported with ⟨-, made, buf, inserts⟩ |
      ⟨-, entry, -, made, ⟨small, buf, inserts⟩ | ⟨large, buf, inserts⟩⟩
    all_goals
      simp only [made, buf, inserts, List.length_append, List.length_singleton, List.length_nil]
      unfold BATCH at *
      omega

theorem importRecords_batches (progress : BatchProgress uuidV5 req start done vars)
    (imported : importRecords uuidV5 req total now faults index records vars = .ok next) :
    BatchProgress uuidV5 req start (done ++ records) next := by
  induction records generalizing index done vars with
  | nil =>
    cases imported
    simpa using progress
  | cons record rest ih =>
    simp only [importRecords] at imported
    split at imported
    · cases imported
    · rename_i later first
      have step := ih (importRecord_batches progress first) imported
      rwa [List.append_assoc] at step

/-- Where a failing loop stopped: the store is the one before the record at which it failed. -/
theorem importRecords_error {err : Error} {after : LocalStore}
    (progress : BatchProgress uuidV5 req start done vars)
    (failed : importRecords uuidV5 req total now faults index records vars = .error (err, after)) :
    ∃ before record rest vars', records = before ++ record :: rest ∧
      BatchProgress uuidV5 req start (done ++ before) vars' ∧ after = vars'.store ∧
      skipsRecord req.ignoreRegex record = false ∧
      (importEntry uuidV5 req total now (index + before.length) record = .error err ∨
        faults vars'.inserts ≠ noFaults) := by
  induction records generalizing index done vars with
  | nil => cases failed
  | cons record rest ih =>
    simp only [importRecords] at failed
    split at failed
    · rename_i stopped here
      cases failed
      obtain ⟨rolledBack, accepted, why⟩ := importRecord_error here
      exact ⟨[], record, rest, vars, rfl, by simpa using progress, rolledBack, accepted, why⟩
    · rename_i later first
      obtain ⟨before, bad, after', vars', split, reached, rolledBack, accepted, why⟩ :=
        ih (importRecord_batches progress first) failed
      refine ⟨record :: before, bad, after', vars', by rw [split, List.cons_append], ?_, rolledBack, accepted, ?_⟩
      · simpa using reached
      · rw [List.length_cons, Nat.add_comm before.length, ← Nat.add_assoc]
        exact why

/-! What the store holds then. -/

theorem BatchProgress.inserts (progress : BatchProgress uuidV5 req start done vars) :
    vars.inserts = (done.filter fun record => !skipsRecord req.ignoreRegex record).length / BATCH := by
  have made := congrArg List.length progress.accepted
  rw [List.length_map] at made
  have batches := progress.batches
  have room := progress.room
  unfold BATCH at *
  omega

/-- The store holds what it held, and the entries of the first `count` batches of accepted records. -/
structure HoldsBatches (uuidV5 : String → EntryId) (store : LocalStore) (req : ImportRequest) (count : Nat)
    (after : LocalStore) : Prop where
  full : BATCH * count ≤ (acceptedRecords req).length
  stored : ∃ made, List.Forall₂ (EntryOf uuidV5 req) ((acceptedRecords req).take (BATCH * count)) made ∧
    after = store.inserted made

theorem BatchProgress.holds (progress : BatchProgress uuidV5 req start done vars)
    (before : done <+: consideredRecords req) : HoldsBatches uuidV5 start req vars.inserts vars.store := by
  obtain ⟨stored, entries, same, -⟩ := progress.stored
  have pairs : List.Forall₂ (EntryOf uuidV5 req) (vars.made.map Prod.fst) (vars.made.map Prod.snd) := by
    rw [List.forall₂_map_left_iff, List.forall₂_map_right_iff, List.forall₂_same]
    exact progress.entries
  have accepted : vars.made.map Prod.fst <+: acceptedRecords req := by
    rw [progress.accepted]
    exact before.filter _
  have size : stored.length = BATCH * vars.inserts := by
    have lengths := congrArg List.length entries
    rw [List.length_map, List.length_append, progress.batches] at lengths
    omega
  have enough : BATCH * vars.inserts ≤ (vars.made.map Prod.fst).length := by
    rw [List.length_map, progress.batches]
    omega
  have batches : (acceptedRecords req).take (BATCH * vars.inserts) =
      (vars.made.map Prod.fst).take (BATCH * vars.inserts) := by
    obtain ⟨rest, split⟩ := accepted
    rw [← split, List.take_append_of_le_length enough]
  apply HoldsBatches.mk (enough.trans accepted.length_le)
  refine ⟨stored, ?_, same⟩
  have front := List.forall₂_take (BATCH * vars.inserts) pairs
  rw [entries, List.take_append_of_le_length size.ge, List.take_of_length_le size.le] at front
  rw [batches]
  exact front

end

/-- What a failed import leaves: whole batches, and nothing when there is none. -/
structure FailedImport (uuidV5 : String → EntryId) (store : LocalStore) (req : ImportRequest)
    (now : OffsetDateTime) (faults : Nat → TxFaults) (err : Error) (after : LocalStore) (count : Nat) :
    Prop where
  holds : HoldsBatches uuidV5 store req count after
  few : (acceptedRecords req).length < BATCH → after = store
  stopped : faults count ≠ noFaults ∨
    ∃ done record rest, consideredRecords req = done ++ record :: rest ∧
      skipsRecord req.ignoreRegex record = false ∧
      importEntry uuidV5 req (consideredRecords req).length now done.length record = .error err ∧
      count = (done.filter fun record => !skipsRecord req.ignoreRegex record).length / BATCH

section

variable {uuidV5 : String → EntryId} {store after : LocalStore} {req : ImportRequest} {now : OffsetDateTime}
  {faults : Nat → TxFaults} {err : Error}

theorem HoldsBatches.none {count : Nat} (holds : HoldsBatches uuidV5 store req count after)
    (few : (acceptedRecords req).length < BATCH) : after = store := by
  obtain ⟨full, made, entries, rfl⟩ := holds
  have zero : count = 0 := by
    unfold BATCH at *
    omega
  rw [zero, Nat.mul_zero, List.take_zero, List.forall₂_nil_left_iff] at entries
  rw [entries]
  rfl

theorem importIntoStore_error (failed : importIntoStore uuidV5 store req now faults = (.error err, after)) :
    ∃ count, FailedImport uuidV5 store req now faults err after count := by
  unfold importIntoStore importRun at failed
  dsimp only at failed
  cases looped : importRecords uuidV5 req (consideredRecords req).length now faults 0 (consideredRecords req)
      ⟨store, ⟨0, 0, 0, 0⟩, [], 0, []⟩ with
  | error stopped =>
    rw [looped] at failed
    obtain ⟨err', store'⟩ := stopped
    cases failed
    obtain ⟨before, record, rest, vars, split, progress, rolledBack, accepted, why⟩ :=
      importRecords_error batchProgress_start looped
    rw [List.nil_append] at progress
    rw [Nat.zero_add] at why
    have holds := progress.holds ⟨record :: rest, split.symm⟩
    rw [← rolledBack] at holds
    refine ⟨vars.inserts, holds, holds.none, ?_⟩
    rcases why with invalid | faulty
    · exact Or.inr ⟨before, record, rest, split, accepted, invalid, progress.inserts⟩
    · exact Or.inl faulty
  | ok vars =>
    rw [looped] at failed
    have progress := importRecords_batches batchProgress_start looped
    have holds := progress.holds List.prefix_rfl
    dsimp only at failed
    split at failed
    · rename_i err' left last
      cases failed
      split at last
      · cases last
      · obtain ⟨rolledBack, faulty⟩ := insertBuf_error last
        rw [← rolledBack] at holds
        exact ⟨vars.inserts, holds, holds.none, Or.inl faulty⟩
    · cases failed

end

/-- A failed import leaves the store with the batches that were complete before the error, and with
    nothing else of the file. -/
theorem failed_import_leaves_batches {uuidV5 : String → EntryId} {store after : LocalStore}
    {req : ImportRequest} {now : OffsetDateTime} {faults : Nat → TxFaults} {err : Error}
    (failed : importIntoStore uuidV5 store req now faults = (.error err, after)) :
    ∃ count, FailedImport uuidV5 store req now faults err after count := importIntoStore_error failed

/-! A bash history whose last command was run far in the future. -/

def lsLines : Nat → String
  | 0 => "#99999999999999\nls\n"
  | n + 1 => "#1700000000\nls\n" ++ lsLines n

def lsHistory (n : Nat) : ImportRequest where
  shell := .bash
  content := lsLines n
  limit := none
  userId := "u1"
  deviceId := "d1"
  hostname := "host"
  ignoreRegex := none

theorem bashRecords_lsLines (n : Nat) (nextTs : Option Int) (cmdIndex : Nat) :
    bashRecords nextTs cmdIndex (lines (lsLines n)) =
      ((List.range' cmdIndex n).map fun index => ⟨index, some 1700000000, 0, "ls"⟩) ++
        [⟨cmdIndex + n, some 99999999999999, 0, "ls"⟩] := by
  induction n generalizing nextTs cmdIndex with
  | zero => rfl
  | succ n ih =>
    have first : lines (lsLines (n + 1)) = ["#1700000000", "ls"] ++ lines (lsLines n) := by
      rw [lsLines, lines_append (by decide)]
      rfl
    have read : bashRecords nextTs cmdIndex (["#1700000000", "ls"] ++ lines (lsLines n)) =
        ⟨cmdIndex, some 1700000000, 0, "ls"⟩ :: bashRecords none (cmdIndex + 1) (lines (lsLines n)) := rfl
    rw [first, read, ih, List.range'_succ, List.map_cons, List.cons_append, Nat.add_right_comm,
      Nat.add_assoc]

section

variable {uuidV5 : String → EntryId} {req : ImportRequest} {total index : Nat} {now : OffsetDateTime}

theorem consideredRecords_lsHistory (n : Nat) :
    consideredRecords (lsHistory n) =
      ((List.range' 0 n).map fun index => ⟨index, some 1700000000, 0, "ls"⟩) ++
        [⟨n, some 99999999999999, 0, "ls"⟩] := by
  have read := bashRecords_lsLines n none 0
  rw [Nat.zero_add] at read
  exact read

theorem acceptedRecords_lsHistory (n : Nat) : acceptedRecords (lsHistory n) = consideredRecords (lsHistory n) := by
  have plain : skipsRecord none ⟨0, none, 0, "ls"⟩ = false := by decide
  apply List.filter_eq_self.mpr
  intro record listed
  rw [consideredRecords_lsHistory, List.mem_append, List.mem_map, List.mem_singleton] at listed
  rcases listed with ⟨index, -, rfl⟩ | rfl
  · exact congrArg not plain
  · exact congrArg not plain

theorem importEntry_present (sourceIndex : Nat) :
    ∃ entry, importEntry uuidV5 req total now index ⟨sourceIndex, some 1700000000, 0, "ls"⟩ = .ok entry :=
  ⟨_, rfl⟩

theorem lsHistory_fails (n : Nat) :
    ∃ err after, importIntoStore uuidV5 opened (lsHistory n) now (fun _ => noFaults) = (.error err, after) := by
  cases returned : importIntoStore uuidV5 opened (lsHistory n) now (fun _ => noFaults) with
  | mk result after =>
    cases result with
    | error err => exact ⟨err, after, rfl⟩
    | ok stats =>
      obtain ⟨made, imported⟩ := importIntoStore_imported returned
      have last : (⟨n, some 99999999999999, 0, "ls"⟩ : HistoryRecord) ∈ acceptedRecords (lsHistory n) := by
        rw [acceptedRecords_lsHistory, consideredRecords_lsHistory]
        exact List.mem_append_right _ (List.mem_singleton.mpr rfl)
      rw [← imported.accepted] at last
      obtain ⟨⟨record, entry⟩, listed, rfl⟩ := List.mem_map.mp last
      have unrepresentable : OffsetDateTime.fromUnixTimestamp 99999999999999 = none := by decide
      cases unrepresentable.symm.trans ((imported.entries _ listed).ts _ rfl)

/-- The first `n` records of `lsHistory n` are not the ones at which an import stops. -/
theorem lsHistory_stops {n : Nat} {done rest : List HistoryRecord} {record : HistoryRecord} {err : Error}
    (split : consideredRecords (lsHistory n) = done ++ record :: rest)
    (invalid : importEntry uuidV5 req total now index record = .error err) : done.length = n := by
  have last : done.length ≤ n := by
    have lengths := congrArg List.length split
    simp only [consideredRecords_lsHistory, List.length_append, List.length_map, List.length_range',
      List.length_cons, List.length_nil] at lengths
    omega
  refine Nat.le_antisymm last ?_
  by_contra early
  rw [consideredRecords_lsHistory] at split
  have place := congrArg (fun records => records[done.length]?) split
  have short : done.length < ((List.range' 0 n).map fun index =>
      (⟨index, some 1700000000, 0, "ls"⟩ : HistoryRecord)).length := by
    rw [List.length_map, List.length_range']
    omega
  rw [List.getElem?_append_left short, List.getElem?_append_right (Nat.le_refl _), Nat.sub_self,
    List.getElem?_map, List.getElem?_cons_zero] at place
  obtain ⟨sourceIndex, -, rfl⟩ := Option.map_eq_some_iff.mp place
  obtain ⟨entry, made⟩ := @importEntry_present uuidV5 req total index now sourceIndex
  cases made.symm.trans invalid

theorem lsHistory_count {n count : Nat} {err : Error} {after : LocalStore}
    (left : FailedImport uuidV5 opened (lsHistory n) now (fun _ => noFaults) err after count) :
    count = n / BATCH := by
  rcases left.stopped with faulty | ⟨done, record, rest, split, -, invalid, batches⟩
  · exact absurd rfl faulty
  · have accepts : (done.filter fun record => !skipsRecord (lsHistory n).ignoreRegex record) = done := by
      apply List.filter_eq_self.mpr
      intro record listed
      exact List.filter_eq_self.mp (acceptedRecords_lsHistory n) record (split ▸ List.mem_append_left _ listed)
    rw [batches, accepts, lsHistory_stops split invalid]

end

/-- Whatever ids the records get, the first batch of them is what an import of `BATCH` commands and a bad one
    leaves. -/
theorem failed_import_leaves_batches_ls :
    (acceptedRecords (lsHistory BATCH)).length = BATCH + 1 ∧ ∀ uuidV5 : String → EntryId, ∃ err after,
      importIntoStore uuidV5 opened (lsHistory BATCH) (.atSecond 5) (fun _ => noFaults) = (.error err, after) ∧
      FailedImport uuidV5 opened (lsHistory BATCH) (.atSecond 5) (fun _ => noFaults) err after 1 := by
  constructor
  · simp [acceptedRecords_lsHistory, consideredRecords_lsHistory]
  · intro uuidV5
    obtain ⟨err, after, failed⟩ := @lsHistory_fails uuidV5 (.atSecond 5) BATCH
    obtain ⟨count, left⟩ := failed_import_leaves_batches failed
    have one : count = 1 := lsHistory_count left
    exact ⟨err, after, failed, one ▸ left⟩

/-- Two thousand commands are in the store when the record after them ends the import. -/
theorem failed_import_keeps_first_batch :
    ¬ ∃ uuidV5 : String → EntryId, ∀ (store : LocalStore) (req : ImportRequest) (now : OffsetDateTime)
      (faults : Nat → TxFaults) (err : Error) (after : LocalStore),
      importIntoStore uuidV5 store req now faults = (.error err, after) → after = store := by
  intro untouched
  obtain ⟨uuidV5, untouched⟩ := untouched
  obtain ⟨err, after, failed⟩ := @lsHistory_fails uuidV5 (.atSecond 5) BATCH
  obtain ⟨count, left⟩ := importIntoStore_error failed
  have one : count = 1 := lsHistory_count left
  obtain ⟨full, made, entries, stored⟩ := left.holds
  have same := untouched _ _ _ _ _ _ failed
  have some_made : made ≠ [] := by
    intro none
    have lengths := entries.length_eq
    rw [none, one, List.length_take, List.length_nil] at lengths
    rw [one] at full
    unfold BATCH at *
    omega
  obtain ⟨e, more, rfl⟩ := List.exists_cons_of_ne_nil some_made
  have held := (inserted_holds opened (e :: more) e.entryId).mpr (Or.inr ⟨e, List.mem_cons_self, rfl⟩)
  rw [← stored, same] at held
  revert held
  exact of_decide_eq_true rfl

end Rustory
