import Rustory.HistoryImport.Stable
import Rustory.Storage.Recent

namespace Rustory

open Foundations LocalStore

/-! Which timestamps an import assigns. -/

/-- The timestamp of a record without one of its own. -/
def syntheticTs (now : OffsetDateTime) (total index : Nat) : Int :=
  now.unixTimestamp - ((total - 1 - index : Nat) : Int)

def assignedTs (now : OffsetDateTime) (total : Nat) (placed : HistoryRecord × Nat) : Int :=
  placed.1.tsUnix.getD (syntheticTs now total placed.2)

/-- The accepted records of a list, each with its place. -/
def placedFrom (req : ImportRequest) (index : Nat) (records : List HistoryRecord) : List (HistoryRecord × Nat) :=
  (records.zipIdx index).filter fun placed => !skipsRecord req.ignoreRegex placed.1

def placedRecords (req : ImportRequest) : List (HistoryRecord × Nat) := placedFrom req 0 (consideredRecords req)

section

variable {uuidV5 : String → EntryId} {req : ImportRequest} {total index : Nat} {now : OffsetDateTime}
  {faults : Nat → TxFaults} {record : HistoryRecord} {entry : Entry} {start : LocalStore}
  {vars next : ImportVars}

theorem checkedSub_unixTimestamp {ts earlier : OffsetDateTime} {seconds : Nat}
    (sub : ts.checkedSub seconds = some earlier) :
    earlier.unixTimestamp = ts.unixTimestamp - seconds := by
  unfold OffsetDateTime.checkedSub at sub
  split at sub
  · cases sub
    unfold OffsetDateTime.unixTimestamp
    dsimp only
    omega
  · cases sub

theorem filledTsUnix_ok {original : Option Int} {ts : Int} (filled : filledTsUnix total index original now = .ok ts) :
    ts = original.getD (syntheticTs now total index) := by
  unfold filledTsUnix at filled
  split at filled
  · cases filled
    rfl
  · split at filled
    · rename_i earlier sub
      cases filled
      exact checkedSub_unixTimestamp sub
    · cases filled

theorem importEntry_ts (made : importEntry uuidV5 req total now index record = .ok entry) :
    entry.ts.unixTimestamp = assignedTs now total (record, index) := by
  unfold importEntry at made
  split at made
  · cases made
  · rename_i tsUnix filled
    split at made
    · cases made
    · rename_i ts read
      cases made
      exact (OffsetDateTime.unixTimestamp_of_fromUnixTimestamp read).trans (filledTsUnix_ok filled)

theorem importEntry_id (made : importEntry uuidV5 req total now index record = .ok entry) :
    entry.entryId = recordId uuidV5 req record := (importEntry_of made).entryId

/-- The id and the timestamp of an entry. -/
def entryTime (entry : Entry) : EntryId × Int := (entry.entryId, entry.ts.unixTimestamp)

/-- What an accepted record is stored under and when it is said to have run. -/
def recordTime (uuidV5 : String → EntryId) (req : ImportRequest) (now : OffsetDateTime) (total : Nat)
    (placed : HistoryRecord × Nat) : EntryId × Int :=
  (recordId uuidV5 req placed.1, assignedTs now total placed)

def recordTimes (uuidV5 : String → EntryId) (req : ImportRequest) (now : OffsetDateTime) : List (EntryId × Int) :=
  (placedRecords req).map (recordTime uuidV5 req now (consideredRecords req).length)

theorem importEntry_time (made : importEntry uuidV5 req total now index record = .ok entry) :
    entryTime entry = recordTime uuidV5 req now total (record, index) :=
  Prod.ext (importEntry_id made) (importEntry_ts made)

def madeTimes (vars : ImportVars) : List (EntryId × Int) := vars.made.map fun pair => entryTime pair.2

theorem importRecords_madeTimes {records : List HistoryRecord}
    (imported : importRecords uuidV5 req total now faults index records vars = .ok next) :
    madeTimes next = madeTimes vars ++ (placedFrom req index records).map (recordTime uuidV5 req now total) := by
  induction records generalizing index vars with
  | nil =>
    cases imported
    simp [placedFrom]
  | cons record rest ih =>
    simp only [importRecords] at imported
    split at imported
    · cases imported
    · rename_i later first
      rw [ih imported, placedFrom, placedFrom, List.zipIdx_cons]
      rcases importRecord_ok first with ⟨skips, same, -⟩ | ⟨accepts, entry, made, more, -⟩
      · rw [List.filter_cons_of_neg (by simp [skips]), madeTimes, same]
        rfl
      · rw [List.filter_cons_of_pos (by simp [accepts]), madeTimes, more, List.map_append, List.map_cons,
          List.append_assoc, importEntry_time made]
        rfl

theorem importRun_madeTimes (imported : importRun uuidV5 start req now faults = .ok next) :
    madeTimes next = recordTimes uuidV5 req now := by
  unfold importRun at imported
  dsimp only at imported
  split at imported
  · cases imported
  · rename_i vars looped
    have loop := importRecords_madeTimes looped
    split at imported
    · cases imported
      exact loop
    · rw [madeTimes, (insertBuf_ok imported).1]
      exact loop

/-! When the timestamps follow the file. -/

/-- The timestamps that the history itself gives ascend. -/
def ExplicitAscend (req : ImportRequest) : Prop :=
  ((parseHistory req.shell req.content).filterMap HistoryRecord.tsUnix).Pairwise (· ≤ ·)

/-- Of two accepted records one of which has no timestamp of its own, the synthetic one is on the
    right side of the other's. -/
def MixedInOrder (req : ImportRequest) (now : OffsetDateTime) : Prop :=
  (placedRecords req).Pairwise fun earlier later =>
    (∀ ts, earlier.1.tsUnix = none → later.1.tsUnix = some ts →
      syntheticTs now (consideredRecords req).length earlier.2 ≤ ts) ∧
    ∀ ts, earlier.1.tsUnix = some ts → later.1.tsUnix = none →
      ts ≤ syntheticTs now (consideredRecords req).length later.2

/-- The timestamp of the row that a store has under an id. -/
def heldTs (store : LocalStore) (id : EntryId) : Option Int :=
  (store.values.find? fun value => decide (value.entryId = id)).map EntryRow.ts

/-- The timestamp that is in the store after an import: a row of before stays as it was, and of the records with
    one id the first one is stored. -/
def keptTs (store : LocalStore) (times : List (EntryId × Int)) (id : EntryId) : Int :=
  match heldTs store id with
  | some ts => ts
  | none => ((times.find? fun time => decide (time.1 = id)).map Prod.snd).getD 0

/-- Also with the rows that the store has already, the accepted records do not go back in time. -/
structure FollowsFile (uuidV5 : String → EntryId) (store : LocalStore) (req : ImportRequest)
    (now : OffsetDateTime) : Prop where
  mixed : MixedInOrder req now
  kept : (recordTimes uuidV5 req now).Pairwise fun earlier later =>
    keptTs store (recordTimes uuidV5 req now) earlier.1 ≤ keptTs store (recordTimes uuidV5 req now) later.1

/-- The entries of the import ascend in time, and of no two of its records does `list_recent` show the earlier one
    as newer. -/
structure KeepsOrder (run : ImportVars) : Prop where
  assigned : run.made.Pairwise fun earlier later =>
    earlier.2.ts.unixTimestamp ≤ later.2.ts.unixTimestamp
  shown : ∀ limit, run.made.Pairwise fun earlier later =>
    ∀ first ∈ run.store.recentRows limit, ∀ second ∈ run.store.recentRows limit,
      first.entryId = earlier.2.entryId → second.entryId = later.2.entryId → ¬ second.ts < first.ts

theorem heldTs_of_mem {store : LocalStore} {value : EntryRow} (held : value ∈ store.values) :
    heldTs store value.entryId = some value.ts := by
  unfold heldTs
  cases found : store.values.find? fun other => decide (other.entryId = value.entryId) with
  | none =>
    have differs := List.find?_eq_none.mp found value held
    simp at differs
  | some other =>
    have same : other.entryId = value.entryId := by simpa using List.find?_some found
    have one := List.inj_on_of_nodup_map store.values_ids_nodup (List.mem_of_find?_eq_some found) held same
    rw [Option.map_some, one]

theorem heldTs_of_absent {store : LocalStore} {id : EntryId} (absent : ¬ store.Holds id) : heldTs store id = none := by
  unfold heldTs
  rw [List.find?_eq_none.mpr, Option.map_none]
  intro value held same
  obtain ⟨row, member, rfl⟩ := mem_values.mp held
  exact absent ⟨row, member, by simpa using same⟩

/-- What an insert leaves under an id. -/
theorem inserted_ts {store : LocalStore} {entries : List Entry} {value : EntryRow}
    (stored : value ∈ (store.inserted entries).values) :
    value.ts = keptTs store (entries.map entryTime) value.entryId := by
  unfold keptTs
  rcases values_inserted.mp stored with old | new
  · rw [heldTs_of_mem old]
  · obtain ⟨absent, before, after, split, earlier⟩ := NumberedTable.mem_firstNew.mp new
    obtain ⟨first, last, rfl, rfl, rest⟩ := List.map_eq_append_iff.mp split
    obtain ⟨e, tail, rfl, rfl, rfl⟩ := List.map_eq_cons_iff.mp rest
    have found : ((first ++ e :: tail).map entryTime).find? (fun time => decide (time.1 = e.toRow.entryId)) =
        some (entryTime e) := by
      rw [List.map_append, List.map_cons]
      apply List.find?_eq_some_iff_append.mpr
      refine ⟨decide_eq_true rfl, first.map entryTime, tail.map entryTime, rfl, ?_⟩
      intro time listed
      obtain ⟨other, member, rfl⟩ := List.mem_map.mp listed
      have differs : other.entryId ≠ e.entryId := earlier other.toRow (List.mem_map_of_mem member)
      exact congrArg not (decide_eq_false differs)
    rw [heldTs_of_absent absent, found]
    rfl

theorem mem_recentRows_all {store : LocalStore} {value : EntryRow} (held : value ∈ store.values) :
    value ∈ store.recentRows 0xFFFFFFFFFFFFFFFF := by
  have all : store.recentRows 0xFFFFFFFFFFFFFFFF = store.values.insertionSort recentFirst := by
    unfold recentRows limitRows
    exact if_pos (by decide)
  rw [all]
  exact (List.mem_insertionSort _).mpr held

theorem syntheticTs_mono (now : OffsetDateTime) (total : Nat) {index later : Nat} (before : index < later) :
    syntheticTs now total index ≤ syntheticTs now total later := by
  unfold syntheticTs
  omega

theorem placedRecords_sublist (req : ImportRequest) :
    (placedRecords req).Sublist (consideredRecords req).zipIdx := List.filter_sublist

theorem placedRecords_ascend (req : ImportRequest) :
    (placedRecords req).Pairwise fun earlier later => earlier.2 < later.2 := by
  apply List.Pairwise.sublist (placedRecords_sublist req)
  rw [← List.pairwise_map (f := Prod.snd), List.zipIdx_map_snd]
  exact List.pairwise_lt_range'

theorem placedRecords_explicit (ascend : ExplicitAscend req) :
    (placedRecords req).Pairwise fun earlier later => ∀ ts, earlier.1.tsUnix = some ts →
      ∀ ts', later.1.tsUnix = some ts' → ts ≤ ts' := by
  have considered := (List.pairwise_filterMap.mp ascend).sublist (consideredRecords_sublist req)
  rw [← List.zipIdx_map_fst 0 (consideredRecords req), List.pairwise_map] at considered
  exact considered.sublist (placedRecords_sublist req)

theorem assigned_ascend_iff (ascend : ExplicitAscend req) :
    ((placedRecords req).map (assignedTs now (consideredRecords req).length)).Pairwise (· ≤ ·) ↔
      MixedInOrder req now := by
  rw [List.pairwise_map, MixedInOrder]
  have known := (placedRecords_ascend req).and (placedRecords_explicit ascend)
  unfold assignedTs
  constructor
  · intro assigned
    apply (known.and assigned).imp
    intro ⟨earlier, i⟩ ⟨later, j⟩ ⟨_, le⟩
    constructor
    · intro ts (missing : earlier.tsUnix = none) (given : later.tsUnix = some ts)
      simpa [missing, given] using le
    · intro ts (given : earlier.tsUnix = some ts) (missing : later.tsUnix = none)
      simpa [missing, given] using le
  · intro mixed
    apply (known.and mixed).imp
    intro ⟨earlier, i⟩ ⟨later, j⟩ ⟨⟨before, explicit⟩, late, early⟩
    cases first : earlier.tsUnix with
    | none =>
      cases second : later.tsUnix with
      | none => exact syntheticTs_mono now _ before
      | some ts' => exact late ts' first second
    | some ts =>
      cases second : later.tsUnix with
      | none => exact early ts first second
      | some ts' => exact explicit ts first ts' second

theorem assigned_iff (ascend : ExplicitAscend req) (ok : importRun uuidV5 start req now faults = .ok next) :
    (next.made.Pairwise fun earlier later => earlier.2.ts.unixTimestamp ≤ later.2.ts.unixTimestamp) ↔
      MixedInOrder req now := by
  have times : next.made.map (fun pair => pair.2.ts.unixTimestamp) =
      (placedRecords req).map (assignedTs now (consideredRecords req).length) := by
    have same := congrArg (List.map Prod.snd) (importRun_madeTimes ok)
    rw [madeTimes, recordTimes, List.map_map, List.map_map] at same
    exact same
  rw [← assigned_ascend_iff ascend, ← times, List.pairwise_map]

/-- What the listings show of the records is the order of their rows. -/
theorem shown_iff (ok : importRun uuidV5 start req now faults = .ok next) :
    (∀ limit, next.made.Pairwise fun earlier later =>
      ∀ first ∈ next.store.recentRows limit, ∀ second ∈ next.store.recentRows limit,
        first.entryId = earlier.2.entryId → second.entryId = later.2.entryId → ¬ second.ts < first.ts) ↔
      (recordTimes uuidV5 req now).Pairwise fun earlier later =>
        keptTs start (recordTimes uuidV5 req now) earlier.1 ≤ keptTs start (recordTimes uuidV5 req now) later.1 := by
  have imported := importRun_imported ok
  have times : (next.made.map Prod.snd).map entryTime = recordTimes uuidV5 req now := by
    rw [List.map_map]
    exact importRun_madeTimes ok
  have kept : ∀ value ∈ next.store.values,
      value.ts = keptTs start (recordTimes uuidV5 req now) value.entryId := by
    intro value stored
    rw [imported.inserts] at stored
    rw [← times]
    exact inserted_ts stored
  rw [← importRun_madeTimes ok, madeTimes, List.pairwise_map, ← madeTimes, importRun_madeTimes ok]
  constructor
  · intro shown
    have stored : ∀ pair ∈ next.made, ∃ value ∈ next.store.values, value.entryId = pair.2.entryId := by
      intro pair listed
      have holds : next.store.Holds pair.2.entryId := by
        rw [imported.inserts, inserted_holds]
        exact Or.inr ⟨pair.2, List.mem_map_of_mem listed, rfl⟩
      obtain ⟨row, member, same⟩ := holds
      exact ⟨row.val, mem_values.mpr ⟨row, member, rfl⟩, same⟩
    apply List.Pairwise.imp_of_mem _ (shown 0xFFFFFFFFFFFFFFFF)
    intro earlier later madeEarlier madeLater apart
    obtain ⟨first, heldFirst, firstId⟩ := stored earlier madeEarlier
    obtain ⟨second, heldSecond, secondId⟩ := stored later madeLater
    have order := apart first (mem_recentRows_all heldFirst) second (mem_recentRows_all heldSecond) firstId secondId
    rw [kept first heldFirst, kept second heldSecond, firstId, secondId] at order
    exact Int.not_lt.mp order
  · intro ascends limit
    apply ascends.imp
    intro earlier later order first heldFirst second heldSecond firstId secondId
    rw [kept first (mem_recentRows heldFirst), kept second (mem_recentRows heldSecond), firstId, secondId]
    exact Int.not_lt.mpr order

end

/-- An import keeps the order of the file exactly when no synthetic timestamp passes a real one, and when the rows
    that the store has of the same history fit in between. -/
theorem import_keeps_order_iff {uuidV5 : String → EntryId} {store : LocalStore} {req : ImportRequest}
    {now : OffsetDateTime} {faults : Nat → TxFaults} {run : ImportVars} (ascend : ExplicitAscend req)
    (ok : importRun uuidV5 store req now faults = .ok run) : KeepsOrder run ↔ FollowsFile uuidV5 store req now := by
  constructor
  · intro keeps
    exact ⟨(assigned_iff ascend ok).mp keeps.assigned, (shown_iff ok).mp keeps.shown⟩
  · intro follows
    exact ⟨(assigned_iff ascend ok).mpr follows.mixed, (shown_iff ok).mpr follows.kept⟩

/-- A history that got its timestamps part-way. -/
def mixedHistory : ImportRequest where
  shell := .zsh
  content := "echo a\n: 3:0;echo b\n"
  limit := none
  userId := "u1"
  deviceId := "d1"
  hostname := "host"
  ignoreRegex := none

/-- UUIDv5 on the names of `mixedHistory`. -/
def mixedUuidV5 (name : String) : EntryId :=
  if name = importName "u1" "d1" "zsh" 0 "echo a" 0 then
    "4a7ec141-e764-52cd-beb7-038304d19446"
  else if name = importName "u1" "d1" "zsh" 3 "echo b" 1 then
    "bc26b85a-9913-5710-ac6a-61e482797049"
  else
    "name:" ++ name

theorem import_keeps_order_mixed :
    ∃ run, importRun mixedUuidV5 opened mixedHistory (.atSecond 5) (fun _ => noFaults) = .ok run ∧
      (KeepsOrder run ↔ FollowsFile mixedUuidV5 opened mixedHistory (.atSecond 5)) := by
  obtain ⟨run, ok⟩ := @exists_of_isOk _ _ (importRun mixedUuidV5 opened mixedHistory (.atSecond 5)
    fun _ => noFaults) (by decide)
  have ascend : ExplicitAscend mixedHistory := by
    unfold ExplicitAscend
    decide
  exact ⟨run, ok, import_keeps_order_iff ascend ok⟩

/-- The first command, without a timestamp, is taken for newer than the second. -/
theorem mixed_history_is_reordered :
    ¬ ∀ (uuidV5 : String → EntryId) (store : LocalStore) (req : ImportRequest) (now : OffsetDateTime)
      (faults : Nat → TxFaults) (run : ImportVars), ExplicitAscend req →
      (∀ record ∈ parseHistory req.shell req.content, ∀ ts, record.tsUnix = some ts → ts ≤ now.unixTimestamp) →
      importRun uuidV5 store req now faults = .ok run → KeepsOrder run := by
  intro keeps
  obtain ⟨run, ok⟩ := @exists_of_isOk _ _ (importRun mixedUuidV5 opened mixedHistory (.atSecond 5)
    fun _ => noFaults) (by decide)
  have ascend : ExplicitAscend mixedHistory := by
    unfold ExplicitAscend
    decide
  have kept := (keeps mixedUuidV5 opened mixedHistory (.atSecond 5) _ run ascend (by decide) ok).assigned
  rw [assigned_iff ascend ok, ← assigned_ascend_iff ascend] at kept
  revert kept
  decide

/-- A store that was given the last of two commands only keeps the time of its row when the whole history is
    imported later. -/
theorem limited_history_is_reordered :
    ∃ last run, importIntoStore echoUuidV5 opened { echoHistory with limit := some 1 } (.atSecond 5)
        (fun _ => noFaults) = (.ok ⟨1, 1, 0, 0⟩, last) ∧
      importRun echoUuidV5 last echoHistory (.atSecond 100) (fun _ => noFaults) = .ok run ∧
      MixedInOrder echoHistory (.atSecond 100) ∧ ¬ KeepsOrder run := by
  let last := (importIntoStore echoUuidV5 opened { echoHistory with limit := some 1 } (.atSecond 5) fun _ =>
    noFaults).2
  obtain ⟨run, ok⟩ := @exists_of_isOk _ _ (importRun echoUuidV5 last echoHistory (.atSecond 100)
    fun _ => noFaults) (by decide)
  have ascend : ExplicitAscend echoHistory := by
    unfold ExplicitAscend
    decide
  have mixed : MixedInOrder echoHistory (.atSecond 100) := by
    rw [← assigned_ascend_iff ascend]
    decide
  refine ⟨last, run, Prod.ext (by decide) rfl, ok, mixed, ?_⟩
  intro keeps
  have kept := (shown_iff ok).mp keeps.shown
  revert kept
  decide

end Rustory
