import Mathlib
import Rustory.HistoryImport.Progress

namespace Rustory

open Foundations LocalStore

/-! The name of a record tells its fields apart. -/

theorem importName_toList (userId deviceId shell : String) (tsUnix : Int) (cmd : String) (sourceIndex : Nat) :
    (importName userId deviceId shell tsUnix cmd sourceIndex).toList =
      joinFields '\x00' ["rustory:import".toList, userId.toList, deviceId.toList, shell.toList,
        (Int.repr tsUnix).toList, (Nat.repr sourceIndex).toList] cmd.toList := by
  have separator : "\x00".toList = ['\x00'] := by decide
  have first : "rustory:import\x00".toList = "rustory:import".toList ++ ['\x00'] := by decide
  have plain : importName userId deviceId shell tsUnix cmd sourceIndex =
      "rustory:import\x00" ++ userId ++ "\x00" ++ deviceId ++ "\x00" ++ shell ++ "\x00" ++
        Int.repr tsUnix ++ "\x00" ++ Nat.repr sourceIndex ++ "\x00" ++ cmd := rfl
  rw [plain]
  simp only [String.toList_append, joinFields, separator, first, List.append_assoc, List.cons_append,
    List.nil_append]

theorem numbers_free (tsUnix : Int) (sourceIndex : Nat) :
    ∀ field ∈ [(Int.repr tsUnix).toList, (Nat.repr sourceIndex).toList], '\x00' ∉ field := by
  intro field listed
  rcases List.mem_cons.mp listed with rfl | listed
  · exact not_mem_intRepr (by decide) (by decide) tsUnix
  · rw [List.mem_singleton.mp listed]
    exact not_mem_natRepr (by decide) sourceIndex

theorem importName_record {userId deviceId shell cmd cmd' : String} {tsUnix tsUnix' : Int}
    {index index' : Nat}
    (same : importName userId deviceId shell tsUnix cmd index =
      importName userId deviceId shell tsUnix' cmd' index') :
    tsUnix = tsUnix' ∧ index = index' ∧ cmd = cmd' := by
  have chars := congrArg String.toList same
  rw [importName_toList, importName_toList] at chars
  simp only [joinFields, List.append_cancel_left_eq, List.cons.injEq, true_and] at chars
  have numbers : joinFields '\x00' [(Int.repr tsUnix).toList, (Nat.repr index).toList] cmd.toList =
      joinFields '\x00' [(Int.repr tsUnix').toList, (Nat.repr index').toList] cmd'.toList := chars
  obtain ⟨fields, last⟩ :=
    joinFields_inj (by rfl) (numbers_free tsUnix index) (numbers_free tsUnix' index') numbers
  obtain ⟨ts, rest⟩ := List.cons.inj fields
  exact ⟨Int.repr_injective (String.toList_inj.mp ts),
    Nat.repr_injective (String.toList_inj.mp (List.cons.inj rest).1), String.toList_inj.mp last⟩

section

variable {uuidV5 : String → EntryId} {store mid after : LocalStore} {req : ImportRequest}

theorem recordId_index (collisionFree : Function.Injective uuidV5) {a b : HistoryRecord}
    (same : recordId uuidV5 req a = recordId uuidV5 req b) : a.sourceIndex = b.sourceIndex :=
  (importName_record (collisionFree same)).2.1

/-! No two accepted records of one history share an id. -/

theorem acceptedRecords_ids_nodup (collisionFree : Function.Injective uuidV5) (req : ImportRequest) :
    ((acceptedRecords req).map (recordId uuidV5 req)).Nodup := by
  have indices : ((acceptedRecords req).map HistoryRecord.sourceIndex).Nodup :=
    ((List.filter_sublist.trans (consideredRecords_sublist req)).map _).nodup
      (parseHistory_indices_nodup req.shell req.content)
  rw [List.nodup_map_iff_inj_on indices.of_map]
  intro a inA b inB same
  exact List.inj_on_of_nodup_map indices inA inB (recordId_index collisionFree same)

/-! An import whose first records are in the store already adds the others. -/

/-- The row that an accepted record leaves in the store. -/
def StoredAs (uuidV5 : String → EntryId) (req : ImportRequest) (record : HistoryRecord) (row : IngestRow) : Prop :=
  ∃ entry, EntryOf uuidV5 req record entry ∧ entry.toRow = row.val

theorem Imported.id_of {made : List (HistoryRecord × Entry)} {stats : ImportStats}
    (imported : Imported uuidV5 mid req made stats after) {pair : HistoryRecord × Entry} (listed : pair ∈ made) :
    pair.2.toRow.entryId = recordId uuidV5 req pair.1 := (imported.entries pair listed).entryId

theorem Imported.adds {made : List (HistoryRecord × Entry)} {stats : ImportStats}
    (collisionFree : Function.Injective uuidV5) (imported : Imported uuidV5 mid req made stats after)
    {old new : List HistoryRecord} (split : acceptedRecords req = old ++ new)
    (held : ∀ record ∈ old, mid.Holds (recordId uuidV5 req record))
    (absent : ∀ record ∈ new, ¬ mid.Holds (recordId uuidV5 req record)) :
    stats.inserted = new.length ∧ stats.ignored = old.length ∧
      ∃ added, after.entries.rows = mid.entries.rows ++ added ∧
        added.map (fun row => row.val.entryId) = new.map (recordId uuidV5 req) ∧
        List.Forall₂ (StoredAs uuidV5 req) new added := by
  have nodup : ((rowsOf (made.map Prod.snd)).map EntryRow.entryId).Nodup := by
    have batch : (rowsOf (made.map Prod.snd)).map EntryRow.entryId =
        (acceptedRecords req).map (recordId uuidV5 req) := by
      rw [← imported.ids, rowsOf, List.map_map]
      rfl
    exact batch ▸ acceptedRecords_ids_nodup collisionFree req
  obtain ⟨added, rows, vals, changed, -⟩ := mid.inserted_rows (made.map Prod.snd)
  obtain ⟨first, last, rfl, rfl, rfl⟩ := List.map_eq_append_iff.mp (imported.accepted.trans split)
  have stored : added.map Numbered.val = last.map fun pair => pair.2.toRow := by
    have before : (rowsOf (first.map Prod.snd)).filter (fun row => ¬ mid.Holds row.entryId) = [] := by
      rw [List.filter_eq_nil_iff, rowsOf, List.map_map]
      intro row member
      obtain ⟨pair, listed, rfl⟩ := List.mem_map.mp member
      have known := held pair.1 (List.mem_map_of_mem listed)
      rw [← imported.id_of (List.mem_append_left last listed)] at known
      simpa using known
    have beyond : (rowsOf (last.map Prod.snd)).filter (fun row => ¬ mid.Holds row.entryId) =
        rowsOf (last.map Prod.snd) := by
      rw [List.filter_eq_self, rowsOf, List.map_map]
      intro row member
      obtain ⟨pair, listed, rfl⟩ := List.mem_map.mp member
      have fresh := absent pair.1 (List.mem_map_of_mem listed)
      rw [← imported.id_of (List.mem_append_right first listed)] at fresh
      simpa using fresh
    have batch : rowsOf ((first ++ last).map Prod.snd) =
        rowsOf (first.map Prod.snd) ++ rowsOf (last.map Prod.snd) := by
      rw [List.map_append, rowsOf, List.map_append]
      rfl
    rw [vals, mid.entries.firstNew_of_nodup nodup, batch, List.filter_append]
    refine (congrArg₂ List.append before beyond).trans ?_
    rw [rowsOf, List.map_map]
    rfl
  have ids : added.map (fun row => row.val.entryId) = (last.map Prod.fst).map (recordId uuidV5 req) := by
    have named := congrArg (List.map EntryRow.entryId) stored
    rw [List.map_map, List.map_map] at named
    refine named.trans ?_
    rw [List.map_map]
    exact List.map_congr_left fun pair listed => imported.id_of (List.mem_append_right first listed)
  have whole : List.Forall₂ (StoredAs uuidV5 req) (last.map Prod.fst) added := by
    have same : List.Forall₂ Eq (last.map fun pair => pair.2.toRow) (added.map Numbered.val) := by
      rw [List.forall₂_eq_eq_eq]
      exact stored.symm
    rw [List.forall₂_map_left_iff, List.forall₂_map_right_iff] at same
    rw [List.forall₂_map_left_iff]
    have made : ∀ pair ∈ last, EntryOf uuidV5 req pair.1 pair.2 :=
      fun pair listed => imported.entries pair (List.mem_append_right first listed)
    apply ((List.forall₂_and_left _ _).mpr ⟨made, same⟩).imp
    intro pair row both
    exact ⟨pair.2, both.1, both.2⟩
  have count := congrArg List.length stored
  rw [List.length_map, List.length_map] at count
  have inserted : stats.inserted = (last.map Prod.fst).length := by
    rw [imported.inserted, changed, count, List.length_map]
  have total := imported.stored
  rw [List.length_append] at total
  rw [List.length_map] at inserted
  simp only [List.length_map]
  refine ⟨inserted, by omega, added, ?_, ids, whole⟩
  rw [imported.inserts]
  exact rows

/-! Growing histories and limits. -/

def ImportRequest.grown (req : ImportRequest) (continuation : String) : ImportRequest :=
  { req with content := req.content ++ continuation }

def ImportRequest.unlimited (req : ImportRequest) : ImportRequest := { req with limit := none }

theorem acceptedRecords_grown (unlimited : req.limit = none) (ends : EndsLine req.content)
    (continuation : String) :
    ∃ later, acceptedRecords (req.grown continuation) = acceptedRecords req ++ later := by
  obtain ⟨later, same⟩ := parseHistory_append req.shell ends continuation
  have before : consideredRecords req = parseHistory req.shell req.content := by
    simp [consideredRecords, unlimited]
  have after : consideredRecords (req.grown continuation) =
      parseHistory req.shell (req.content ++ continuation) := by
    simp [consideredRecords, ImportRequest.grown, unlimited]
  refine ⟨later.filter fun record => !skipsRecord req.ignoreRegex record, ?_⟩
  unfold acceptedRecords
  rw [before, after, same, List.filter_append]
  rfl

theorem acceptedRecords_limited {record : HistoryRecord} (accepted : record ∈ acceptedRecords req) :
    record ∈ acceptedRecords req.unlimited := by
  obtain ⟨considered, accepts⟩ := List.mem_filter.mp accepted
  exact List.mem_filter.mpr ⟨(consideredRecords_sublist req).subset considered, accepts⟩

end

structure ImportStable (uuidV5 : String → EntryId) : Prop where
  grows : ∀ (store mid after : LocalStore) (req : ImportRequest) (continuation : String)
    (now now' : OffsetDateTime) (faults faults' : Nat → TxFaults) (stats stats' : ImportStats),
    req.limit = none → EndsLine req.content →
    (∀ record ∈ acceptedRecords (req.grown continuation), ¬ store.Holds (recordId uuidV5 req record)) →
    importIntoStore uuidV5 store req now faults = (.ok stats, mid) →
    importIntoStore uuidV5 mid (req.grown continuation) now' faults' = (.ok stats', after) →
    ∃ later added, acceptedRecords (req.grown continuation) = acceptedRecords req ++ later ∧
      stats'.ignored = (acceptedRecords req).length ∧ stats'.inserted = later.length ∧
      after.entries.rows = mid.entries.rows ++ added ∧
      added.map (fun row => row.val.entryId) = later.map (recordId uuidV5 req) ∧
      List.Forall₂ (StoredAs uuidV5 (req.grown continuation)) later added
  limits : ∀ (store mid both once : LocalStore) (req : ImportRequest) (now now' now'' : OffsetDateTime)
    (faults faults' faults'' : Nat → TxFaults) (stats stats' stats'' : ImportStats),
    importIntoStore uuidV5 store req now faults = (.ok stats, mid) →
    importIntoStore uuidV5 mid req.unlimited now' faults' = (.ok stats', both) →
    importIntoStore uuidV5 store req.unlimited now'' faults'' = (.ok stats'', once) →
    ∀ id, both.Holds id ↔ once.Holds id
  distinct : ∀ req : ImportRequest, ((acceptedRecords req).map (recordId uuidV5 req)).Nodup
  counted : ∀ (store after : LocalStore) (req : ImportRequest) (now : OffsetDateTime)
    (faults : Nat → TxFaults) (stats : ImportStats),
    importIntoStore uuidV5 store req now faults = (.ok stats, after) →
    stats.received = stats.inserted + stats.ignored + stats.skipped ∧
      stats.received = (consideredRecords req).length

/-- Importing a history again, grown or cut to its end, adds what is new and nothing else. -/
theorem import_stable (uuidV5 : String → EntryId) (collisionFree : Function.Injective uuidV5) :
    ImportStable uuidV5 where
  grows := by
    intro store mid after req continuation now now' faults faults' stats stats' unlimited ends fresh
      first second
    obtain ⟨made, imported⟩ := importIntoStore_imported first
    obtain ⟨made', imported'⟩ := importIntoStore_imported second
    obtain ⟨later, split⟩ := acceptedRecords_grown unlimited ends continuation
    have nodup := acceptedRecords_ids_nodup collisionFree (req.grown continuation)
    rw [split, List.map_append] at nodup
    have held : ∀ record ∈ acceptedRecords req, mid.Holds (recordId uuidV5 req record) :=
      fun record accepted => (imported.holds _).mpr (Or.inr (List.mem_map_of_mem accepted))
    have absent : ∀ record ∈ later, ¬ mid.Holds (recordId uuidV5 req record) := by
      intro record listed holds
      rcases (imported.holds _).mp holds with old | earlier
      · exact fresh record (split ▸ List.mem_append_right _ listed) old
      · exact (List.nodup_append.mp nodup).2.2 _ earlier _ (List.mem_map_of_mem listed) rfl
    obtain ⟨inserted, ignored, added, rows, ids, whole⟩ := imported'.adds collisionFree split held absent
    exact ⟨later, added, split, ignored, inserted, rows, ids, whole⟩
  limits := by
    intro store mid both once req now now' now'' faults faults' faults'' stats stats' stats'' first second
      single id
    obtain ⟨made, imported⟩ := importIntoStore_imported first
    obtain ⟨made', imported'⟩ := importIntoStore_imported second
    obtain ⟨made'', imported''⟩ := importIntoStore_imported single
    rw [imported'.holds, imported.holds, imported''.holds, or_assoc]
    have part : id ∈ (acceptedRecords req).map (recordId uuidV5 req) →
        id ∈ (acceptedRecords req.unlimited).map (recordId uuidV5 req.unlimited) := by
      intro listed
      obtain ⟨record, accepted, rfl⟩ := List.mem_map.mp listed
      exact List.mem_map.mpr ⟨record, acceptedRecords_limited accepted, rfl⟩
    exact or_congr_right (or_iff_right_of_imp part)
  distinct := acceptedRecords_ids_nodup collisionFree
  counted := by
    intro store after req now faults stats imported
    obtain ⟨made, imported⟩ := importIntoStore_imported imported
    exact ⟨imported.counted, imported.received⟩

/-! A history of two commands. -/

def echoHistory : ImportRequest where
  shell := .bash
  content := "echo a\necho b\n"
  limit := none
  userId := "u1"
  deviceId := "d1"
  hostname := "host"
  ignoreRegex := none

/-- UUIDv5 on the names of `echoHistory`. -/
def echoUuidV5 (name : String) : EntryId :=
  if name = importName "u1" "d1" "bash" 0 "echo a" 0 then
    "bdd81fca-53e5-5722-8bf1-20fce13ae0b3"
  else if name = importName "u1" "d1" "bash" 0 "echo b" 1 then
    "9902d422-c3a8-5c3e-94fd-e3ee1f4f639b"
  else
    "name:" ++ name

theorem named_ne {name id : String} (other : id.toList.head? ≠ some 'n') : "name:" ++ name ≠ id := by
  rintro rfl
  rw [String.toList_append] at other
  exact other rfl

theorem echoUuidV5_injective : Function.Injective echoUuidV5 := by
  intro a b same
  unfold echoUuidV5 at same
  split at same
  · rename_i first
    split at same
    · rename_i first'
      rw [first, first']
    · split at same
      · exact absurd same (by decide)
      · exact absurd same.symm (named_ne (by decide))
  · split at same
    · rename_i second
      split at same
      · exact absurd same (by decide)
      · split at same
        · rename_i second'
          rw [second, second']
        · exact absurd same.symm (named_ne (by decide))
    · split at same
      · exact absurd same (named_ne (by decide))
      · split at same
        · exact absurd same (named_ne (by decide))
        · have chars := congrArg String.toList same
          rw [String.toList_append, String.toList_append] at chars
          exact String.toList_inj.mp (List.append_cancel_left chars)

theorem import_stable_echo : ImportStable echoUuidV5 ∧
    (importIntoStore echoUuidV5 opened echoHistory (.atSecond 5)).1 = .ok ⟨2, 2, 0, 0⟩ :=
  ⟨import_stable echoUuidV5 echoUuidV5_injective, by decide⟩

end Rustory
