import Rustory.Foundations.Transition
import Rustory.Storage.Batch
import Rustory.Sync.Push

namespace Rustory

open Foundations LocalStore

def pushSelects : Option String → EntryRow → Bool
  | some deviceId => ofDevice deviceId
  | none => fun _ => true

theorem readPushBatch_of {store : LocalStore} {source : Option String} {cursor : Int} {limit : UInt64}
    {batch : PullBatch} (h : readPushBatch store source cursor limit = .ok batch) :
    BatchOf (store.entries.page (pushSelects source) cursor (asI64 limit)) batch := by
  cases source with
  | some deviceId => exact pullSinceCursorForDevice_of h
  | none => exact pullSinceCursor_of h

theorem readPushBatch_readable {store : LocalStore} {source : Option String} {cursor : Int}
    {limit : UInt64} :
    (∃ batch, readPushBatch store source cursor limit = .ok batch) ↔
      ∀ row ∈ store.entries.page (pushSelects source) cursor (asI64 limit), row.val.Readable := by
  cases source with
  | some deviceId => exact collectBatch_readable
  | none => exact collectBatch_readable

section

variable {peerId : String} {source : Option String} {push : List Entry → Except Error Unit}

/-! What a session has handed to `push` when it is over. -/

def Handed (handed : List (List Entry)) (value : EntryRow) : Prop :=
  ∃ batch ∈ handed, value ∈ rowsOf batch

/-- Handed over, or at or below the cursor that the session began with. -/
def Dealt (table : EntriesTable) (start : Int) (handed : List (List Entry)) (value : EntryRow) : Prop :=
  Handed handed value ∨ ∃ row ∈ table.rows, row.val = value ∧ row.seq ≤ start

def HandedSoFar (source : Option String) (table : EntriesTable) (start : Int) (handed : List (List Entry)) :
    PushState → Prop
  | .reading vars =>
    1 ≤ vars.batchLimit ∧ table.Covers (pushSelects source) (Dealt table start handed) vars.cursor
  | .pushing vars batch =>
    1 ≤ vars.batchLimit ∧ table.Covers (pushSelects source) (Dealt table start handed) vars.cursor ∧
      ∀ nextCursor, batch.nextCursor = some nextCursor →
        table.Covers (pushSelects source)
          (fun value => Dealt table start handed value ∨ value ∈ rowsOf batch.entries) nextCursor
  | .advancing vars =>
    1 ≤ vars.batchLimit ∧ table.Covers (pushSelects source) (Dealt table start handed) vars.cursor
  | .returned (.ok _) =>
    ∀ row ∈ table.rows, pushSelects source row.val = true → Dealt table start handed row.val
  | .returned (.error _) => True

theorem Dealt.snoc {table : EntriesTable} {start : Int} {handed : List (List Entry)}
    {value : EntryRow} (dealt : Dealt table start handed value) (batch : List Entry) :
    Dealt table start (handed ++ [batch]) value := by
  rcases dealt with ⟨earlier, listed, member⟩ | old
  · exact Or.inl ⟨earlier, List.mem_append_left _ listed, member⟩
  · exact Or.inr old

theorem PushRun.step_handed {table : EntriesTable} {start : Int} {run : PushRun}
    (same : run.store.entries = table) (h : HandedSoFar source table start run.handed run.state) :
    (run.step peerId source push).store.entries = table ∧
      HandedSoFar source table start (run.step peerId source push).handed
        (run.step peerId source push).state := by
  obtain ⟨store, state, handed⟩ := run
  subst same
  cases state with
  | reading vars =>
    apply And.intro rfl
    obtain ⟨limit, covers⟩ := h
    simp only [PushRun.step]
    rcases PushState.onRead_cases vars (readPushBatch store source vars.cursor vars.batchLimit) with
      ⟨err, next⟩ | ⟨batch, answer, ⟨none, next⟩ | ⟨-, next⟩⟩
    · rw [next]
      exact trivial
    · rw [next]
      intro row held selected
      exact covers.complete (asI64_ne_zero limit) ((readPushBatch_of answer).entries_nil.mp none) held
        selected
    · rw [next]
      refine ⟨limit, covers, fun nextCursor found => ?_⟩
      have read := readPushBatch_of answer
      obtain ⟨last, ends, rfl⟩ := read.nextCursor_some found
      apply (covers.mono fun value => Or.inl).page ends
      intro row listed
      apply Or.inr
      rw [read.entries]
      exact List.mem_map_of_mem listed
  | pushing vars batch =>
    apply And.intro rfl
    obtain ⟨limit, covers, sending⟩ := h
    simp only [PushRun.step]
    cases push batch.entries with
    | error err =>
      rcases PushState.onPushed_error vars batch err with ⟨err', next⟩ | next
      · rw [next]
        exact trivial
      · rw [next]
        exact ⟨one_le_halved _, covers.mono fun value dealt => dealt.snoc _⟩
    | ok _ =>
      rcases PushState.onPushed_ok vars batch with ⟨err, next⟩ | ⟨later, next, found, -, sameLimit⟩
      · rw [next]
        exact trivial
      · rw [next]
        apply And.intro (by rw [sameLimit]; exact limit)
        intro row held selected below
        rcases sending later.cursor found row held selected below with dealt | listed
        · exact dealt.snoc _
        · exact Or.inl ⟨batch.entries, List.mem_append_right _ List.mem_cons_self, listed⟩
  | advancing vars => exact ⟨rfl, h⟩
  | returned result => exact ⟨rfl, h⟩

variable (peerId source push) in
theorem syncPushToPeer_handed (fuel : Nat) (store : LocalStore) {limit : UInt64} (positive : 1 ≤ limit) :
    (syncPushToPeer fuel store peerId limit source push).store.entries = store.entries ∧
      HandedSoFar source store.entries (store.getLastPushedSeq peerId)
        (syncPushToPeer fuel store peerId limit source push).handed
        (syncPushToPeer fuel store peerId limit source push).state := by
  induction fuel with
  | zero =>
    apply And.intro rfl
    simp only [syncPushToPeer, Function.iterate_zero, id_eq, PushState.start_reading positive]
    apply And.intro positive
    intro row held selected below
    exact Or.inr ⟨row, held, rfl, below⟩
  | succ fuel ih =>
    unfold syncPushToPeer at ih ⊢
    rw [Function.iterate_succ_apply']
    exact PushRun.step_handed ih.1 ih.2

/-- A session that returns `Ok` has handed over every row it selects above its first cursor. -/
theorem push_session_hands {fuel : Nat} {store : LocalStore} {limit : UInt64} {total : Nat}
    (positive : 1 ≤ limit)
    (ends : (syncPushToPeer fuel store peerId limit source push).state = .returned (.ok total))
    {row : IngestRow} (member : row ∈ store.entries.rows) (selected : pushSelects source row.val = true)
    (above : store.getLastPushedSeq peerId < row.seq) :
    Handed (syncPushToPeer fuel store peerId limit source push).handed row.val := by
  have handed := (syncPushToPeer_handed peerId source push fuel store positive).2
  rw [ends] at handed
  rcases handed row member selected with done | ⟨old, held, same, below⟩
  · exact done
  · have equal : old = row := NumberedTable.eq_of_key held member (congrArg EntryRow.entryId same)
    subst equal
    omega

/-! How the session goes on after one batch. -/

theorem PushRun.round {vars : PushVars} {store : LocalStore} {handed : List (List Entry)}
    {batch : PullBatch} {next : Int} (accepts : push batch.entries = .ok ())
    (answer : readPushBatch store source vars.cursor vars.batchLimit = .ok batch)
    (nonempty : batch.entries ≠ []) (found : batch.nextCursor = some next) (advances : vars.cursor < next) :
    (PushRun.step peerId source push)^[3] ⟨store, .reading vars, handed⟩ =
      ⟨store.setLastPushedSeq peerId next,
        .reading ⟨next, vars.pushedTotal + batch.entries.length, vars.batchLimit⟩,
        handed ++ [batch.entries]⟩ := by
  have still : ¬ next ≤ vars.cursor := by omega
  have read : PushState.onRead vars (.ok batch) = .pushing vars batch := by
    simp [PushState.onRead, nonempty]
  have pushed : PushState.onPushed vars batch (.ok ()) =
      .advancing ⟨next, vars.pushedTotal + batch.entries.length, vars.batchLimit⟩ := by
    simp [PushState.onPushed, found, still]
  simp only [Function.iterate_succ, Function.iterate_zero, Function.comp_apply, id_eq, PushRun.step, answer,
    read, accepts, pushed, PushState.onSeqSet]

theorem PushRun.rejected {vars : PushVars} {store : LocalStore} {handed : List (List Entry)}
    {batch : PullBatch} {err : Error} (rejects : push batch.entries = .error err)
    (tooLarge : isPayloadTooLargeError err = true)
    (answer : readPushBatch store source vars.cursor vars.batchLimit = .ok batch)
    (nonempty : batch.entries ≠ []) (several : ¬ vars.batchLimit ≤ 1) :
    (PushRun.step peerId source push)^[2] ⟨store, .reading vars, handed⟩ =
      ⟨store, .reading { vars with batchLimit := halved vars.batchLimit }, handed ++ [batch.entries]⟩ := by
  have read : PushState.onRead vars (.ok batch) = .pushing vars batch := by
    simp [PushState.onRead, nonempty]
  have pushed : PushState.onPushed vars batch (.error err) =
      .reading { vars with batchLimit := halved vars.batchLimit } := by
    simp [PushState.onPushed, tooLarge, several]
  simp only [Function.iterate_succ, Function.iterate_zero, Function.comp_apply, id_eq, PushRun.step, answer,
    read, rejects, pushed]

/-! The whole session against a `push` that turns down only batches of several entries. -/

def TurnsDownOnlyLarge (push : List Entry → Except Error Unit) : Prop :=
  ∀ batch, push batch = .ok () ∨
    (1 < batch.length ∧ ∃ err, push batch = .error err ∧ isPayloadTooLargeError err = true)

def accepted (push : List Entry → Except Error Unit) (handed : List (List Entry)) : List (List Entry) :=
  handed.filter fun batch => (push batch).isOk

/-- The store once `peerId` has all of `rows`. -/
def pushedTo (store : LocalStore) (peerId : String) (rows : List IngestRow) : LocalStore :=
  match rows.getLast? with
  | none => store
  | some last => store.setLastPushedSeq peerId last.seq

theorem setLastPushedSeq_again (store : LocalStore) (peerId : String) (first second : Int) :
    (store.setLastPushedSeq peerId first).setLastPushedSeq peerId second =
      store.setLastPushedSeq peerId second := by
  simp [setLastPushedSeq]

theorem pushedTo_append {store : LocalStore} {peerId : String} {rows later : List IngestRow}
    {last : IngestRow} (ends : rows.getLast? = some last) :
    pushedTo (store.setLastPushedSeq peerId last.seq) peerId later =
      pushedTo store peerId (rows ++ later) := by
  unfold pushedTo
  rw [List.getLast?_append, ends]
  cases later.getLast? with
  | none => rfl
  | some final => exact setLastPushedSeq_again store peerId last.seq final.seq

namespace PushRun

theorem step_returned {run : PushRun} {result : Except Error Nat} (done : run.state = .returned result) :
    step peerId source push run = run := by
  simp [step, done]

theorem returned_unique {run : PushRun} {fuel fuel' : Nat} {result result' : Except Error Nat}
    (first : ((step peerId source push)^[fuel] run).state = .returned result)
    (second : ((step peerId source push)^[fuel'] run).state = .returned result') : result = result' := by
  have same := iterate_rest_unique rfl rfl (step_returned first) (step_returned second)
  rw [same, second] at first
  cases first
  rfl

/-- From here on the session hands over every row that it selects above its cursor, in order. -/
def Sends (peerId : String) (source : Option String) (push : List Entry → Except Error Unit)
    (store : LocalStore) (vars : PushVars) (handed : List (List Entry)) : Prop :=
  let ahead := store.entries.after (pushSelects source) vars.cursor
  ∃ fuel more, (step peerId source push)^[fuel] ⟨store, .reading vars, handed⟩ =
      ⟨pushedTo store peerId ahead, .returned (.ok (vars.pushedTotal + ahead.length)), handed ++ more⟩ ∧
    rowsOf (accepted push more).flatten = ahead.map Numbered.val ∧
    ∀ batch ∈ more, ∀ value ∈ rowsOf batch, pushSelects source value = true

def Breaks (peerId : String) (source : Option String) (push : List Entry → Except Error Unit)
    (store : LocalStore) (vars : PushVars) (handed : List (List Entry)) : Prop :=
  ∃ fuel err, ((step peerId source push)^[fuel] ⟨store, .reading vars, handed⟩).state = .returned (.error err)

variable {vars : PushVars} {store : LocalStore} {handed : List (List Entry)} {batch : PullBatch}

theorem sends_empty (answer : readPushBatch store source vars.cursor vars.batchLimit = .ok batch)
    (none : batch.entries = [])
    (empty : store.entries.after (pushSelects source) vars.cursor = []) :
    Sends peerId source push store vars handed := by
  unfold Sends
  rw [empty]
  refine ⟨1, [], ?_, rfl, fun _ listed => absurd listed List.not_mem_nil⟩
  simp [step, answer, PushState.onRead, none, pushedTo]

theorem batch_selected {limit : UInt64}
    (read : BatchOf (store.entries.page (pushSelects source) vars.cursor (asI64 limit)) batch) :
    ∀ value ∈ rowsOf batch.entries, pushSelects source value = true := by
  intro value listed
  rw [read.entries] at listed
  obtain ⟨row, member, rfl⟩ := List.mem_map.mp listed
  exact (NumberedTable.mem_page member).2.2

theorem sends_round {last : IngestRow} (accepts : push batch.entries = .ok ())
    (answer : readPushBatch store source vars.cursor vars.batchLimit = .ok batch)
    (ends : (store.entries.page (pushSelects source) vars.cursor (asI64 vars.batchLimit)).getLast? = some last)
    (found : batch.nextCursor = some last.seq) (nonempty : batch.entries ≠ [])
    (above : vars.cursor < last.seq)
    (sends : Sends peerId source push (store.setLastPushedSeq peerId last.seq)
      ⟨last.seq, vars.pushedTotal + batch.entries.length, vars.batchLimit⟩ (handed ++ [batch.entries])) :
    Sends peerId source push store vars handed := by
  have read := readPushBatch_of answer
  have split := NumberedTable.after_last ends
  have size : batch.entries.length =
      (store.entries.page (pushSelects source) vars.cursor (asI64 vars.batchLimit)).length := by
    have lengths := congrArg List.length read.entries
    rw [rowsOf, List.length_map, List.length_map] at lengths
    exact lengths
  obtain ⟨fuel, more, run, rows, own⟩ := sends
  refine ⟨fuel + 3, batch.entries :: more, ?_, ?_, ?_⟩
  · rw [Function.iterate_add_apply, round accepts answer nonempty found above, run, split,
      ← pushedTo_append ends, List.length_append, size, List.append_assoc, Nat.add_assoc]
    rfl
  · have first : accepted push (batch.entries :: more) = batch.entries :: accepted push more := by
      simp [accepted, accepts, Except.isOk, Except.toBool]
    rw [first, split, List.flatten_cons, rowsOf, List.map_append, List.map_append, ← read.entries]
    exact congrArg _ rows
  · intro other listed
    rcases List.mem_cons.mp listed with rfl | later
    · exact batch_selected read
    · exact own other later

theorem sends_halved {err : Error} (rejects : push batch.entries = .error err)
    (tooLarge : isPayloadTooLargeError err = true)
    (answer : readPushBatch store source vars.cursor vars.batchLimit = .ok batch)
    (nonempty : batch.entries ≠ []) (several : ¬ vars.batchLimit ≤ 1)
    (sends : Sends peerId source push store { vars with batchLimit := halved vars.batchLimit }
      (handed ++ [batch.entries])) :
    Sends peerId source push store vars handed := by
  obtain ⟨fuel, more, run, rows, own⟩ := sends
  refine ⟨fuel + 2, batch.entries :: more, ?_, ?_, ?_⟩
  · rw [Function.iterate_add_apply, rejected rejects tooLarge answer nonempty several, run,
      List.append_assoc]
    rfl
  · have skipped : accepted push (batch.entries :: more) = accepted push more := by
      simp [accepted, rejects, Except.isOk, Except.toBool]
    rw [skipped]
    exact rows
  · intro other listed
    rcases List.mem_cons.mp listed with rfl | later
    · exact batch_selected (readPushBatch_of answer)
    · exact own other later

theorem breaks_later {fuel : Nat} {store' : LocalStore} {vars' : PushVars} {handed' : List (List Entry)}
    (turned : (step peerId source push)^[fuel] ⟨store, .reading vars, handed⟩ =
      ⟨store', .reading vars', handed'⟩)
    (breaks : Breaks peerId source push store' vars' handed') :
    Breaks peerId source push store vars handed := by
  obtain ⟨more, err, final⟩ := breaks
  refine ⟨more + fuel, err, ?_⟩
  rw [Function.iterate_add_apply, turned]
  exact final

theorem several_entries {limit : UInt64} (positive : 1 ≤ limit)
    (read : BatchOf (store.entries.page (pushSelects source) vars.cursor (asI64 limit)) batch)
    (large : 1 < batch.entries.length) : ¬ limit ≤ 1 := by
  intro one
  obtain rfl : limit = 1 := UInt64.le_antisymm one positive
  have lengths := congrArg List.length read.entries
  rw [rowsOf, List.length_map, List.length_map] at lengths
  have page : (store.entries.page (pushSelects source) vars.cursor (asI64 1)).length ≤ 1 :=
    List.length_take_le 1 _
  omega

/-- The session hands over everything, or meets a row that it cannot read. -/
theorem sends_or_breaks (answers : TurnsDownOnlyLarge push) (limit : 1 ≤ vars.batchLimit) :
    ((∀ row ∈ store.entries.after (pushSelects source) vars.cursor, row.val.Readable) ∧
        Sends peerId source push store vars handed) ∨
      ((¬ ∀ row ∈ store.entries.after (pushSelects source) vars.cursor, row.val.Readable) ∧
        Breaks peerId source push store vars handed) := by
  -- on the rows still ahead of the cursor, and on the limit while they stay
  induction measure : remaining (store.entries.after (pushSelects source) vars.cursor) vars.batchLimit
    using Nat.strong_induction_on generalizing vars store handed with
  | _ size ih =>
    subst measure
    cases answer : readPushBatch store source vars.cursor vars.batchLimit with
    | error err =>
      refine Or.inr ⟨fun readable => ?_, 1, err, by simp [step, answer, PushState.onRead]⟩
      obtain ⟨batch, read⟩ := readPushBatch_readable.mpr fun row listed =>
        readable row ((limitRows_initial _ _).subset listed)
      cases answer.symm.trans read
    | ok batch =>
      have read := readPushBatch_of answer
      by_cases none : batch.entries = []
      · have empty := (limitRows_eq_nil (asI64_ne_zero limit)).mp (read.entries_nil.mp none)
        apply Or.inl
        apply And.intro _ (sends_empty answer none empty)
        rw [empty]
        exact fun row listed => absurd listed List.not_mem_nil
      rcases answers batch.entries with accepts | ⟨large, err, rejects, tooLarge⟩
      · obtain ⟨last, ends, found, above, shorter⟩ := read.page_last none
        have pageReadable := readPushBatch_readable.mp ⟨batch, answer⟩
        let later : PushVars := ⟨last.seq, vars.pushedTotal + batch.entries.length, vars.batchLimit⟩
        have rest := @ih _ (remaining_shorter shorter _) later (store.setLastPushedSeq peerId last.seq)
          (handed ++ [batch.entries]) limit rfl
        rw [NumberedTable.forall_after_last ends]
        rcases rest with ⟨readable, sends⟩ | ⟨unreadable, breaks⟩
        · exact Or.inl ⟨⟨pageReadable, readable⟩, sends_round accepts answer ends found none above sends⟩
        · exact Or.inr ⟨fun readable => unreadable readable.2,
            breaks_later (round accepts answer none found above) breaks⟩
      · have several := several_entries limit read large
        let later : PushVars := { vars with batchLimit := halved vars.batchLimit }
        have rest := @ih _ (remaining_halved several _) later store (handed ++ [batch.entries])
          (one_le_halved _) rfl
        rcases rest with ⟨readable, sends⟩ | ⟨unreadable, breaks⟩
        · exact Or.inl ⟨readable, sends_halved rejects tooLarge answer none several sends⟩
        · exact Or.inr ⟨unreadable, breaks_later (rejected rejects tooLarge answer none several) breaks⟩

end PushRun

theorem push_session_completes {store : LocalStore} {limit : UInt64} (positive : 1 ≤ limit)
    (accepts : ∀ batch, push batch = .ok ())
    (readable : ∀ row ∈ store.entries.rows, row.val.Readable) :
    ∃ fuel total, (syncPushToPeer fuel store peerId limit source push).state = .returned (.ok total) := by
  unfold syncPushToPeer
  rw [PushState.start_reading positive]
  have answers : TurnsDownOnlyLarge push := fun batch => Or.inl (accepts batch)
  let vars : PushVars := ⟨store.getLastPushedSeq peerId, 0, limit⟩
  have first : 1 ≤ vars.batchLimit := positive
  rcases @PushRun.sends_or_breaks peerId source push vars store [] answers first with
    ⟨-, fuel, more, run, -⟩ | ⟨unreadable, -⟩
  · exact ⟨fuel, _, congrArg PushRun.state run⟩
  · exact absurd (fun row ahead => readable row (NumberedTable.mem_after.mp ahead).1) unreadable

end

end Rustory
