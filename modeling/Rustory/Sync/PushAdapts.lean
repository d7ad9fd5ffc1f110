import Rustory.Sync.PushQueue

namespace Rustory

open Foundations LocalStore

/-! A `push` that a size limit stands in the way of. -/

/-- What fits is sent; what does not is turned down as too large, at least while each entry alone would fit. -/
structure TakesWhatFits (offers fits : List Entry → Prop) (push : List Entry → Except Error Unit) : Prop where
  takes : ∀ batch, fits batch → push batch = .ok ()
  refuses : ∀ batch, offers batch → ¬ fits batch → ∃ err, push batch = .error err ∧
    ((∀ e ∈ batch, fits [e]) → isPayloadTooLargeError err = true)

/-- The batches that a session can read from the store. -/
def Offered (store : LocalStore) (source : Option String) (entries : List Entry) : Prop :=
  ∃ cursor limit batch, readPushBatch store source cursor limit = .ok batch ∧ batch.entries = entries

def FitsAlone (fits : List Entry → Prop) (row : EntryRow) : Prop :=
  ∃ e, rowToEntryWithOffset row 1 = .ok e ∧ fits [e]

/-- A batch that fits has only entries that fit. -/
def Entrywise (fits : List Entry → Prop) : Prop := ∀ batch, fits batch → ∀ e ∈ batch, fits [e]

theorem collectBatch_mem {rows : List IngestRow} {sofar batch : PullBatch}
    (collected : collectBatch rows sofar = .ok batch) {e : Entry} :
    e ∈ batch.entries ↔ e ∈ sofar.entries ∨ ∃ row ∈ rows, rowToEntryWithOffset row.val 1 = .ok e := by
  induction rows generalizing sofar with
  | nil =>
    cases collected
    simp
  | cons row rest ih =>
    simp only [collectBatch] at collected
    split at collected
    · cases collected
    · rename_i entry parsed
      simp [ih collected, parsed, or_assoc, eq_comm]

theorem readPushBatch_mem {store : LocalStore} {source : Option String} {cursor : Int} {limit : UInt64}
    {batch : PullBatch} (read : readPushBatch store source cursor limit = .ok batch) {e : Entry} :
    e ∈ batch.entries ↔
      ∃ row ∈ store.entries.page (pushSelects source) cursor (asI64 limit), rowToEntryWithOffset row.val 1 = .ok e := by
  have collected : collectBatch (store.entries.page (pushSelects source) cursor (asI64 limit)) ⟨[], none⟩ =
      .ok batch := by
    cases source <;> exact read
  simp [collectBatch_mem collected]

theorem readPushBatch_alone {store : LocalStore} {source : Option String} {cursor : Int} {limit : UInt64}
    {batch : PullBatch} {fits : List Entry → Prop} (read : readPushBatch store source cursor limit = .ok batch) :
    (∀ row ∈ store.entries.page (pushSelects source) cursor (asI64 limit), FitsAlone fits row.val) ↔
      ∀ e ∈ batch.entries, fits [e] := by
  constructor
  · intro alone e listed
    obtain ⟨row, member, parsed⟩ := (readPushBatch_mem read).mp listed
    obtain ⟨e', again, fit⟩ := alone row member
    cases parsed.symm.trans again
    exact fit
  · intro single row member
    have readable := readPushBatch_readable.mp ⟨batch, read⟩ row member
    obtain ⟨e, parsed⟩ := (@rowToEntry_readable row.val 1).mpr readable
    exact ⟨e, parsed, single e ((readPushBatch_mem read).mpr ⟨row, member, parsed⟩)⟩

section

variable {store : LocalStore} {peerId : String} {source : Option String} {limit : UInt64}
  {offers fits : List Entry → Prop} {push : List Entry → Except Error Unit}

namespace PushRun

variable {vars : PushVars} {handed : List (List Entry)} {batch : PullBatch}

def AheadFits (fits : List Entry → Prop) (source : Option String) (store : LocalStore) (vars : PushVars) : Prop :=
  ∀ row ∈ store.entries.after (pushSelects source) vars.cursor, FitsAlone fits row.val

theorem AheadFits.entries (ahead : AheadFits fits source store vars)
    (read : readPushBatch store source vars.cursor vars.batchLimit = .ok batch) : ∀ e ∈ batch.entries, fits [e] :=
  (readPushBatch_alone read).mp fun row listed => ahead row ((limitRows_initial _ _).subset listed)

theorem one_entry {limit : UInt64} (positive : 1 ≤ limit) (one : limit ≤ 1)
    (read : BatchOf (store.entries.page (pushSelects source) vars.cursor (asI64 limit)) batch)
    (nonempty : batch.entries ≠ []) : ∃ e, batch.entries = [e] := by
  apply List.length_eq_one_iff.mp
  have some_entry := List.length_pos_iff.mpr nonempty
  by_contra several
  exact several_entries positive read (by omega) one

/-- A batch that does not fit ends the session, unless it is halved. -/
theorem refused (answers : TakesWhatFits offers fits push) (offered : offers batch.entries) (positive : 1 ≤ vars.batchLimit)
    (read : readPushBatch store source vars.cursor vars.batchLimit = .ok batch) (nonempty : batch.entries ≠ [])
    (unfit : ¬ fits batch.entries) :
    (¬ vars.batchLimit ≤ 1 ∧ ∃ err, push batch.entries = .error err ∧ isPayloadTooLargeError err = true) ∨
      (¬ AheadFits fits source store vars ∧ Breaks peerId source push store vars handed) := by
  obtain ⟨err, rejects, tooLarge⟩ := answers.refuses batch.entries offered unfit
  have turned : PushState.onRead vars (.ok batch) = .pushing vars batch := by simp [PushState.onRead, nonempty]
  by_cases large : isPayloadTooLargeError err = true
  · by_cases one : vars.batchLimit ≤ 1
    · apply Or.inr
      obtain ⟨e, single⟩ := one_entry positive one (readPushBatch_of read) nonempty
      constructor
      · intro ahead
        rw [single] at unfit
        exact unfit (ahead.entries read e (by simp [single]))
      · refine ⟨2, err.context "push batch too large even with limit=1", ?_⟩
        simp only [Function.iterate_succ, Function.iterate_zero, Function.comp_apply, id_eq, step, read, turned,
          rejects, PushState.onPushed, large, one, if_true]
    · exact Or.inl ⟨one, err, rejects, large⟩
  · apply Or.inr
    constructor
    · exact fun ahead => large (tooLarge (ahead.entries read))
    · refine ⟨2, err, ?_⟩
      simp only [Function.iterate_succ, Function.iterate_zero, Function.comp_apply, id_eq, step, read, turned,
        rejects, PushState.onPushed, large, if_false, Bool.false_eq_true]

/-- The session sends everything, or meets an entry that does not fit by itself. -/
theorem adapts_or_breaks (answers : TakesWhatFits offers fits push) (offered : Offered store source ≤ offers)
    (positive : 1 ≤ vars.batchLimit) :
    ((Entrywise fits → AheadFits fits source store vars) ∧ Sends peerId source push store vars handed) ∨
      (¬ AheadFits fits source store vars ∧ Breaks peerId source push store vars handed) := by
  -- on the rows still ahead of the cursor, and on the limit while they stay
  induction measure : remaining (store.entries.after (pushSelects source) vars.cursor) vars.batchLimit
    using Nat.strong_induction_on generalizing vars store handed with
  | _ size ih =>
    subst measure
    cases read : readPushBatch store source vars.cursor vars.batchLimit with
    | error err =>
      refine Or.inr ⟨fun ahead => ?_, 1, err, by simp [step, read, PushState.onRead]⟩
      have readable : ∃ batch, readPushBatch store source vars.cursor vars.batchLimit = .ok batch := by
        apply readPushBatch_readable.mpr
        intro row listed
        obtain ⟨e, parsed, -⟩ := ahead row ((limitRows_initial _ _).subset listed)
        exact rowToEntry_readable.mp ⟨e, parsed⟩
      obtain ⟨batch, done⟩ := readable
      cases read.symm.trans done
    | ok batch =>
      by_cases none : batch.entries = []
      · have empty := (limitRows_eq_nil (asI64_ne_zero positive)).mp ((readPushBatch_of read).entries_nil.mp none)
        apply Or.inl
        apply And.intro _ (sends_empty read none empty)
        intro _ row ahead
        rw [empty] at ahead
        cases ahead
      by_cases fit : fits batch.entries
      · have accepts := answers.takes batch.entries fit
        obtain ⟨last, ends, found, above, shorter⟩ := (readPushBatch_of read).page_last none
        let later : PushVars := ⟨last.seq, vars.pushedTotal + batch.entries.length, vars.batchLimit⟩
        have rest := @ih _ (remaining_shorter shorter _) (store.setLastPushedSeq peerId last.seq) later
          (handed ++ [batch.entries]) offered positive rfl
        have split : AheadFits fits source store vars ↔
            (∀ e ∈ batch.entries, fits [e]) ∧ AheadFits fits source (store.setLastPushedSeq peerId last.seq) later := by
          rw [← readPushBatch_alone read]
          exact NumberedTable.forall_after_last ends
        rw [split]
        rcases rest with ⟨ahead, sends⟩ | ⟨unfit, breaks⟩
        · exact Or.inl ⟨fun entrywise => ⟨entrywise _ fit, ahead entrywise⟩,
            sends_round accepts read ends found none above sends⟩
        · exact Or.inr ⟨fun ahead => unfit ahead.2, breaks_later (round accepts read none found above) breaks⟩
      · rcases refused answers (offered _ ⟨_, _, _, read, rfl⟩) positive read none fit with ⟨several, err, rejects, large⟩ | broken
        · let later : PushVars := { vars with batchLimit := halved vars.batchLimit }
          have rest := @ih _ (remaining_halved several _) store later (handed ++ [batch.entries])
            offered (one_le_halved _) rfl
          rcases rest with ⟨ahead, sends⟩ | ⟨unfit, breaks⟩
          · exact Or.inl ⟨ahead, sends_halved rejects large read none several sends⟩
          · exact Or.inr ⟨unfit, breaks_later (rejected rejects large read none several) breaks⟩
        · exact Or.inr broken

end PushRun

end

/-! The session together with the peer that its `push` changes. -/

structure PushExchange (ρ : Type*) where
  run : PushRun
  remote : ρ

def PushExchange.step {ρ : Type*} (peerId : String) (source : Option String)
    (push : ρ → List Entry → Except Error Unit × ρ) (exchange : PushExchange ρ) : PushExchange ρ where
  run := exchange.run.step peerId source fun batch => (push exchange.remote batch).1
  remote :=
    match exchange.run.state with
    | .pushing _ batch => (push exchange.remote batch.entries).2
    | _ => exchange.remote

/-- `sync_push_to_peer` with a `push` that changes `remote`, cut off after `fuel` steps. -/
def syncPushToRemote {ρ : Type*} (fuel : Nat) (store : LocalStore) (remote : ρ) (peerId : String) (limit : UInt64)
    (source : Option String) (push : ρ → List Entry → Except Error Unit × ρ) : PushExchange ρ :=
  (PushExchange.step peerId source push)^[fuel] ⟨⟨store, .start limit (.ok (store.getLastPushedSeq peerId)), []⟩, remote⟩

/-- The peer's answers do not depend on its store, which takes the batches that it accepts. -/
structure Takes (answer : List Entry → Except Error Unit)
    (push : LocalStore → List Entry → Except Error Unit × LocalStore) : Prop where
  answers : ∀ remote batch, (push remote batch).1 = answer batch
  stores : ∀ remote batch, answer batch = .ok () → (push remote batch).2 = remote.inserted batch
  keeps : ∀ remote batch err, answer batch = .error err → (push remote batch).2 = remote

/-- The peer's store once it has taken what was pending for it, in order. -/
def withPending (remote store : LocalStore) (peerId : String) (source : Option String) : LocalStore :=
  { remote with entries := (remote.entries.insertAll ((pendingRows store peerId source).map Numbered.val)).1 }

/-- A session that is over: it has sent what was pending, and the peer has it. -/
structure PushExchange.Complete (exchange : PushExchange LocalStore) (store remote : LocalStore) (peerId : String)
    (source : Option String) : Prop where
  returned : exchange.run.state = .returned (.ok (store.countPendingPushEntries peerId source))
  local_ : exchange.run.store = pushedTo store peerId (pendingRows store peerId source)
  emptied : exchange.run.store.countPendingPushEntries peerId source = 0
  remote : exchange.remote = withPending remote store peerId source

def DeliversPending (store remote : LocalStore) (peerId : String) (source : Option String) (limit : UInt64)
    (push : LocalStore → List Entry → Except Error Unit × LocalStore) : Prop :=
  ∃ fuel, (syncPushToRemote fuel store remote peerId limit source push).Complete store remote peerId source

section

variable {store remote : LocalStore} {peerId : String} {source : Option String} {limit : UInt64}
  {fits : List Entry → Prop} {answer : List Entry → Except Error Unit}
  {push : LocalStore → List Entry → Except Error Unit × LocalStore}

theorem Takes.taken (takes : Takes answer push) (remote : LocalStore) (batch : List Entry) :
    (push remote batch).2 = remote.inserted (accepted answer [batch]).flatten := by
  cases outcome : answer batch with
  | ok done =>
    have whole : accepted answer [batch] = [batch] := by simp [accepted, outcome, Except.isOk, Except.toBool]
    rw [takes.stores remote batch outcome, whole, List.flatten_singleton]
  | error err =>
    have none : accepted answer [batch] = [] := by simp [accepted, outcome, Except.isOk, Except.toBool]
    rw [takes.keeps remote batch err outcome, none]
    rfl

theorem syncPushToRemote_eq (takes : Takes answer push) (fuel : Nat) (run : PushRun) (old : run.handed = []) :
    (PushExchange.step peerId source push)^[fuel] ⟨run, remote⟩ =
      ⟨(PushRun.step peerId source answer)^[fuel] run,
        remote.inserted (accepted answer ((PushRun.step peerId source answer)^[fuel] run).handed).flatten⟩ := by
  have answers : ∀ here : LocalStore, (fun batch => (push here batch).1) = answer :=
    fun here => funext (takes.answers here)
  induction fuel with
  | zero =>
    simp only [Function.iterate_zero, id_eq, old]
    rfl
  | succ fuel ih =>
    rw [Function.iterate_succ_apply', Function.iterate_succ_apply', ih]
    generalize (PushRun.step peerId source answer)^[fuel] run = now
    obtain ⟨here, state, handed⟩ := now
    simp only [PushExchange.step, answers]
    cases state with
    | pushing vars batch =>
      simp only [PushRun.step, takes.taken, inserted_append, accepted, List.filter_append, List.flatten_append]
    | reading vars => rfl
    | advancing vars => rfl
    | returned result => rfl

theorem inserted_of_rows {entries : List Entry} {values : List EntryRow} (same : rowsOf entries = values)
    (remote : LocalStore) : remote.inserted entries =
      { remote with entries := (remote.entries.insertAll values).1 } := by
  rw [← same]
  rfl

/-- Whoever takes all that the peer has takes what was pending for it. -/
theorem withPending_reaches {other after : LocalStore} {key : String} (new : other.getLastCursorOpt key = none)
    (adds : ∀ row ∈ (withPending remote store peerId source).entries.rows, other.getLastCursor key < row.seq →
      after.Holds row.val.entryId) :
    ∀ row ∈ pendingRows store peerId source, after.Holds row.val.entryId := by
  intro row pending
  have held : (withPending remote store peerId source).Holds row.val.entryId :=
    (remote.entries.insertAll_holds _ _).mpr (Or.inr ⟨row.val, List.mem_map_of_mem pending, rfl⟩)
  obtain ⟨row', listed, same⟩ := held
  rw [← same]
  apply adds row' listed
  unfold getLastCursor
  rw [new]
  exact ((withPending remote store peerId source).entries.numbered row' listed).1

/-- The halving works: a session delivers everything when each pending entry alone fits, and only then where
    what fits consists of entries that fit. -/
theorem push_delivers (takes : Takes answer push) (sizes : TakesWhatFits (Offered store source) fits answer)
    (positive : 1 ≤ limit) :
    ((∀ row ∈ pendingRows store peerId source, FitsAlone fits row.val) →
        DeliversPending store remote peerId source limit push) ∧
      (Entrywise fits → DeliversPending store remote peerId source limit push →
        ∀ row ∈ pendingRows store peerId source, FitsAlone fits row.val) := by
  let vars : PushVars := ⟨store.getLastPushedSeq peerId, 0, limit⟩
  have first : 1 ≤ vars.batchLimit := positive
  have start : PushState.start limit (.ok (store.getLastPushedSeq peerId)) = .reading vars :=
    PushState.start_reading positive _
  have exchange : ∀ fuel, syncPushToRemote fuel store remote peerId limit source push = _ :=
    fun fuel => syncPushToRemote_eq takes fuel _ rfl
  rw [start] at exchange
  rcases @PushRun.adapts_or_breaks store peerId source _ fits answer vars [] sizes (fun _ => id) first with
    ⟨ahead, fuel, more, run, rows, -⟩ | ⟨unfit, fuel, err, broken⟩
  · refine ⟨fun _ => ⟨fuel, ?_⟩, fun entrywise _ => ahead entrywise⟩
    rw [exchange, run]
    refine ⟨?_, rfl, pushedTo_emptied, inserted_of_rows rows remote⟩
    rw [countPendingPushEntries_eq, Nat.zero_add]
    rfl
  · refine ⟨fun fit => absurd fit unfit, ?_⟩
    rintro - ⟨fuel', complete⟩
    have returned := complete.returned
    rw [exchange] at returned
    cases PushRun.returned_unique returned broken

end

end Rustory
