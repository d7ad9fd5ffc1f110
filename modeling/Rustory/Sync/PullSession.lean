import Rustory.Foundations.Transition
import Rustory.Storage.Batch
import Rustory.Sync.Pull

namespace Rustory

open Foundations LocalStore

def PageFits (remote : LocalStore) (fits : PullBatch → Prop) (cursor : Int) (limit : UInt64) : Prop :=
  ∃ batch, remote.pullSinceCursor cursor limit = .ok batch ∧ fits batch

/-- Every reply of a walk through the remote store by pages of `limit` entries, the empty one at its
    end included. -/
def PagesFit (remote : LocalStore) (fits : PullBatch → Prop) (start : Int) (limit : UInt64) : Prop :=
  ∀ cursor, remote.entries.PageStart (fun _ => true) (asI64 limit) start cursor →
    PageFits remote fits cursor limit

/-- A pull that carries every reply that fits, and whose other errors do not ask for less. -/
structure CarriesWhatFits (remote : LocalStore) (fits : PullBatch → Prop)
    (pull : Int → UInt64 → Except Error PullBatch) : Prop where
  carries : ∀ cursor limit batch, remote.pullSinceCursor cursor limit = .ok batch → fits batch →
    pull cursor limit = .ok batch
  fails : ∀ cursor limit, ¬ PageFits remote fits cursor limit →
    ∃ err, pull cursor limit = .error err ∧ isPayloadTooLargeError err = false

/-- The session returns `Ok`, and then the store holds every remote entry above the cursor that the
    session began with. -/
def PullCompletes (store remote : LocalStore) (peerId : String) (limit : UInt64)
    (pull : Int → UInt64 → Except Error PullBatch) : Prop :=
  ∃ fuel stats after, syncPullFromPeer fuel store peerId limit pull = (after, .returned (.ok stats)) ∧
    ∀ row ∈ remote.entries.rows, store.getLastCursor peerId < row.seq → after.Holds row.val.entryId

section

variable {remote : LocalStore} {fits : PullBatch → Prop} {start : Int} {limit : UInt64}

theorem pagesFit_last (empty : remote.entries.page (fun _ => true) start (asI64 limit) = [])
    (page : PageFits remote fits start limit) : PagesFit remote fits start limit := by
  intro cursor visited
  rcases visited.cases_first with rfl | ⟨last, ends, -⟩
  · exact page
  · rw [empty] at ends
    cases ends

theorem pagesFit_next {last : IngestRow}
    (ends : (remote.entries.page (fun _ => true) start (asI64 limit)).getLast? = some last)
    (page : PageFits remote fits start limit) :
    PagesFit remote fits start limit ↔ PagesFit remote fits last.seq limit := by
  constructor
  · intro all cursor visited
    exact all cursor (visited.after_first ends)
  · intro later cursor visited
    rcases visited.cases_first with rfl | ⟨last', ends', rest⟩
    · exact page
    · rw [ends] at ends'
      cases ends'
      exact later cursor rest

end

section

variable {peerId : String} {pull : Int → UInt64 → Except Error PullBatch}

namespace PullState

theorem returned_unique {run : LocalStore × PullState} {fuel fuel' : Nat} {after after' : LocalStore}
    {result result' : Except Error PullStats}
    (first : (step peerId pull)^[fuel] run = (after, .returned result))
    (second : (step peerId pull)^[fuel'] run = (after', .returned result')) : result = result' := by
  have same := iterate_rest_unique first second rfl rfl
  cases same
  rfl

/-- Three steps take the session over one batch. -/
theorem turn (store : LocalStore) {vars : PullVars} {batch : PullBatch} {next : Int}
    (answer : pull vars.cursor vars.batchLimit = .ok batch) (nonempty : batch.entries ≠ [])
    (found : batch.nextCursor = some next) (advances : vars.cursor < next) :
    (step peerId pull)^[3] (store, .pulling vars) =
      ((store.inserted batch.entries).setLastCursor peerId next,
        .pulling ⟨next, vars.receivedTotal + batch.entries.length,
          vars.insertedTotal + (store.insertedStats batch.entries).inserted,
          vars.ignoredTotal + (store.insertedStats batch.entries).ignored, vars.batchLimit⟩) := by
  have still : ¬ next ≤ vars.cursor := by omega
  have read : onReply vars (.ok batch) = .inserting vars batch := by
    simp [onReply, nonempty]
  simp only [Function.iterate_succ, Function.iterate_zero, Function.comp_apply, id_eq, step, answer, read,
    insertEntriesWithStats_noFaults, onInserted, found, still, if_false, onCursorSet]

theorem turn_rejected (store : LocalStore) {vars : PullVars} {err : Error}
    (answer : pull vars.cursor vars.batchLimit = .error err) (tooLarge : isPayloadTooLargeError err = true)
    (several : ¬ vars.batchLimit ≤ 1) :
    (step peerId pull)^[1] (store, .pulling vars) =
      (store, .pulling { vars with batchLimit := halved vars.batchLimit }) := by
  simp [step, answer, onReply, tooLarge, several]

def Completes (peerId : String) (pull : Int → UInt64 → Except Error PullBatch) (table : EntriesTable)
    (store : LocalStore) (vars : PullVars) : Prop :=
  ∃ fuel stats after, (step peerId pull)^[fuel] (store, .pulling vars) = (after, .returned (.ok stats)) ∧
    (∀ id, store.Holds id → after.Holds id) ∧
    ∀ row ∈ table.rows, vars.cursor < row.seq → after.Holds row.val.entryId

def Breaks (peerId : String) (pull : Int → UInt64 → Except Error PullBatch) (store : LocalStore)
    (vars : PullVars) : Prop :=
  ∃ fuel err after, (step peerId pull)^[fuel] (store, .pulling vars) = (after, .returned (.error err))

variable {remote store : LocalStore} {vars later : PullVars} {batch : PullBatch} {last : IngestRow}

theorem completes_empty (carried : pull vars.cursor vars.batchLimit = .ok batch)
    (none : batch.entries = []) (limit : 1 ≤ vars.batchLimit)
    (empty : remote.entries.page (fun _ => true) vars.cursor (asI64 vars.batchLimit) = []) :
    Completes peerId pull remote.entries store vars := by
  refine ⟨1, ⟨vars.receivedTotal, vars.insertedTotal, vars.ignoredTotal⟩, store, ?_,
    fun _ held => held, ?_⟩
  · simp [step, carried, onReply, none]
  · intro row member above
    have below := NumberedTable.page_eq_nil (asI64_ne_zero limit) empty member rfl
    omega

theorem completes_later
    (turned : (step peerId pull)^[3] (store, .pulling vars) =
      ((store.inserted batch.entries).setLastCursor peerId last.seq, .pulling later))
    (read : BatchOf (remote.entries.page (fun _ => true) vars.cursor (asI64 vars.batchLimit)) batch)
    (ends : (remote.entries.page (fun _ => true) vars.cursor (asI64 vars.batchLimit)).getLast? = some last)
    (atLast : later.cursor = last.seq)
    (completes : Completes peerId pull remote.entries
      ((store.inserted batch.entries).setLastCursor peerId last.seq) later) :
    Completes peerId pull remote.entries store vars := by
  obtain ⟨fuel, stats, after, returned, keeps, adds⟩ := completes
  refine ⟨fuel + 3, stats, after, ?_, ?_, ?_⟩
  · rw [Function.iterate_add_apply, turned]
    exact returned
  · intro id held
    exact keeps id ((store.inserted_holds batch.entries id).mpr (Or.inl held))
  · intro row member above
    by_cases beyond : last.seq < row.seq
    · exact adds row member (by omega)
    · have listed := NumberedTable.page_complete ends member rfl above (by omega)
      obtain ⟨e, carried, same⟩ := read.mem listed
      apply keeps
      apply (store.inserted_holds batch.entries row.val.entryId).mpr
      exact Or.inr ⟨e, carried, congrArg EntryRow.entryId same⟩

theorem breaks_later {fuel : Nat} {after : LocalStore}
    (turned : (step peerId pull)^[fuel] (store, .pulling vars) = (after, .pulling later))
    (breaks : Breaks peerId pull after later) : Breaks peerId pull store vars := by
  obtain ⟨more, err, final, returned⟩ := breaks
  refine ⟨more + fuel, err, final, ?_⟩
  rw [Function.iterate_add_apply, turned]
  exact returned

/-- A walk either carries every page and ends with `Ok`, or meets a page that does not fit and ends
    with an error. -/
theorem completes_or_breaks {fits : PullBatch → Prop} (peerId : String) (store : LocalStore)
    (link : CarriesWhatFits remote fits pull)
    (limit : 1 ≤ vars.batchLimit) :
    (PagesFit remote fits vars.cursor vars.batchLimit ∧ Completes peerId pull remote.entries store vars) ∨
      (¬ PagesFit remote fits vars.cursor vars.batchLimit ∧ Breaks peerId pull store vars) := by
  -- on the number of remote rows above the cursor
  induction ahead : (remote.entries.after (fun _ => true) vars.cursor).length using
    Nat.strong_induction_on generalizing vars store with
  | _ count ih =>
    by_cases page : PageFits remote fits vars.cursor vars.batchLimit
    · obtain ⟨batch, answer, fit⟩ := id page
      have carried := link.carries _ _ _ answer fit
      have read := pullSinceCursor_of answer
      by_cases none : batch.entries = []
      · have empty := read.entries_nil.mp none
        exact Or.inl ⟨pagesFit_last empty page, completes_empty carried none limit empty⟩
      · obtain ⟨last, ends, found, above, shorter⟩ := read.page_last none
        have turned := @turn peerId pull store vars batch last.seq carried none found above
        let later : PullVars := ⟨last.seq, vars.receivedTotal + batch.entries.length,
          vars.insertedTotal + (store.insertedStats batch.entries).inserted,
          vars.ignoredTotal + (store.insertedStats batch.entries).ignored, vars.batchLimit⟩
        have fewer : (remote.entries.after (fun _ => true) later.cursor).length < count := by
          rw [← ahead]
          exact shorter
        rcases @ih _ fewer later _ limit rfl with ⟨fit, completes⟩ | ⟨large, breaks⟩
        · exact Or.inl ⟨(pagesFit_next ends page).mpr fit, completes_later turned read ends rfl completes⟩
        · exact Or.inr ⟨fun all => large ((pagesFit_next ends page).mp all), breaks_later turned breaks⟩
    · obtain ⟨err, failed, other⟩ := link.fails _ _ page
      apply Or.inr
      apply And.intro fun all => page (all _ .first)
      exact ⟨1, err, store, by simp [step, failed, onReply, other]⟩

end PullState

/-- A session over such a link completes exactly when every page of its first limit fits. -/
theorem pullCompletes_iff {store remote : LocalStore} {fits : PullBatch → Prop} {limit : UInt64}
    (positive : 1 ≤ limit) (link : CarriesWhatFits remote fits pull) :
    PullCompletes store remote peerId limit pull ↔
      PagesFit remote fits (store.getLastCursor peerId) limit := by
  unfold PullCompletes syncPullFromPeer
  rw [PullState.start_pulling positive]
  let vars : PullVars := ⟨store.getLastCursor peerId, 0, 0, 0, limit⟩
  have first : 1 ≤ vars.batchLimit := positive
  rcases PullState.completes_or_breaks peerId store link first with
    ⟨fit, fuel, stats, after, returned, -, adds⟩ | ⟨large, fuel, err, after, broken⟩
  · exact iff_of_true ⟨fuel, stats, after, returned, adds⟩ fit
  · apply iff_of_false _ large
    intro ⟨fuel', stats, after', returned, _⟩
    cases PullState.returned_unique returned broken

/-! Two pulls that agree wherever a session can get to. -/

structure AgreeOn (known : Int → Prop) (pull pull' : Int → UInt64 → Except Error PullBatch) : Prop where
  same : ∀ cursor limit, known cursor → pull cursor limit = pull' cursor limit
  next : ∀ cursor limit batch nextCursor, known cursor → pull cursor limit = .ok batch →
    batch.nextCursor = some nextCursor → known nextCursor

/-- The cursors that the session goes on from are known. -/
def PullState.Known (known : Int → Prop) : PullState → Prop
  | .pulling vars => known vars.cursor
  | .inserting _ batch => ∀ nextCursor, batch.nextCursor = some nextCursor → known nextCursor
  | .advancing _ nextCursor => known nextCursor
  | .returned _ => True

theorem AgreeOn.step {known : Int → Prop} {pull' : Int → UInt64 → Except Error PullBatch}
    (agree : AgreeOn known pull pull') (store : LocalStore) {state : PullState} (here : state.Known known) :
    PullState.step peerId pull (store, state) = PullState.step peerId pull' (store, state) ∧
      (PullState.step peerId pull (store, state)).2.Known known := by
  cases state with
  | pulling vars =>
    refine ⟨by simp only [PullState.step, agree.same _ _ here], ?_⟩
    simp only [PullState.step]
    cases next : PullState.onReply vars (pull vars.cursor vars.batchLimit) with
    | pulling later =>
      have cursor := (PullState.onReply_pulling next).1
      rw [PullState.Known, cursor]
      exact here
    | inserting later batch =>
      obtain ⟨-, answer, -⟩ := PullState.onReply_inserting next
      exact fun nextCursor found => agree.next _ _ _ _ here answer found
    | advancing later cursor => exact absurd next PullState.onReply_advancing
    | returned result => exact trivial
  | inserting vars batch =>
    refine ⟨rfl, ?_⟩
    simp only [PullState.step]
    rcases PullState.onInserted_cases vars batch (store.insertEntriesWithStats batch.entries).1 with
      ⟨err, ends⟩ | ⟨next, nextCursor, stats, goes, -, found, -⟩
    · rw [ends]
      exact trivial
    · rw [goes]
      exact here nextCursor found
  | advancing vars nextCursor => exact ⟨rfl, here⟩
  | returned result => exact ⟨rfl, trivial⟩

theorem AgreeOn.session {known : Int → Prop} {pull' : Int → UInt64 → Except Error PullBatch}
    (agree : AgreeOn known pull pull') {store : LocalStore} (start : known (store.getLastCursor peerId))
    (fuel : Nat) (limit : UInt64) :
    syncPullFromPeer fuel store peerId limit pull = syncPullFromPeer fuel store peerId limit pull' := by
  have first : (PullState.start limit (.ok (store.getLastCursor peerId))).Known known := by
    unfold PullState.start
    split
    · exact trivial
    · exact start
  have run : syncPullFromPeer fuel store peerId limit pull = syncPullFromPeer fuel store peerId limit pull' ∧
      (syncPullFromPeer fuel store peerId limit pull).2.Known known := by
    unfold syncPullFromPeer
    induction fuel with
    | zero => exact ⟨rfl, first⟩
    | succ fuel ih =>
      obtain ⟨same, here⟩ := ih
      rw [Function.iterate_succ_apply', Function.iterate_succ_apply', ← same]
      generalize (PullState.step peerId pull)^[fuel] (store, _) = now at here ⊢
      exact agree.step now.1 here
  exact run.1

theorem not_pullCompletes {store remote : LocalStore} {limit : UInt64} (positive : 1 ≤ limit)
    (fails : ∃ err, pull (store.getLastCursor peerId) limit = .error err ∧ isPayloadTooLargeError err = false) :
    ¬ PullCompletes store remote peerId limit pull := by
  obtain ⟨err, failed, other⟩ := fails
  unfold PullCompletes syncPullFromPeer
  rw [PullState.start_pulling positive]
  intro ⟨fuel, stats, after, returned, _⟩
  have broken : (PullState.step peerId pull)^[1] (store, .pulling ⟨store.getLastCursor peerId, 0, 0, 0, limit⟩) =
      (store, .returned (.error err)) := by
    simp [PullState.step, PullState.onReply, failed, other]
  cases PullState.returned_unique returned broken

end

end Rustory
