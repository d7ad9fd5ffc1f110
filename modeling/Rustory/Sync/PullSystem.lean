import Mathlib.Logic.Function.Basic
import Rustory.Foundations.Transition
import Rustory.Storage.Batch
import Rustory.Storage.Prune
import Rustory.Sync.Pull

namespace Rustory

open Foundations LocalStore

structure PullWorld (ι : Type*) where
  remote : LocalStore
  localStore : LocalStore
  sessions : ι → Option PullState

inductive PullAction (ι : Type*)
  | remoteWrite
  | localWrite
  | start (session : ι) (limit : UInt64)
  | reply (session : ι)
  | insert (session : ι)
  | setCursor (session : ι)
  | crash (session : ι)

section

variable {ι : Type*} [DecidableEq ι]

def PullWorld.setSession (w : PullWorld ι) (i : ι) (state : Option PullState) : PullWorld ι :=
  { w with sessions := Function.update w.sessions i state }

/-- Single steps. A prune of the remote appears as its `DELETE`, with whatever floors it read;
    the peer tables of either store may change as long as the cursor under `key` stays. A reply
    is what `pull_since_cursor` answers, or any error. -/
inductive PullStep (key : String) : PullWorld ι → PullAction ι → PullWorld ι → Prop
  | remoteInsert (w : PullWorld ι) (entries : List Entry) (faults : TxFaults) :
      PullStep key w .remoteWrite
        { w with remote := (w.remote.insertEntriesWithStats entries faults).2 }
  | remotePrune (w : PullWorld ι) (cutoffUnix : Int) (keepFloor pushedFloor : Option Int) :
      PullStep key w .remoteWrite
        { w with remote := (w.remote.pruneDelete (pruneSelects cutoffUnix keepFloor pushedFloor)).1 }
  | remotePeers (w : PullWorld ι) (remote : LocalStore) :
      remote.entries = w.remote.entries → PullStep key w .remoteWrite { w with remote := remote }
  | localInsert (w : PullWorld ι) (entries : List Entry) (faults : TxFaults) :
      PullStep key w .localWrite
        { w with localStore := (w.localStore.insertEntriesWithStats entries faults).2 }
  | localPeers (w : PullWorld ι) (store : LocalStore) :
      store.entries = w.localStore.entries →
      store.getLastCursorOpt key = w.localStore.getLastCursorOpt key →
      PullStep key w .localWrite { w with localStore := store }
  | start (w : PullWorld ι) (i : ι) (limit : UInt64) (lastCursor : Except Error Int) :
      w.sessions i = none → 1 ≤ limit →
      (∀ cursor, lastCursor = .ok cursor → cursor = w.localStore.getLastCursor key) →
      PullStep key w (.start i limit) (w.setSession i (some (.start limit lastCursor)))
  | reply (w : PullWorld ι) (i : ι) (vars : PullVars) (reply : Except Error PullBatch) :
      w.sessions i = some (.pulling vars) →
      (∀ batch, reply = .ok batch →
        w.remote.pullSinceCursor vars.cursor vars.batchLimit = .ok batch) →
      PullStep key w (.reply i) (w.setSession i (some (.onReply vars reply)))
  | insert (w : PullWorld ι) (i : ι) (vars : PullVars) (batch : PullBatch) (faults : TxFaults)
      (result : Except Error InsertStats) (store : LocalStore) :
      w.sessions i = some (.inserting vars batch) →
      w.localStore.insertEntriesWithStats batch.entries faults = (result, store) →
      PullStep key w (.insert i)
        ({ w with localStore := store }.setSession i (some (.onInserted vars batch result)))
  | setCursor (w : PullWorld ι) (i : ι) (vars : PullVars) (nextCursor : Int) :
      w.sessions i = some (.advancing vars nextCursor) →
      PullStep key w (.setCursor i)
        ({ w with localStore := w.localStore.setLastCursor key nextCursor }.setSession i
          (some (.onCursorSet vars nextCursor (.ok ()))))
  | setCursorFails (w : PullWorld ι) (i : ι) (vars : PullVars) (nextCursor : Int) (err : Error) :
      w.sessions i = some (.advancing vars nextCursor) →
      PullStep key w (.setCursor i)
        (w.setSession i (some (.onCursorSet vars nextCursor (.error err))))
  | crash (w : PullWorld ι) (i : ι) : PullStep key w (.crash i) (w.setSession i none)

structure PullInitial (key : String) (w : PullWorld ι) : Prop where
  cursor : w.localStore.getLastCursorOpt key = none
  sessions : ∀ i, w.sessions i = none

/-! The invariant: every cursor, persisted or private, only covers rows the local store has. -/

end

section

variable {ι : Type*}

def CaughtUp (w : PullWorld ι) (cursor : Int) : Prop :=
  cursor ≤ w.remote.entries.sequence ∧
    w.remote.entries.Covers (fun _ => true) (fun row => w.localStore.Holds row.entryId) cursor

def SessionCaughtUp (w : PullWorld ι) : PullState → Prop
  | .pulling vars => 1 ≤ vars.batchLimit ∧ CaughtUp w vars.cursor
  | .inserting vars batch =>
    1 ≤ vars.batchLimit ∧ ∀ nextCursor, batch.nextCursor = some nextCursor →
      nextCursor ≤ w.remote.entries.sequence ∧
      w.remote.entries.Covers (fun _ => true)
        (fun row => w.localStore.Holds row.entryId ∨ ∃ e ∈ batch.entries, e.entryId = row.entryId)
        nextCursor
  | .advancing vars nextCursor => 1 ≤ vars.batchLimit ∧ CaughtUp w nextCursor
  | .returned _ => True

structure PullInv (key : String) (w : PullWorld ι) : Prop where
  persisted : CaughtUp w (w.localStore.getLastCursor key)
  sessions : ∀ i state, w.sessions i = some state → SessionCaughtUp w state

theorem PullInitial.inv {key : String} {w : PullWorld ι} (init : PullInitial key w) : PullInv key w := by
  refine ⟨?_, fun i state running => ?_⟩
  · have zero : w.localStore.getLastCursor key = 0 := by simp [getLastCursor, init.cursor]
    rw [zero]
    exact ⟨w.remote.entries.nonneg, NumberedTable.covers_zero _ _ _ le_rfl⟩
  · rw [init.sessions i] at running
    cases running

section Frame

variable {key : String} {w after : PullWorld ι}

theorem CaughtUp.frame {cursor : Int} (h : CaughtUp w cursor)
    (remote : w.remote.entries.Evolves after.remote.entries)
    (grows : ∀ id, w.localStore.Holds id → after.localStore.Holds id) : CaughtUp after cursor :=
  ⟨h.1.trans remote.sequence, (h.2.evolve remote h.1).mono fun row => grows row.entryId⟩

theorem SessionCaughtUp.frame {state : PullState} (h : SessionCaughtUp w state)
    (remote : w.remote.entries.Evolves after.remote.entries)
    (grows : ∀ id, w.localStore.Holds id → after.localStore.Holds id) :
    SessionCaughtUp after state := by
  cases state with
  | pulling vars => exact ⟨h.1, h.2.frame remote grows⟩
  | inserting vars batch =>
    refine ⟨h.1, fun nextCursor next => ?_⟩
    obtain ⟨bound, covers⟩ := h.2 nextCursor next
    refine ⟨bound.trans remote.sequence, (covers.evolve remote bound).mono fun row => ?_⟩
    exact Or.imp_left (grows row.entryId)
  | advancing vars nextCursor => exact ⟨h.1, h.2.frame remote grows⟩
  | returned result => exact trivial

theorem PullInv.frame (inv : PullInv key w) (remote : w.remote.entries.Evolves after.remote.entries)
    (grows : ∀ id, w.localStore.Holds id → after.localStore.Holds id)
    (cursor : after.localStore.getLastCursor key = w.localStore.getLastCursor key)
    (sessions : after.sessions = w.sessions) : PullInv key after := by
  refine ⟨?_, fun i state running => ?_⟩
  · rw [cursor]
    exact inv.persisted.frame remote grows
  · rw [sessions] at running
    exact (inv.sessions i state running).frame remote grows

end Frame

theorem CaughtUp.complete {w : PullWorld ι} {vars : PullVars} {batch : PullBatch}
    (h : CaughtUp w vars.cursor) (limit : 1 ≤ vars.batchLimit)
    (reply : w.remote.pullSinceCursor vars.cursor vars.batchLimit = .ok batch)
    (empty : batch.entries = []) {row : IngestRow} (member : row ∈ w.remote.entries.rows) :
    w.localStore.Holds row.val.entryId :=
  h.2.complete (asI64_ne_zero limit) ((pullSinceCursor_of reply).entries_nil.mp empty) member rfl

theorem SessionCaughtUp.onReply {w : PullWorld ι} {vars : PullVars} {reply : Except Error PullBatch}
    (h : SessionCaughtUp w (.pulling vars))
    (answer : ∀ batch, reply = .ok batch →
      w.remote.pullSinceCursor vars.cursor vars.batchLimit = .ok batch) :
    SessionCaughtUp w (.onReply vars reply) := by
  cases state : PullState.onReply vars reply with
  | pulling next =>
    obtain ⟨cursor, limit⟩ := PullState.onReply_pulling state
    refine ⟨?_, ?_⟩
    · rw [limit]
      exact one_le_halved _
    · rw [cursor]
      exact h.2
  | inserting next batch =>
    obtain ⟨rfl, rfl, nonempty⟩ := PullState.onReply_inserting state
    refine ⟨h.1, fun nextCursor found => ?_⟩
    have read := pullSinceCursor_of (answer batch rfl)
    obtain ⟨last, ends, rfl⟩ := read.nextCursor_some found
    have held := (NumberedTable.mem_page (List.mem_of_getLast? ends)).1
    refine ⟨(w.remote.entries.numbered last held).2, ?_⟩
    refine (h.2.2.mono fun row => Or.inl).page ends fun row member => Or.inr ?_
    obtain ⟨e, listed, written⟩ := read.mem member
    exact ⟨e, listed, by rw [← written, Entry.toRow]⟩
  | advancing next cursor => exact absurd state PullState.onReply_advancing
  | returned result => exact trivial

theorem SessionCaughtUp.onInserted {w : PullWorld ι} {vars : PullVars} {batch : PullBatch}
    {faults : TxFaults} {result : Except Error InsertStats} {store : LocalStore}
    (h : SessionCaughtUp w (.inserting vars batch))
    (committed : w.localStore.insertEntriesWithStats batch.entries faults = (result, store)) :
    SessionCaughtUp { w with localStore := store } (.onInserted vars batch result) := by
  rcases PullState.onInserted_cases vars batch result with ⟨err, state⟩ | advanced
  · rw [state]
    exact trivial
  · obtain ⟨next, nextCursor, stats, state, rfl, found, -, limit⟩ := advanced
    obtain ⟨-, rfl⟩ := insertEntriesWithStats_ok committed
    obtain ⟨bound, covers⟩ := h.2 nextCursor found
    rw [state]
    refine ⟨by rw [limit]; exact h.1, bound, covers.mono fun row seen => ?_⟩
    exact (inserted_holds _ _ _).mpr seen

variable [DecidableEq ι]

theorem PullInv.setSession {key : String} {w : PullWorld ι} (inv : PullInv key w) (i : ι)
    (state : Option PullState) (ok : ∀ s, state = some s → SessionCaughtUp w s) :
    PullInv key (w.setSession i state) := by
  refine ⟨inv.persisted, fun j s running => ?_⟩
  simp only [PullWorld.setSession] at running
  by_cases same : j = i
  · subst same
    rw [Function.update_self] at running
    exact ok s running
  · rw [Function.update_of_ne same] at running
    exact inv.sessions j s running

theorem PullInv.setSession_some {key : String} {w : PullWorld ι} (inv : PullInv key w) (i : ι)
    {state : PullState} (ok : SessionCaughtUp w state) : PullInv key (w.setSession i (some state)) :=
  inv.setSession i (some state) (fun _ h => Option.some.inj h ▸ ok)

theorem getLastCursor_setLastCursor (store : LocalStore) (key : String) (cursor : Int) :
    (store.setLastCursor key cursor).getLastCursor key = cursor := by
  simp [getLastCursor, getLastCursorOpt, setLastCursor, AList.lookup_insert]

theorem PullInv.step {key : String} {w after : PullWorld ι} {action : PullAction ι}
    (inv : PullInv key w) (step : PullStep key w action after) : PullInv key after := by
  cases step with
  | remoteInsert entries faults =>
    exact inv.frame (insertEntriesWithStats_evolves _ _ _) (fun _ => id) rfl rfl
  | remotePrune cutoffUnix keepFloor pushedFloor =>
    exact inv.frame (pruneDelete_evolves _ _) (fun _ => id) rfl rfl
  | remotePeers remote same =>
    exact inv.frame (by rw [same]; exact .refl _) (fun _ => id) rfl rfl
  | localInsert entries faults =>
    refine inv.frame (.refl _) (fun id => insertEntriesWithStats_holds) ?_ rfl
    simp [getLastCursor, getLastCursorOpt]
  | localPeers store same cursor =>
    refine inv.frame (.refl _) (fun id held => ?_) ?_ rfl
    · rw [Holds, same]
      exact held
    · simp only [getLastCursor, cursor]
  | start i limit lastCursor idle positive read =>
    refine inv.setSession_some i ?_
    unfold PullState.start
    split
    · exact trivial
    split
    · exact trivial
    · rename_i cursor
      exact ⟨positive, by rw [read cursor rfl]; exact inv.persisted⟩
  | reply i vars reply at_pull answer =>
    exact inv.setSession_some i ((inv.sessions i _ at_pull).onReply answer)
  | insert i vars batch faults result store at_insert committed =>
    have stored : store = (w.localStore.insertEntriesWithStats batch.entries faults).2 := by
      rw [committed]
    have framed : PullInv key { w with localStore := store } := by
      refine inv.frame (.refl _) (fun id held => ?_) ?_ rfl
      · rw [stored]
        exact insertEntriesWithStats_holds held
      · simp [stored, getLastCursor, getLastCursorOpt]
    exact framed.setSession_some i ((inv.sessions i _ at_insert).onInserted committed)
  | setCursor i vars nextCursor at_advance =>
    obtain ⟨limit, caught⟩ := inv.sessions i _ at_advance
    have framed : PullInv key { w with localStore := w.localStore.setLastCursor key nextCursor } := by
      refine ⟨?_, fun j state running => (inv.sessions j state running).frame (.refl _) fun _ => id⟩
      rw [getLastCursor_setLastCursor]
      exact caught.frame (.refl _) fun _ => id
    exact framed.setSession_some i ⟨limit, caught.frame (.refl _) fun _ => id⟩
  | setCursorFails i vars nextCursor err at_advance => exact inv.setSession_some i trivial
  | crash i =>
    apply inv.setSession i none
    intro session none
    cases none

theorem pull_returns_ok {key : String} {w after : PullWorld ι} {action : PullAction ι} {i : ι}
    {stats : PullStats} (step : PullStep key w action after)
    (running : w.sessions i ≠ some (.returned (.ok stats)))
    (ends : after.sessions i = some (.returned (.ok stats))) :
    action = .reply i ∧ after.localStore = w.localStore ∧ ∃ vars batch,
      w.sessions i = some (.pulling vars) ∧
      w.remote.pullSinceCursor vars.cursor vars.batchLimit = .ok batch ∧ batch.entries = [] := by
  have other : ∀ {j : ι} {state : Option PullState} {v : PullWorld ι}, v.sessions = w.sessions →
      (v.setSession j state).sessions i = some (.returned (.ok stats)) →
      j = i ∧ state = some (.returned (.ok stats)) := by
    intro j state v same changed
    simp only [PullWorld.setSession, same] at changed
    by_cases eq : i = j
    · subst eq
      rw [Function.update_self] at changed
      exact ⟨rfl, changed⟩
    · rw [Function.update_of_ne eq] at changed
      exact absurd changed running
  cases step with
  | remoteInsert | remotePrune | remotePeers | localInsert | localPeers => exact absurd ends running
  | start j limit lastCursor idle positive read =>
    obtain ⟨-, state⟩ := other rfl ends
    unfold PullState.start at state
    split at state
    · rename_i zero
      exact absurd zero (limit_ne_zero positive)
    · split at state <;> cases state
  | reply j vars reply at_pull answer =>
    obtain ⟨rfl, state⟩ := other rfl ends
    obtain ⟨batch, rfl, empty⟩ := PullState.onReply_returned_ok (Option.some.inj state)
    exact ⟨rfl, rfl, vars, batch, at_pull, answer batch rfl, empty⟩
  | insert j vars batch faults result store at_insert committed =>
    obtain ⟨-, state⟩ := other rfl ends
    rcases PullState.onInserted_cases vars batch result with ⟨err, failed⟩ | ⟨_, _, _, advanced, -⟩
    · rw [failed] at state
      cases state
    · rw [advanced] at state
      cases state
  | setCursor j vars nextCursor at_advance =>
    obtain ⟨-, state⟩ := other rfl ends
    cases state
  | setCursorFails j vars nextCursor err at_advance =>
    obtain ⟨-, state⟩ := other rfl ends
    cases state
  | crash j =>
    obtain ⟨-, state⟩ := other rfl ends
    cases state

theorem PullInv.returns_ok {key : String} {w after : PullWorld ι} {action : PullAction ι} {i : ι}
    {stats : PullStats} (inv : PullInv key w) (step : PullStep key w action after)
    (running : w.sessions i ≠ some (.returned (.ok stats)))
    (ends : after.sessions i = some (.returned (.ok stats))) :
    action = .reply i ∧ ∀ row ∈ w.remote.entries.rows, after.localStore.Holds row.val.entryId := by
  obtain ⟨rfl, same, vars, batch, at_pull, reply, empty⟩ := pull_returns_ok step running ends
  refine ⟨rfl, fun row member => ?_⟩
  obtain ⟨limit, caught⟩ := inv.sessions i _ at_pull
  rw [same]
  exact caught.complete limit reply empty member

/-- Pull never skips an entry, whatever the interleaving. -/
theorem pull_never_skips {key : String} {initial w : PullWorld ι} {actions : List (PullAction ι)}
    (init : PullInitial key initial) (run : Run (PullStep key) initial actions w) :
    (∀ row ∈ w.remote.entries.rows, row.seq ≤ w.localStore.getLastCursor key →
      w.localStore.Holds row.val.entryId) ∧
    (w.localStore.entries.rows.map (·.val.entryId)).Nodup ∧
    ∀ (i : ι) (action : PullAction ι) (after : PullWorld ι) (stats : PullStats),
      PullStep key w action after → w.sessions i ≠ some (.returned (.ok stats)) →
      after.sessions i = some (.returned (.ok stats)) →
      action = .reply i ∧ ∀ row ∈ w.remote.entries.rows, after.localStore.Holds row.val.entryId := by
  have inv := run.invariant (PullInv key) PullInv.step init.inv
  refine ⟨fun row member below => inv.persisted.2 row member rfl below,
    w.localStore.entries.keys_nodup, ?_⟩
  intro i action after stats step running ends
  exact inv.returns_ok step running ends

end

def idlePullWorld : PullWorld Unit := ⟨opened, opened, fun _ => none⟩

theorem pull_never_skips_echo :
    ∃ w : PullWorld Unit, w.localStore.getLastCursor "peer-a" = 1 ∧
      w.remote.entries.rows.map Numbered.val = [firstEcho.toRow] ∧
      ∀ row ∈ w.remote.entries.rows, row.seq ≤ w.localStore.getLastCursor "peer-a" →
        w.localStore.Holds row.val.entryId := by
  have init : PullInitial "peer-a" idlePullWorld := ⟨rfl, fun _ => rfl⟩
  have idle : Run (PullStep "peer-a") idlePullWorld [] idlePullWorld := .nil _
  have recorded := idle.snoc (.remoteInsert _ [firstEcho] noFaults)
  have started := recorded.snoc (.start _ () 1 (.ok 0) rfl (by decide) (fun _ h => by cases h; rfl))
  have pulled := started.snoc (.reply _ () ⟨0, 0, 0, 0, 1⟩ _ rfl (fun _ h => h))
  have stored := pulled.snoc (.insert _ () ⟨0, 0, 0, 0, 1⟩ ⟨[firstEcho], some 1⟩ noFaults _ _ rfl rfl)
  have advanced := stored.snoc (.setCursor _ () ⟨0, 1, 1, 0, 1⟩ 1 rfl)
  exact ⟨_, by decide, by decide, (pull_never_skips init advanced).1⟩

end Rustory
