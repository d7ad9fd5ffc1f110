import Mathlib.Logic.Function.Basic
import Rustory.Foundations.Transition
import Rustory.Storage.Batch
import Rustory.Storage.Prune
import Rustory.Sync.Push

namespace Rustory

open Foundations LocalStore

structure PushSession where
  peerId : String
  /-- The table as it was when the session began. -/
  atStart : EntriesTable
  state : PushState

/-- The local store, its peers, the push sessions between them by process, the push requests
    ever sent, and those that a peer has committed. -/
structure PushWorld (ι : Type*) where
  store : LocalStore
  peers : String → LocalStore
  sessions : ι → Option PushSession
  sent : List (String × List Entry)
  applied : List (String × List Entry)

inductive PushAction (ι : Type*)
  | insert (entries : List Entry)
  | insertFails
  | start (session : ι) (peerId : String)
  | read (session : ι)
  | send (session : ι)
  | deliver (peerId : String)
  | pushed (session : ι)
  | setSeq (session : ι) (peerId : String) (seq : Int)
  | setSeqFails (session : ι)
  | crash (session : ι)
  | peerInsert (peerId : String)
  | peerPrune (peerId : String)

def PushAction.ofInsert {ι : Type*} (entries : List Entry) : Except Error InsertStats → PushAction ι
  | .ok _ => .insert entries
  | .error _ => .insertFails

section

variable {ι : Type*} [DecidableEq ι]

def PushWorld.setSession (w : PushWorld ι) (i : ι) (session : Option PushSession) : PushWorld ι :=
  { w with sessions := Function.update w.sessions i session }

/-- The request of one push call, as the peer that gets it sees it. -/
def PushWorld.deliver (w : PushWorld ι) (peerId : String) (entries : List Entry) (faults : TxFaults) :
    PushWorld ι :=
  let (result, store) := (w.peers peerId).insertEntriesWithStats entries faults
  { w with
    peers := Function.update w.peers peerId store
    applied := match result with
      | .ok _ => (peerId, entries) :: w.applied
      | .error _ => w.applied }

/-- Single steps of inserts and of push sessions with the filter `deviceId`. A push call may be
    sent any number of times, and a request that was sent may arrive any number of times, also
    after the call has failed; the call succeeds only when the peer has committed its batch. -/
inductive PushStep (deviceId : String) : PushWorld ι → PushAction ι → PushWorld ι → Prop
  | insert (w : PushWorld ι) (entries : List Entry) (faults : TxFaults)
      (result : Except Error InsertStats) (store : LocalStore) :
      w.store.insertEntriesWithStats entries faults = (result, store) →
      PushStep deviceId w (.ofInsert entries result) { w with store := store }
  | start (w : PushWorld ι) (i : ι) (peerId : String) (limit : UInt64) (lastPushedSeq : Except Error Int) :
      w.sessions i = none → 1 ≤ limit →
      (∀ seq, lastPushedSeq = .ok seq → seq = w.store.getLastPushedSeq peerId) →
      PushStep deviceId w (.start i peerId)
        (w.setSession i (some ⟨peerId, w.store.entries, .start limit lastPushedSeq⟩))
  | read (w : PushWorld ι) (i : ι) (peerId : String) (atStart : EntriesTable) (vars : PushVars)
      (result : Except Error PullBatch) :
      w.sessions i = some ⟨peerId, atStart, .reading vars⟩ →
      (∀ batch, result = .ok batch →
        readPushBatch w.store (some deviceId) vars.cursor vars.batchLimit = .ok batch) →
      PushStep deviceId w (.read i) (w.setSession i (some ⟨peerId, atStart, .onRead vars result⟩))
  | send (w : PushWorld ι) (i : ι) (peerId : String) (atStart : EntriesTable) (vars : PushVars)
      (batch : PullBatch) :
      w.sessions i = some ⟨peerId, atStart, .pushing vars batch⟩ →
      PushStep deviceId w (.send i) { w with sent := (peerId, batch.entries) :: w.sent }
  | deliver (w : PushWorld ι) (peerId : String) (entries : List Entry) (faults : TxFaults) :
      (peerId, entries) ∈ w.sent →
      PushStep deviceId w (.deliver peerId) (w.deliver peerId entries faults)
  | pushed (w : PushWorld ι) (i : ι) (peerId : String) (atStart : EntriesTable) (vars : PushVars)
      (batch : PullBatch) (result : Except Error Unit) :
      w.sessions i = some ⟨peerId, atStart, .pushing vars batch⟩ →
      (result = .ok () → (peerId, batch.entries) ∈ w.applied) →
      PushStep deviceId w (.pushed i)
        (w.setSession i (some ⟨peerId, atStart, .onPushed vars batch result⟩))
  | setSeq (w : PushWorld ι) (i : ι) (peerId : String) (atStart : EntriesTable) (vars : PushVars) :
      w.sessions i = some ⟨peerId, atStart, .advancing vars⟩ →
      PushStep deviceId w (.setSeq i peerId vars.cursor)
        ({ w with store := w.store.setLastPushedSeq peerId vars.cursor }.setSession i
          (some ⟨peerId, atStart, .onSeqSet vars (.ok ())⟩))
  | setSeqFails (w : PushWorld ι) (i : ι) (peerId : String) (atStart : EntriesTable) (vars : PushVars)
      (err : Error) :
      w.sessions i = some ⟨peerId, atStart, .advancing vars⟩ →
      PushStep deviceId w (.setSeqFails i)
        (w.setSession i (some ⟨peerId, atStart, .onSeqSet vars (.error err)⟩))
  | crash (w : PushWorld ι) (i : ι) : PushStep deviceId w (.crash i) (w.setSession i none)
  | peerInsert (w : PushWorld ι) (peerId : String) (entries : List Entry) (faults : TxFaults) :
      PushStep deviceId w (.peerInsert peerId)
        { w with
          peers := Function.update w.peers peerId
            ((w.peers peerId).insertEntriesWithStats entries faults).2 }
  | peerPrune (w : PushWorld ι) (peerId : String) (cutoffUnix : Int) (keepRecent : UInt64)
      (dryRun : Bool) :
      PushStep deviceId w (.peerPrune peerId)
        { w with
          peers := Function.update w.peers peerId
            ((w.peers peerId).pruneEntriesOlderThan cutoffUnix keepRecent dryRun).2 }

inductive PushPruneStep (deviceId : String) :
    PushWorld ι → Option (PushAction ι) → PushWorld ι → Prop
  | push {w after : PushWorld ι} {action : PushAction ι} :
      PushStep deviceId w action after → PushPruneStep deviceId w (some action) after
  | prune (w : PushWorld ι) (cutoffUnix : Int) (keepRecent : UInt64) (dryRun : Bool) :
      PushPruneStep deviceId w none
        { w with store := (w.store.pruneEntriesOlderThan cutoffUnix keepRecent dryRun).2 }

end

section

variable {ι : Type*}

theorem PushWorld.deliver_applied (w : PushWorld ι) (peerId : String) (entries : List Entry)
    (faults : TxFaults) : w.applied ⊆ (w.deliver peerId entries faults).applied := by
  unfold PushWorld.deliver
  dsimp only
  split
  · exact List.subset_cons_self _ _
  · exact List.Subset.refl _

theorem PushWorld.deliver_holds {w : PushWorld ι} {peerId other : String} {entries batch : List Entry}
    {faults : TxFaults} (new : (other, batch) ∉ w.applied)
    (logged : (other, batch) ∈ (w.deliver peerId entries faults).applied) :
    ∀ e ∈ batch, ((w.deliver peerId entries faults).peers other).Holds e.entryId := by
  unfold PushWorld.deliver at logged ⊢
  dsimp only at logged ⊢
  cases committed : (w.peers peerId).insertEntriesWithStats entries faults with
  | mk result store =>
    rw [committed] at logged
    dsimp only at logged ⊢
    cases result with
    | error err => exact absurd logged new
    | ok stats =>
      rcases List.mem_cons.mp logged with same | old
      · cases same
        intro e listed
        rw [Function.update_self, (insertEntriesWithStats_ok committed).2, inserted_holds]
        exact Or.inr ⟨e, listed, rfl⟩
      · exact absurd old new

theorem PushWorld.deliver_keeps {w : PushWorld ι} {peerId other : String} {entries : List Entry} {faults : TxFaults}
    {id : EntryId} (held : (w.peers other).Holds id) : ((w.deliver peerId entries faults).peers other).Holds id := by
  have stored : (w.deliver peerId entries faults).peers =
      Function.update w.peers peerId ((w.peers peerId).insertEntriesWithStats entries faults).2 := rfl
  rw [stored]
  by_cases same : other = peerId
  · subst same
    rw [Function.update_self]
    exact insertEntriesWithStats_holds held
  · rw [Function.update_of_ne same]
    exact held

structure PushInitial (w : PushWorld ι) : Prop where
  store : w.store = opened
  sessions : ∀ i, w.sessions i = none
  sent : w.sent = []
  applied : w.applied = []

/-- The peer has committed a batch with this row. -/
def Accepted (w : PushWorld ι) (peerId : String) (row : EntryRow) : Prop :=
  ∃ entries, (peerId, entries) ∈ w.applied ∧ row ∈ rowsOf entries

/-! The invariant: every push cursor, persisted or private, only covers rows its peer accepted. -/

def Uploaded (deviceId : String) (w : PushWorld ι) (peerId : String) (cursor : Int) : Prop :=
  cursor ≤ w.store.entries.sequence ∧
    w.store.entries.Covers (ofDevice deviceId) (Accepted w peerId) cursor

def StateUploaded (deviceId : String) (w : PushWorld ι) (peerId : String) (atStart : EntriesTable) :
    PushState → Prop
  | .reading vars => 1 ≤ vars.batchLimit ∧ Uploaded deviceId w peerId vars.cursor
  | .pushing vars batch =>
    1 ≤ vars.batchLimit ∧ Uploaded deviceId w peerId vars.cursor ∧
      ∀ nextCursor, batch.nextCursor = some nextCursor →
        nextCursor ≤ w.store.entries.sequence ∧
        w.store.entries.Covers (ofDevice deviceId)
          (fun row => Accepted w peerId row ∨ row ∈ rowsOf batch.entries) nextCursor
  | .advancing vars => 1 ≤ vars.batchLimit ∧ Uploaded deviceId w peerId vars.cursor
  | .returned (.ok _) =>
    ∀ row ∈ atStart.rows, row.val.deviceId = deviceId → row ∈ w.store.entries.rows →
      Accepted w peerId row.val
  | .returned (.error _) => True

def SessionUploaded (deviceId : String) (w : PushWorld ι) (session : PushSession) : Prop :=
  session.atStart.Evolves w.store.entries ∧
    StateUploaded deviceId w session.peerId session.atStart session.state

structure PushInv (deviceId : String) (w : PushWorld ι) : Prop where
  persisted : ∀ peerId, Uploaded deviceId w peerId (w.store.getLastPushedSeq peerId)
  sessions : ∀ i session, w.sessions i = some session → SessionUploaded deviceId w session

theorem Accepted.mono {w after : PushWorld ι} {peerId : String} {row : EntryRow}
    (h : Accepted w peerId row) (grows : w.applied ⊆ after.applied) : Accepted after peerId row := by
  obtain ⟨entries, committed, listed⟩ := h
  exact ⟨entries, grows committed, listed⟩

section Frame

variable {deviceId : String} {w after : PushWorld ι}

theorem Uploaded.frame {peerId : String} {cursor : Int} (h : Uploaded deviceId w peerId cursor)
    (evolves : w.store.entries.Evolves after.store.entries) (grows : w.applied ⊆ after.applied) :
    Uploaded deviceId after peerId cursor :=
  ⟨h.1.trans evolves.sequence, (h.2.evolve evolves h.1).mono fun _ seen => seen.mono grows⟩

theorem SessionUploaded.frame {session : PushSession} (h : SessionUploaded deviceId w session)
    (evolves : w.store.entries.Evolves after.store.entries) (grows : w.applied ⊆ after.applied) :
    SessionUploaded deviceId after session := by
  obtain ⟨peerId, atStart, state⟩ := session
  obtain ⟨since, uploaded⟩ := h
  refine ⟨since.trans evolves, ?_⟩
  cases state with
  | reading vars => exact ⟨uploaded.1, uploaded.2.frame evolves grows⟩
  | pushing vars batch =>
    refine ⟨uploaded.1, uploaded.2.1.frame evolves grows, fun nextCursor next => ?_⟩
    obtain ⟨bound, covers⟩ := uploaded.2.2 nextCursor next
    refine ⟨bound.trans evolves.sequence, (covers.evolve evolves bound).mono fun row => ?_⟩
    exact Or.imp_left fun seen => seen.mono grows
  | advancing vars => exact ⟨uploaded.1, uploaded.2.frame evolves grows⟩
  | returned result =>
    cases result with
    | error err => exact trivial
    | ok total =>
      intro row early own late
      -- the row was in the table at every moment in between
      have kept := since.mem_middle evolves early late
      exact (uploaded row early own kept).mono grows

theorem PushInv.frame (inv : PushInv deviceId w)
    (evolves : w.store.entries.Evolves after.store.entries) (grows : w.applied ⊆ after.applied)
    (cursors : after.store.peerPushState = w.store.peerPushState)
    (sessions : after.sessions = w.sessions) : PushInv deviceId after := by
  refine ⟨fun peerId => ?_, fun i session running => ?_⟩
  · have same : after.store.getLastPushedSeq peerId = w.store.getLastPushedSeq peerId := by
      simp only [getLastPushedSeq, getLastPushedSeqOpt, cursors]
    rw [same]
    exact (inv.persisted peerId).frame evolves grows
  · rw [sessions] at running
    exact (inv.sessions i session running).frame evolves grows

end Frame

theorem PushInitial.inv {deviceId : String} {w : PushWorld ι} (init : PushInitial w) :
    PushInv deviceId w := by
  refine ⟨fun peerId => ?_, fun i session running => ?_⟩
  · have zero : w.store.getLastPushedSeq peerId = 0 := by
      rw [init.store]
      rfl
    rw [zero]
    exact ⟨w.store.entries.nonneg, NumberedTable.covers_zero _ _ _ le_rfl⟩
  · rw [init.sessions i] at running
    cases running

theorem StateUploaded.onRead {deviceId : String} {w : PushWorld ι} {peerId : String}
    {atStart : EntriesTable} {vars : PushVars} {result : Except Error PullBatch}
    (h : StateUploaded deviceId w peerId atStart (.reading vars))
    (answer : ∀ batch, result = .ok batch →
      readPushBatch w.store (some deviceId) vars.cursor vars.batchLimit = .ok batch) :
    StateUploaded deviceId w peerId atStart (.onRead vars result) := by
  rcases PushState.onRead_cases vars result with ⟨err, state⟩ | ⟨batch, rfl, branches⟩
  · rw [state]
    exact trivial
  have read := pullSinceCursorForDevice_of (answer batch rfl)
  rcases branches with ⟨none, state⟩ | ⟨-, state⟩
  · rw [state]
    intro row _ own held
    exact h.2.2.complete (asI64_ne_zero h.1) (read.entries_nil.mp none) held (by simp [ofDevice, own])
  · rw [state]
    refine ⟨h.1, h.2, fun nextCursor found => ?_⟩
    obtain ⟨last, ends, rfl⟩ := read.nextCursor_some found
    have held := (NumberedTable.mem_page (List.mem_of_getLast? ends)).1
    refine ⟨(w.store.entries.numbered last held).2, ?_⟩
    refine (h.2.2.mono fun row => Or.inl).page ends fun row member => Or.inr ?_
    rw [read.entries]
    exact List.mem_map_of_mem member

theorem StateUploaded.onPushed {deviceId : String} {w : PushWorld ι} {peerId : String}
    {atStart : EntriesTable} {vars : PushVars} {batch : PullBatch} {result : Except Error Unit}
    (h : StateUploaded deviceId w peerId atStart (.pushing vars batch))
    (committed : result = .ok () → (peerId, batch.entries) ∈ w.applied) :
    StateUploaded deviceId w peerId atStart (.onPushed vars batch result) := by
  obtain ⟨limit, uploaded, sent⟩ := h
  cases result with
  | error err =>
    rcases PushState.onPushed_error vars batch err with ⟨err', state⟩ | state
    · rw [state]
      exact trivial
    · rw [state]
      exact ⟨one_le_halved _, uploaded⟩
  | ok done =>
    rcases PushState.onPushed_ok vars batch with ⟨err, state⟩ | ⟨next, state, found, -, same⟩
    · rw [state]
      exact trivial
    · obtain ⟨bound, covers⟩ := sent next.cursor found
      rw [state]
      refine ⟨by rw [same]; exact limit, bound, covers.mono fun row seen => seen.elim id fun listed => ?_⟩
      exact ⟨batch.entries, committed rfl, listed⟩

variable [DecidableEq ι]

theorem PushInv.setSession {deviceId : String} {w : PushWorld ι} (inv : PushInv deviceId w) (i : ι)
    (session : Option PushSession) (ok : ∀ s, session = some s → SessionUploaded deviceId w s) :
    PushInv deviceId (w.setSession i session) := by
  refine ⟨inv.persisted, fun j s running => ?_⟩
  simp only [PushWorld.setSession] at running
  by_cases same : j = i
  · subst same
    rw [Function.update_self] at running
    exact ok s running
  · rw [Function.update_of_ne same] at running
    exact inv.sessions j s running

theorem PushInv.setState {deviceId : String} {w : PushWorld ι} {i : ι} {peerId : String}
    {atStart : EntriesTable} {state next : PushState} (inv : PushInv deviceId w)
    (running : w.sessions i = some ⟨peerId, atStart, state⟩)
    (ok : StateUploaded deviceId w peerId atStart state → StateUploaded deviceId w peerId atStart next) :
    PushInv deviceId (w.setSession i (some ⟨peerId, atStart, next⟩)) := by
  obtain ⟨since, uploaded⟩ := inv.sessions i _ running
  refine inv.setSession i _ fun s same => ?_
  cases same
  exact ⟨since, ok uploaded⟩

theorem getLastPushedSeq_setLastPushedSeq (store : LocalStore) (peerId other : String) (seq : Int) :
    (store.setLastPushedSeq peerId seq).getLastPushedSeq other =
      if other = peerId then seq else store.getLastPushedSeq other := by
  unfold getLastPushedSeq getLastPushedSeqOpt setLastPushedSeq
  split
  · rename_i same
    rw [same, AList.lookup_insert]
    rfl
  · rename_i different
    rw [AList.lookup_insert_ne different]

theorem PushInv.step {deviceId : String} {w after : PushWorld ι} {action : PushAction ι}
    (inv : PushInv deviceId w) (step : PushStep deviceId w action after) :
    PushInv deviceId after := by
  cases step with
  | insert entries faults result store committed =>
    have stored : store = (w.store.insertEntriesWithStats entries faults).2 := by rw [committed]
    have evolves : w.store.entries.Evolves store.entries := by
      rw [stored]
      exact insertEntriesWithStats_evolves _ _ _
    exact inv.frame evolves (List.Subset.refl _) (by simp [stored]) rfl
  | start i peerId limit lastPushedSeq idle positive read =>
    refine inv.setSession i _ fun s same => ?_
    cases same
    refine ⟨.refl _, ?_⟩
    unfold PushState.start
    split
    · rename_i zero
      exact absurd zero (limit_ne_zero positive)
    split
    · exact trivial
    · rename_i cursor
      exact ⟨positive, by rw [read cursor rfl]; exact inv.persisted peerId⟩
  | read i peerId atStart vars result running answer =>
    exact inv.setState running fun uploaded => uploaded.onRead answer
  | send i peerId atStart vars batch running =>
    exact inv.frame (.refl _) (List.Subset.refl _) rfl rfl
  | deliver peerId entries faults sent =>
    exact inv.frame (.refl _) (w.deliver_applied peerId entries faults) rfl rfl
  | pushed i peerId atStart vars batch result running committed =>
    exact inv.setState running fun uploaded => uploaded.onPushed committed
  | setSeq i peerId atStart vars running =>
    have framed : PushInv deviceId { w with store := w.store.setLastPushedSeq peerId vars.cursor } := by
      refine ⟨fun other => ?_, fun j session on =>
        (inv.sessions j session on).frame (.refl _) (List.Subset.refl _)⟩
      rw [getLastPushedSeq_setLastPushedSeq]
      split
      · rename_i same
        subst same
        exact (inv.sessions i _ running).2.2.frame (.refl _) (List.Subset.refl _)
      · exact (inv.persisted other).frame (.refl _) (List.Subset.refl _)
    exact framed.setState running fun uploaded => uploaded
  | setSeqFails i peerId atStart vars err running => exact inv.setState running fun _ => trivial
  | crash i =>
    apply inv.setSession i none
    intro session none
    cases none
  | peerInsert peerId entries faults => exact inv.frame (.refl _) (List.Subset.refl _) rfl rfl
  | peerPrune peerId cutoffUnix keepRecent dryRun =>
    exact inv.frame (.refl _) (List.Subset.refl _) rfl rfl

theorem PushInv.pruneStep {deviceId : String} {w after : PushWorld ι} {action : Option (PushAction ι)}
    (inv : PushInv deviceId w) (step : PushPruneStep deviceId w action after) :
    PushInv deviceId after := by
  cases step with
  | push step => exact inv.step step
  | prune cutoffUnix keepRecent dryRun =>
    exact inv.frame (pruneEntriesOlderThan_evolves _ _ _ _) (List.Subset.refl _) (by simp) rfl

/-! What a peer has committed is in its store. -/

theorem PushPruneStep.logs {deviceId : String} {w after : PushWorld ι} {action : Option (PushAction ι)}
    (step : PushPruneStep deviceId w action after) {peerId : String} {batch : List Entry}
    (new : (peerId, batch) ∉ w.applied) (logged : (peerId, batch) ∈ after.applied) :
    ∀ e ∈ batch, (after.peers peerId).Holds e.entryId := by
  cases step with
  | prune cutoffUnix keepRecent dryRun => exact absurd logged new
  | push step =>
    cases step with
    | deliver other entries faults sent => exact PushWorld.deliver_holds new logged
    | insert | start | read | send | pushed | setSeq | setSeqFails | crash | peerInsert | peerPrune =>
      exact absurd logged new

theorem PushPruneStep.peerKeeps {deviceId : String} {w after : PushWorld ι} {action : Option (PushAction ι)}
    (step : PushPruneStep deviceId w action after) {peerId : String} (keeps : action ≠ some (.peerPrune peerId))
    {id : EntryId} (held : (w.peers peerId).Holds id) : (after.peers peerId).Holds id := by
  cases step with
  | prune cutoffUnix keepRecent dryRun => exact held
  | push step =>
    cases step with
    | deliver other entries faults sent => exact PushWorld.deliver_keeps held
    | peerInsert other entries faults =>
      -- to the store of the peer, this is a request that nobody logs
      exact @PushWorld.deliver_keeps _ w other peerId entries faults id held
    | peerPrune other cutoffUnix keepRecent dryRun =>
      have elsewhere : peerId ≠ other := fun same => keeps (same ▸ rfl)
      dsimp only
      rw [Function.update_of_ne elsewhere]
      exact held
    | insert | start | read | send | pushed | setSeq | setSeqFails | crash => exact held

/-- At some moment of the run the peer's store has had all of a batch, and it has them until the peer prunes. -/
def StoredByPeer (deviceId : String) (initial w : PushWorld ι) (actions : List (Option (PushAction ι)))
    (peerId : String) (batch : List Entry) : Prop :=
  ∃ before since moment, actions = before ++ since ∧ Run (PushPruneStep deviceId) initial before moment ∧
    Run (PushPruneStep deviceId) moment since w ∧ (∀ e ∈ batch, (moment.peers peerId).Holds e.entryId) ∧
    (some (.peerPrune peerId) ∉ since → ∀ e ∈ batch, (w.peers peerId).Holds e.entryId)

theorem applied_stored {deviceId : String} {initial w : PushWorld ι} {actions : List (Option (PushAction ι))}
    (init : PushInitial initial) (run : Run (PushPruneStep deviceId) initial actions w) {peerId : String}
    {batch : List Entry} (logged : (peerId, batch) ∈ w.applied) :
    StoredByPeer deviceId initial w actions peerId batch := by
  have fresh : (peerId, batch) ∉ initial.applied := by
    rw [init.applied]
    exact List.not_mem_nil
  obtain ⟨first, action, since, m, moment, split, sofar, new, step, now, later⟩ :=
    run.onset (fun w => (peerId, batch) ∈ w.applied) fresh logged
  have stored := step.logs new now
  refine ⟨first ++ [action], since, moment, ?_, sofar.snoc step, later, stored, ?_⟩
  · rw [split, List.append_assoc]
    rfl
  · intro keeps
    apply later.invariant_of_labels (fun w => ∀ e ∈ batch, (w.peers peerId).Holds e.entryId)
      (fun action => action ≠ some (.peerPrune peerId))
    · intro s action t held kept step e listed
      exact step.peerKeeps kept (held e listed)
    · intro action listed same
      exact keeps (same ▸ listed)
    · exact stored

/-- Push never loses an entry, whatever the interleaving with prunes and lost acknowledgements. -/
theorem push_never_loses {deviceId : String} {initial w : PushWorld ι}
    {actions : List (Option (PushAction ι))} (init : PushInitial initial)
    (run : Run (PushPruneStep deviceId) initial actions w) :
    (∀ peerId seq, w.store.getLastPushedSeqOpt peerId = some seq →
      ∀ row ∈ w.store.entries.rows, row.val.deviceId = deviceId → row.seq ≤ seq →
        Accepted w peerId row.val) ∧
    (∀ cutoffUnix keepRecent dryRun peerId seq, w.store.getLastPushedSeqOpt peerId = some seq →
      ∀ row ∈ w.store.entries.rows, row.val.deviceId = deviceId →
        row ∉ (w.store.pruneEntriesOlderThan cutoffUnix keepRecent dryRun).2.entries.rows →
        Accepted w peerId row.val) ∧
    (∀ peerId, ((w.peers peerId).entries.rows.map (·.val.entryId)).Nodup) ∧
    (∀ i session total, w.sessions i = some session → session.state = .returned (.ok total) →
      ∀ row ∈ session.atStart.rows, row.val.deviceId = deviceId → row ∈ w.store.entries.rows →
        Accepted w session.peerId row.val) ∧
    ∀ peerId batch, (peerId, batch) ∈ w.applied → StoredByPeer deviceId initial w actions peerId batch := by
  have inv := run.invariant (PushInv deviceId) PushInv.pruneStep init.inv
  have persisted : ∀ peerId seq, w.store.getLastPushedSeqOpt peerId = some seq →
      ∀ row ∈ w.store.entries.rows, row.val.deviceId = deviceId → row.seq ≤ seq →
        Accepted w peerId row.val := by
    intro peerId seq cursor row held own below
    have covered := (inv.persisted peerId).2
    rw [getLastPushedSeq, cursor] at covered
    exact covered row held (by simp [ofDevice, own]) below
  refine ⟨persisted, ?_, fun peerId => (w.peers peerId).entries.keys_nodup, ?_, ?_⟩
  · intro cutoffUnix keepRecent dryRun peerId seq cursor row held own gone
    exact persisted peerId seq cursor row held own (pruned_pushed held gone cursor)
  · intro i session total running ended row early own late
    have uploaded := (inv.sessions i session running).2
    rw [ended] at uploaded
    exact uploaded row early own late
  · intro peerId batch logged
    exact applied_stored init run logged

end

def idlePushWorld : PushWorld Unit := ⟨opened, fun _ => opened, fun _ => none, [], []⟩

theorem push_never_loses_echo :
    ∃ w : PushWorld Unit, w.store.getLastPushedSeqOpt "peer-a" = some 1 ∧
      w.store.entries.rows.map Numbered.val = [firstEcho.toRow] ∧
      ∀ row ∈ w.store.entries.rows, row.val.deviceId = "dev1" → row.seq ≤ 1 →
        Accepted w "peer-a" row.val := by
  have init : PushInitial idlePushWorld := ⟨rfl, fun _ => rfl, rfl, rfl⟩
  have idle : Run (PushPruneStep "dev1") idlePushWorld [] idlePushWorld := .nil _
  have inserted := idle.snoc (.push (.insert _ [firstEcho] noFaults _ _ rfl))
  have started := inserted.snoc (.push (.start _ () "peer-a" 1 (.ok 0) rfl (by decide)
    (fun _ h => by cases h; rfl)))
  have read := started.snoc (.push (.read _ () "peer-a" _ ⟨0, 0, 1⟩ _ rfl (fun _ h => h)))
  have sent := read.snoc (.push (.send _ () "peer-a" _ ⟨0, 0, 1⟩ ⟨[firstEcho], some 1⟩ rfl))
  have lost := sent.snoc (.push (.deliver _ "peer-a" [firstEcho] noFaults (by decide)))
  have delivered := lost.snoc (.push (.deliver _ "peer-a" [firstEcho] noFaults (by decide)))
  have acknowledged := delivered.snoc (.push (.pushed _ () "peer-a" _ ⟨0, 0, 1⟩ ⟨[firstEcho], some 1⟩
    (.ok ()) rfl (fun _ => by decide)))
  have advanced := acknowledged.snoc (.push (.setSeq _ () "peer-a" _ ⟨1, 1, 1⟩ rfl))
  exact ⟨_, by decide, by decide, (push_never_loses init advanced).1 "peer-a" 1 (by decide)⟩

end Rustory
