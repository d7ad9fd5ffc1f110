import Rustory.Storage.Recent
import Rustory.Sync.PullSystem

namespace Rustory

open Foundations LocalStore

structure MeshSession (σ : Type*) where
  src : σ
  dst : σ
  state : PullState

/-- The stores of a mesh, the entries recorded so far with the store each was recorded in, and
    the pull sessions by process. -/
structure MeshWorld (σ ι : Type*) where
  stores : σ → LocalStore
  created : List (σ × Entry)
  sessions : ι → Option (MeshSession σ)

inductive MeshAction (σ : Type*)
  | record (store : σ)
  | completed (src dst : σ)
  | progress
  deriving DecidableEq

def MeshAction.ofReply {σ : Type*} (src dst : σ) : PullState → MeshAction σ
  | .returned (.ok _) => .completed src dst
  | _ => .progress

section

variable {σ ι : Type*} [DecidableEq σ] [DecidableEq ι]

def MeshWorld.setSession (w : MeshWorld σ ι) (i : ι) (session : Option (MeshSession σ)) :
    MeshWorld σ ι :=
  { w with sessions := Function.update w.sessions i session }

def MeshWorld.setStore (w : MeshWorld σ ι) (x : σ) (store : LocalStore) : MeshWorld σ ι :=
  { w with stores := Function.update w.stores x store }

def MeshWorld.recorded (w : MeshWorld σ ι) (x : σ) (e : Entry) (faults : TxFaults) : MeshWorld σ ι :=
  let (result, store) := (w.stores x).insertEntriesWithStats [e] faults
  { w.setStore x store with
    created := match result with
      | .ok _ => (x, e) :: w.created
      | .error _ => w.created }

/-- Single steps of records and of pull sessions between stores; `key src dst` is the peer id
    under which `dst` keeps its cursor into `src`. -/
inductive MeshStep (key : σ → σ → String) : MeshWorld σ ι → MeshAction σ → MeshWorld σ ι → Prop
  | record (w : MeshWorld σ ι) (x : σ) (e : Entry) (faults : TxFaults) :
      (∀ made ∈ w.created, made.2.entryId ≠ e.entryId) → e.toRow.Readable →
      MeshStep key w (.record x) (w.recorded x e faults)
  | start (w : MeshWorld σ ι) (i : ι) (src dst : σ) (limit : UInt64) (lastCursor : Except Error Int) :
      w.sessions i = none → 1 ≤ limit →
      (∀ cursor, lastCursor = .ok cursor → cursor = (w.stores dst).getLastCursor (key src dst)) →
      MeshStep key w .progress (w.setSession i (some ⟨src, dst, .start limit lastCursor⟩))
  | reply (w : MeshWorld σ ι) (i : ι) (src dst : σ) (vars : PullVars) (reply : Except Error PullBatch) :
      w.sessions i = some ⟨src, dst, .pulling vars⟩ →
      (∀ batch, reply = .ok batch →
        (w.stores src).pullSinceCursor vars.cursor vars.batchLimit = .ok batch) →
      MeshStep key w (.ofReply src dst (.onReply vars reply))
        (w.setSession i (some ⟨src, dst, .onReply vars reply⟩))
  | insert (w : MeshWorld σ ι) (i : ι) (src dst : σ) (vars : PullVars) (batch : PullBatch)
      (faults : TxFaults) (result : Except Error InsertStats) (store : LocalStore) :
      w.sessions i = some ⟨src, dst, .inserting vars batch⟩ →
      (w.stores dst).insertEntriesWithStats batch.entries faults = (result, store) →
      MeshStep key w .progress
        ((w.setStore dst store).setSession i (some ⟨src, dst, .onInserted vars batch result⟩))
  | setCursor (w : MeshWorld σ ι) (i : ι) (src dst : σ) (vars : PullVars) (nextCursor : Int) :
      w.sessions i = some ⟨src, dst, .advancing vars nextCursor⟩ →
      MeshStep key w .progress
        ((w.setStore dst ((w.stores dst).setLastCursor (key src dst) nextCursor)).setSession i
          (some ⟨src, dst, .onCursorSet vars nextCursor (.ok ())⟩))
  | setCursorFails (w : MeshWorld σ ι) (i : ι) (src dst : σ) (vars : PullVars) (nextCursor : Int)
      (err : Error) :
      w.sessions i = some ⟨src, dst, .advancing vars nextCursor⟩ →
      MeshStep key w .progress
        (w.setSession i (some ⟨src, dst, .onCursorSet vars nextCursor (.error err)⟩))
  | crash (w : MeshWorld σ ι) (i : ι) : MeshStep key w .progress (w.setSession i none)

/-! What one ordered pair of stores sees of a mesh. -/

def MeshSession.between (src dst : σ) (session : MeshSession σ) : Option PullState :=
  if session.src = src ∧ session.dst = dst then some session.state else none

def MeshWorld.pair (w : MeshWorld σ ι) (src dst : σ) : PullWorld ι where
  remote := w.stores src
  localStore := w.stores dst
  sessions i := (w.sessions i).bind (MeshSession.between src dst)

section Pair

variable {key : σ → σ → String} {w : MeshWorld σ ι} {src dst : σ}

omit [DecidableEq ι] in
theorem pair_running {i : ι} {state : PullState} (running : w.sessions i = some ⟨src, dst, state⟩) :
    (w.pair src dst).sessions i = some state := by
  simp [MeshWorld.pair, running, MeshSession.between]

theorem pair_setSession (i : ι) (session : Option (MeshSession σ)) :
    (w.setSession i session).pair src dst =
      (w.pair src dst).setSession i (session.bind (MeshSession.between src dst)) := by
  unfold MeshWorld.setSession MeshWorld.pair PullWorld.setSession
  congr 1
  funext j
  by_cases same : j = i
  · subst same
    simp
  · simp [same]

theorem pair_setSession_other {i : ι} {a b : σ} {state : PullState} (other : ¬(a = src ∧ b = dst))
    (idle : (w.pair src dst).sessions i = none) :
    (w.setSession i (some ⟨a, b, state⟩)).pair src dst = w.pair src dst := by
  have hidden : (some (MeshSession.mk a b state)).bind (MeshSession.between src dst) = none := by
    simp [MeshSession.between, other]
  have unchanged : Function.update (w.pair src dst).sessions i none = (w.pair src dst).sessions := by
    rw [← idle, Function.update_eq_self]
  rw [pair_setSession, hidden, PullWorld.setSession, unchanged]

omit [DecidableEq ι] in
theorem pair_other {i : ι} {a b : σ} {state : PullState} (other : ¬(a = src ∧ b = dst))
    (running : w.sessions i = some ⟨a, b, state⟩) : (w.pair src dst).sessions i = none := by
  simp [MeshWorld.pair, running, MeshSession.between, other]

omit [DecidableEq ι]

theorem pair_setStore_src (distinct : src ≠ dst) (store : LocalStore) :
    (w.setStore src store).pair src dst = { w.pair src dst with remote := store } := by
  simp [MeshWorld.setStore, MeshWorld.pair, Function.update_of_ne distinct.symm]

theorem pair_setStore_dst (distinct : src ≠ dst) (store : LocalStore) :
    (w.setStore dst store).pair src dst = { w.pair src dst with localStore := store } := by
  simp [MeshWorld.setStore, MeshWorld.pair, Function.update_of_ne distinct]

theorem pair_setStore_other {x : σ} (remote : x ≠ src) (here : x ≠ dst) (store : LocalStore) :
    (w.setStore x store).pair src dst = w.pair src dst := by
  simp [MeshWorld.setStore, MeshWorld.pair, Function.update_of_ne remote.symm,
    Function.update_of_ne here.symm]

end Pair

def PairRun (key : σ → σ → String) (src dst : σ) (w after : MeshWorld σ ι) : Prop :=
  ∃ actions, Run (PullStep (key src dst)) (w.pair src dst) actions (after.pair src dst)

section PairRun

variable {key : σ → σ → String} {w : MeshWorld σ ι} {src dst : σ}

theorem PairRun.of_eq {after : MeshWorld σ ι} (same : after.pair src dst = w.pair src dst) :
    PairRun key src dst w after := by
  apply Exists.intro []
  rw [same]
  exact .nil _

theorem PairRun.of_step {after : MeshWorld σ ι} {action : PullAction ι}
    (step : PullStep (key src dst) (w.pair src dst) action (after.pair src dst)) :
    PairRun key src dst w after := ⟨[action], .single step⟩

theorem PairRun.insert (distinct : src ≠ dst) (x : σ) (entries : List Entry) (faults : TxFaults)
    {store : LocalStore} (stored : store = ((w.stores x).insertEntriesWithStats entries faults).2) :
    PairRun key src dst w (w.setStore x store) := by
  subst stored
  by_cases remote : x = src
  · subst remote
    apply PairRun.of_step
    rw [pair_setStore_src distinct]
    exact .remoteInsert (w.pair x dst) entries faults
  · by_cases here : x = dst
    · subst here
      apply PairRun.of_step
      rw [pair_setStore_dst distinct]
      exact .localInsert (w.pair src x) entries faults
    · exact .of_eq (pair_setStore_other remote here _)

theorem PairRun.setCursor (keys : ∀ y, Function.Injective fun x => key x y) (distinct : src ≠ dst)
    {a b : σ} (other : ¬(a = src ∧ b = dst)) (cursor : Int) :
    PairRun key src dst w (w.setStore b ((w.stores b).setLastCursor (key a b) cursor)) := by
  by_cases remote : b = src
  · subst remote
    apply PairRun.of_step
    rw [pair_setStore_src distinct]
    exact .remotePeers (w.pair b dst) _ rfl
  · by_cases here : b = dst
    · subst here
      have elsewhere : key src b ≠ key a b := fun same => other ⟨(keys b same).symm, rfl⟩
      apply PairRun.of_step
      rw [pair_setStore_dst distinct]
      exact .localPeers (w.pair src b) _ rfl (AList.lookup_insert_ne elsewhere)
    · exact .of_eq (pair_setStore_other remote here _)

end PairRun

/-- Every step of the mesh is at most one step of each pair. -/
theorem MeshStep.pair {key : σ → σ → String} {w after : MeshWorld σ ι} {src dst : σ}
    {action : MeshAction σ} (keys : ∀ y, Function.Injective fun x => key x y) (distinct : src ≠ dst)
    (step : MeshStep key w action after) : PairRun key src dst w after := by
  cases step with
  | record x e faults fresh readable => exact PairRun.insert distinct x [e] faults rfl
  | start i a b limit lastCursor idle positive read =>
    have free : (w.pair src dst).sessions i = none := by simp [MeshWorld.pair, idle]
    by_cases own : a = src ∧ b = dst
    · obtain ⟨rfl, rfl⟩ := own
      apply PairRun.of_step
      rw [pair_setSession]
      simp only [Option.bind_some, MeshSession.between, and_self, if_true]
      exact .start _ i limit lastCursor free positive read
    · exact .of_eq (pair_setSession_other own free)
  | reply i a b vars reply at_pull answer =>
    by_cases own : a = src ∧ b = dst
    · obtain ⟨rfl, rfl⟩ := own
      apply PairRun.of_step
      rw [pair_setSession]
      simp only [Option.bind_some, MeshSession.between, and_self, if_true]
      exact .reply _ i vars reply (pair_running at_pull) answer
    · exact .of_eq (pair_setSession_other own (pair_other own at_pull))
  | insert i a b vars batch faults result store at_insert committed =>
    by_cases own : a = src ∧ b = dst
    · obtain ⟨rfl, rfl⟩ := own
      apply PairRun.of_step
      rw [pair_setSession, pair_setStore_dst distinct]
      simp only [Option.bind_some, MeshSession.between, and_self, if_true]
      exact .insert _ i vars batch faults result store (pair_running at_insert) committed
    · have stored : PairRun key src dst w (w.setStore b store) :=
        PairRun.insert distinct b batch.entries faults (by rw [committed])
      have idle : ((w.setStore b store).pair src dst).sessions i = none := pair_other own at_insert
      rw [PairRun, pair_setSession_other own idle]
      exact stored
  | setCursor i a b vars nextCursor at_advance =>
    by_cases own : a = src ∧ b = dst
    · obtain ⟨rfl, rfl⟩ := own
      apply PairRun.of_step
      rw [pair_setSession, pair_setStore_dst distinct]
      simp only [Option.bind_some, MeshSession.between, and_self, if_true]
      exact .setCursor _ i vars nextCursor (pair_running at_advance)
    · have stored : PairRun key src dst w
          (w.setStore b ((w.stores b).setLastCursor (key a b) nextCursor)) :=
        PairRun.setCursor keys distinct own nextCursor
      have idle : ((w.setStore b ((w.stores b).setLastCursor (key a b) nextCursor)).pair src
          dst).sessions i = none := pair_other own at_advance
      rw [PairRun, pair_setSession_other own idle]
      exact stored
  | setCursorFails i a b vars nextCursor err at_advance =>
    by_cases own : a = src ∧ b = dst
    · obtain ⟨rfl, rfl⟩ := own
      apply PairRun.of_step
      rw [pair_setSession]
      simp only [Option.bind_some, MeshSession.between, and_self, if_true]
      exact .setCursorFails _ i vars nextCursor err (pair_running at_advance)
    · exact .of_eq (pair_setSession_other own (pair_other own at_advance))
  | crash i =>
    apply PairRun.of_step
    rw [pair_setSession]
    exact .crash _ i

end

end Rustory
