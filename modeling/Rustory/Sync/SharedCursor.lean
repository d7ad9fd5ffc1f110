import Rustory.Sync.AnyPeer

namespace Rustory

open Foundations LocalStore

/-! Sessions of several processes that share the cursors of one peer. -/

/-- The cursor that a session has last read or written, after this step. -/
def PullOutside.seen (outside : PullOutside) (state : PullState) (seen : Int) : Int :=
  match state, outside.cursorSet with
  | .advancing _ nextCursor, .ok () => nextCursor
  | _, _ => seen

def PushOutside.seen (outside : PushOutside) (state : PushState) (seen : Int) : Int :=
  match state, outside.seqSet with
  | .advancing vars, .ok () => vars.cursor
  | _, _ => seen

/-- The store and the sessions by process, each with the cursor it has last read or written. -/
structure CursorWorld (ι : Type*) where
  store : LocalStore
  pulls : ι → Option (PullState × Int)
  pushes : ι → Option (PushState × Int)

inductive CursorAction (ι : Type*)
  | pull (session : ι)
  | push (session : ι)
  | other

section

variable {ι : Type*} [DecidableEq ι]

def CursorWorld.setPull (w : CursorWorld ι) (i : ι) (session : Option (PullState × Int)) : CursorWorld ι :=
  { w with pulls := Function.update w.pulls i session }

def CursorWorld.setPush (w : CursorWorld ι) (i : ι) (session : Option (PushState × Int)) : CursorWorld ι :=
  { w with pushes := Function.update w.pushes i session }

/-- Single steps of sessions with the peer `peerId`, whatever it answers, and of inserts and prunes.
    A session may end at any point. -/
inductive CursorStep (peerId : String) : CursorWorld ι → CursorAction ι → CursorWorld ι → Prop
  | pullStarts (w : CursorWorld ι) (i : ι) (limit : UInt64) :
      w.pulls i = none →
      CursorStep peerId w .other (w.setPull i
        (some (.start limit (.ok (w.store.getLastCursor peerId)), w.store.getLastCursor peerId)))
  | pull (w : CursorWorld ι) (i : ι) (outside : PullOutside) (state next : PullState) (seen : Int)
      (store : LocalStore) :
      w.pulls i = some (state, seen) → outside.step peerId (w.store, state) = (store, next) →
      CursorStep peerId w (.pull i) ({ w with store := store }.setPull i (some (next, outside.seen state seen)))
  | pullEnds (w : CursorWorld ι) (i : ι) : CursorStep peerId w .other (w.setPull i none)
  | pushStarts (w : CursorWorld ι) (i : ι) (limit : UInt64) :
      w.pushes i = none →
      CursorStep peerId w .other (w.setPush i
        (some (.start limit (.ok (w.store.getLastPushedSeq peerId)), w.store.getLastPushedSeq peerId)))
  | push (w : CursorWorld ι) (i : ι) (sourceDeviceId : Option String) (outside : PushOutside)
      (state next : PushState) (seen : Int) (store : LocalStore) :
      w.pushes i = some (state, seen) → outside.others = id →
      outside.step peerId sourceDeviceId (w.store, state) = (store, next) →
      CursorStep peerId w (.push i) ({ w with store := store }.setPush i (some (next, outside.seen state seen)))
  | pushEnds (w : CursorWorld ι) (i : ι) : CursorStep peerId w .other (w.setPush i none)
  | insert (w : CursorWorld ι) (entries : List Entry) (faults : TxFaults) :
      CursorStep peerId w .other { w with store := (w.store.insertEntriesWithStats entries faults).2 }
  | prune (w : CursorWorld ι) (cutoffUnix : Int) (keepRecent : UInt64) (dryRun : Bool) :
      CursorStep peerId w .other
        { w with store := (w.store.pruneEntriesOlderThan cutoffUnix keepRecent dryRun).2 }

end

/-! What a session knows of the cursor it goes by. -/

def PullState.At (seen : Int) : PullState → Prop
  | .pulling vars => vars.cursor = seen
  | .inserting vars _ => vars.cursor = seen
  | .advancing _ nextCursor => seen < nextCursor
  | .returned _ => True

def PushState.At (seen : Int) : PushState → Prop
  | .reading vars => vars.cursor = seen
  | .pushing vars _ => vars.cursor = seen
  | .advancing vars => seen < vars.cursor
  | .returned _ => True

section

variable {peerId : String} {store : LocalStore} {seen : Int}

theorem PullState.start_at (limit : UInt64) (cursor : Int) : (start limit (.ok cursor)).At cursor := by
  unfold start
  split
  · exact trivial
  · rfl

theorem PushState.start_at (limit : UInt64) (cursor : Int) : (start limit (.ok cursor)).At cursor := by
  unfold start
  split
  · exact trivial
  · rfl

theorem PullOutside.step_at (outside : PullOutside) {state : PullState} (known : state.At seen) :
    (outside.step peerId (store, state)).2.At (outside.seen state seen) := by
  have move := @PullOutside.step_moves peerId outside store state
  generalize outside.step peerId (store, state) = out at move ⊢
  obtain ⟨after, next⟩ := out
  cases move with
  | retries => exact known
  | accepts => exact known
  | inserts vars later batch nextCursor found advances sameLimit =>
    have start : vars.cursor = seen := known
    exact start ▸ advances
  | sets vars nextCursor set =>
    unfold PullOutside.seen
    rw [set]
    rfl
  | rejects => exact trivial
  | returns => exact trivial

theorem PushOutside.step_at (outside : PushOutside) (sourceDeviceId : Option String) {state : PushState}
    (known : state.At seen) : (outside.step peerId sourceDeviceId (store, state)).2.At (outside.seen state seen) := by
  have move := @PushOutside.step_moves peerId outside sourceDeviceId store state
  generalize outside.step peerId sourceDeviceId (store, state) = out at move ⊢
  obtain ⟨after, next⟩ := out
  cases move with
  | reads => exact known
  | retries => exact known
  | accepts vars later batch found advances sameLimit =>
    have start : vars.cursor = seen := known
    exact start ▸ advances
  | sets vars set =>
    unfold PushOutside.seen
    rw [set]
    rfl
  | returns => exact trivial

/-! What one step does to the cursors of the store. -/

theorem PullOutside.step_cursors (outside : PullOutside) (state : PullState) :
    (outside.step peerId (store, state)).1.getLastPushedSeq peerId = store.getLastPushedSeq peerId ∧
      ((outside.step peerId (store, state)).1.getLastCursor peerId = store.getLastCursor peerId ∨
        ∃ vars nextCursor, state = .advancing vars nextCursor ∧
          (outside.step peerId (store, state)).1.getLastCursor peerId = nextCursor) := by
  have move := @PullOutside.step_moves peerId outside store state
  generalize outside.step peerId (store, state) = out at move ⊢
  obtain ⟨after, next⟩ := out
  cases move with
  | retries | accepts | returns => exact ⟨rfl, Or.inl rfl⟩
  | inserts | rejects => simp [getLastCursor, getLastCursorOpt, getLastPushedSeq, getLastPushedSeqOpt]
  | sets vars nextCursor =>
    refine ⟨rfl, Or.inr ⟨vars, nextCursor, rfl, ?_⟩⟩
    simp [getLastCursor, getLastCursorOpt]

theorem PushOutside.step_cursors (outside : PushOutside) (alone : outside.others = id)
    (sourceDeviceId : Option String) (state : PushState) :
    (outside.step peerId sourceDeviceId (store, state)).1.getLastCursor peerId = store.getLastCursor peerId ∧
      ((outside.step peerId sourceDeviceId (store, state)).1.getLastPushedSeq peerId =
          store.getLastPushedSeq peerId ∨
        ∃ vars, state = .advancing vars ∧
          (outside.step peerId sourceDeviceId (store, state)).1.getLastPushedSeq peerId = vars.cursor) := by
  have move := @PushOutside.step_moves peerId outside sourceDeviceId store state
  generalize outside.step peerId sourceDeviceId (store, state) = out at move ⊢
  obtain ⟨after, next⟩ := out
  have same : outside.others store = store := congrFun alone store
  have cursor : (outside.others store).getLastCursor peerId = store.getLastCursor peerId := by rw [same]
  have pushed : (outside.others store).getLastPushedSeq peerId = store.getLastPushedSeq peerId := by rw [same]
  cases move with
  | reads | retries | accepts | returns => exact ⟨cursor, Or.inl pushed⟩
  | sets vars =>
    refine ⟨cursor, Or.inr ⟨vars, rfl, ?_⟩⟩
    simp [getLastPushedSeq, getLastPushedSeqOpt]

end

section

variable {ι : Type*} {peerId : String} {w after : CursorWorld ι} {action : CursorAction ι}

/-- Every session is above the cursor it has last read or written as soon as it is to write one. -/
structure WritesAbove (w : CursorWorld ι) : Prop where
  pulls : ∀ i state seen, w.pulls i = some (state, seen) → state.At seen
  pushes : ∀ i state seen, w.pushes i = some (state, seen) → state.At seen

/-- A session that is to write a cursor finds none above the one it has last read or written. -/
def Fresh (peerId : String) (w : CursorWorld ι) : CursorAction ι → Prop
  | .pull i => ∀ vars nextCursor seen, w.pulls i = some (.advancing vars nextCursor, seen) →
      w.store.getLastCursor peerId ≤ seen
  | .push i => ∀ vars seen, w.pushes i = some (.advancing vars, seen) →
      w.store.getLastPushedSeq peerId ≤ seen
  | .other => True

structure CursorInitial (w : CursorWorld ι) : Prop where
  pulls : ∀ i, w.pulls i = none
  pushes : ∀ i, w.pushes i = none

theorem CursorInitial.writesAbove (init : CursorInitial w) : WritesAbove w where
  pulls := by
    intro i state seen running
    cases (init.pulls i).symm.trans running
  pushes := by
    intro i state seen running
    cases (init.pushes i).symm.trans running

theorem WritesAbove.store (above : WritesAbove w) (store : LocalStore) : WritesAbove { w with store := store } :=
  ⟨above.pulls, above.pushes⟩

variable [DecidableEq ι]

def FreshStep (peerId : String) (w : CursorWorld ι) (action : CursorAction ι) (after : CursorWorld ι) : Prop :=
  CursorStep peerId w action after ∧ Fresh peerId w action

theorem setPull_self (w : CursorWorld ι) (i : ι) (session : Option (PullState × Int)) :
    (w.setPull i session).pulls i = session := Function.update_self _ _ _

theorem setPull_other {i j : ι} (other : j ≠ i) (session : Option (PullState × Int)) :
    (w.setPull i session).pulls j = w.pulls j := Function.update_of_ne other _ _

theorem setPush_self (w : CursorWorld ι) (i : ι) (session : Option (PushState × Int)) :
    (w.setPush i session).pushes i = session := Function.update_self _ _ _

theorem setPush_other {i j : ι} (other : j ≠ i) (session : Option (PushState × Int)) :
    (w.setPush i session).pushes j = w.pushes j := Function.update_of_ne other _ _

theorem WritesAbove.setPull (above : WritesAbove w) (i : ι) {session : Option (PullState × Int)}
    (known : ∀ state seen, session = some (state, seen) → state.At seen) : WritesAbove (w.setPull i session) where
  pulls := by
    intro j state seen running
    by_cases same : j = i
    · rw [same, setPull_self] at running
      exact known state seen running
    · rw [setPull_other same] at running
      exact above.pulls j state seen running
  pushes := above.pushes

theorem WritesAbove.setPush (above : WritesAbove w) (i : ι) {session : Option (PushState × Int)}
    (known : ∀ state seen, session = some (state, seen) → state.At seen) : WritesAbove (w.setPush i session) where
  pulls := above.pulls
  pushes := by
    intro j state seen running
    by_cases same : j = i
    · rw [same, setPush_self] at running
      exact known state seen running
    · rw [setPush_other same] at running
      exact above.pushes j state seen running

theorem WritesAbove.step (above : WritesAbove w) (step : CursorStep peerId w action after) : WritesAbove after := by
  cases step with
  | pullStarts i limit =>
    apply above.setPull
    intro _ _ same
    cases same
    exact PullState.start_at limit _
  | pull i outside state next seen store running taken =>
    apply (above.store store).setPull
    intro _ _ same
    cases same
    have known := @PullOutside.step_at peerId w.store _ outside _ (above.pulls i state seen running)
    rw [taken] at known
    exact known
  | pullEnds i =>
    apply above.setPull
    intro _ _ same
    cases same
  | pushStarts i limit =>
    apply above.setPush
    intro _ _ same
    cases same
    exact PushState.start_at limit _
  | push i sourceDeviceId outside state next seen store running alone taken =>
    apply (above.store store).setPush
    intro _ _ same
    cases same
    have known := @PushOutside.step_at peerId w.store _ outside sourceDeviceId _ (above.pushes i state seen running)
    rw [taken] at known
    exact known
  | pushEnds i =>
    apply above.setPush
    intro _ _ same
    cases same
  | insert entries faults => exact above.store _
  | prune cutoffUnix keepRecent dryRun => exact above.store _

/-- Both cursors of the peer have stayed or gone up. -/
structure CursorsAscend (peerId : String) (before after : LocalStore) : Prop where
  lastCursor : before.getLastCursor peerId ≤ after.getLastCursor peerId
  lastPushedSeq : before.getLastPushedSeq peerId ≤ after.getLastPushedSeq peerId

theorem CursorsAscend.refl (peerId : String) (store : LocalStore) : CursorsAscend peerId store store :=
  ⟨le_rfl, le_rfl⟩

theorem CursorsAscend.trans {a b c : LocalStore} (first : CursorsAscend peerId a b)
    (second : CursorsAscend peerId b c) : CursorsAscend peerId a c :=
  ⟨first.lastCursor.trans second.lastCursor, first.lastPushedSeq.trans second.lastPushedSeq⟩

theorem FreshStep.ascend (above : WritesAbove w) (step : FreshStep peerId w action after) :
    CursorsAscend peerId w.store after.store := by
  obtain ⟨step, fresh⟩ := step
  cases step with
  | pullStarts | pullEnds | pushStarts | pushEnds => exact .refl _ _
  | pull i outside state next seen store running taken =>
    have cursors := @PullOutside.step_cursors peerId w.store outside state
    rw [taken] at cursors
    obtain ⟨pushed, same | ⟨vars, nextCursor, rfl, written⟩⟩ := cursors
    · exact ⟨same.ge, pushed.ge⟩
    · have seenBelow : seen < nextCursor := above.pulls i _ seen running
      have found := fresh vars nextCursor seen running
      refine ⟨?_, pushed.ge⟩
      rw [← written] at seenBelow
      exact found.trans seenBelow.le
  | push i sourceDeviceId outside state next seen store running alone taken =>
    have cursors := @PushOutside.step_cursors peerId w.store outside alone sourceDeviceId state
    rw [taken] at cursors
    obtain ⟨pulled, same | ⟨vars, rfl, written⟩⟩ := cursors
    · exact ⟨pulled.ge, same.ge⟩
    · have seenBelow : seen < vars.cursor := above.pushes i _ seen running
      have found := fresh vars seen running
      refine ⟨pulled.ge, ?_⟩
      rw [← written] at seenBelow
      exact found.trans seenBelow.le
  | insert entries faults =>
    constructor
    · simp [getLastCursor, getLastCursorOpt]
    · simp [getLastPushedSeq, getLastPushedSeqOpt]
  | prune cutoffUnix keepRecent dryRun =>
    constructor
    · simp [getLastCursor, getLastCursorOpt]
    · simp [getLastPushedSeq, getLastPushedSeqOpt]

end

/-- From any state that a run reaches on, the cursors of the peer ascend as long as every session that
    writes one finds none above the one it has last read or written; and no session ever writes one
    that is not above that. -/
theorem cursors_ascend_while_fresh {ι : Type*} [DecidableEq ι] {peerId : String} {initial w after : CursorWorld ι}
    {actions more : List (CursorAction ι)} (init : CursorInitial initial)
    (run : Run (CursorStep peerId) initial actions w) (later : Run (FreshStep peerId) w more after) :
    WritesAbove w ∧ CursorsAscend peerId w.store after.store := by
  have above : WritesAbove w := run.invariant WritesAbove (fun above step => above.step step) init.writesAbove
  apply And.intro above
  exact later.relates (fun w after => CursorsAscend peerId w.store after.store) WritesAbove
    (fun w => .refl peerId w.store)
    (fun {s t u} first second => @CursorsAscend.trans peerId s.store t.store u.store first second)
    (fun above step => above.step step.1) (fun above step => step.ascend above) above

/-! Two pull sessions of limits 1 and 2 with one peer. -/

def idleCursorWorld : CursorWorld Bool := ⟨opened, fun _ => none, fun _ => none⟩

theorem idleCursorWorld_initial : CursorInitial idleCursorWorld := ⟨fun _ => rfl, fun _ => rfl⟩

/-- The reply of a peer that holds the two entries, up to the given cursor. -/
def repliesTo (entries : List Entry) (nextCursor : Fin 3) : PullOutside where
  reply := ⟨.ok ⟨entries, some nextCursor⟩, fun _ _ answered found => by
    cases answered
    cases found
    have small := nextCursor.isLt
    unfold minI64 maxI64
    omega⟩
  faults := noFaults
  cursorSet := .ok ()

/-- The second session starts while the first still runs, and both move the cursor. -/
theorem cursors_ascend_while_fresh_echo :
    ∃ w after : CursorWorld Bool, w.store.getLastCursor "peer-a" = 0 ∧ after.store.getLastCursor "peer-a" = 2 ∧
      CursorsAscend "peer-a" w.store after.store := by
  have idle : Run (CursorStep "peer-a") idleCursorWorld [] idleCursorWorld := .nil _
  have started := idle.snoc (.pullStarts _ false 1 rfl)
  have replied := started.snoc (.pull _ false (repliesTo [firstEcho] 1) _ _ _ _ rfl rfl)
  have inserted := replied.snoc (.pull _ false (repliesTo [] 0) _ _ _ _ rfl rfl)
  have ascends := (cursors_ascend_while_fresh idleCursorWorld_initial inserted
    (.cons ⟨.pull _ false (repliesTo [] 0) _ _ _ _ rfl rfl, fun vars nextCursor seen running => by
      cases running
      decide⟩ <|
    .cons ⟨.pullStarts _ true 2 rfl, trivial⟩ <|
    .cons ⟨.pull _ true (repliesTo [secondEcho] 2) _ _ _ _ rfl rfl, fun _ _ _ running => by cases running⟩ <|
    .cons ⟨.pull _ false (repliesTo [secondEcho] 2) _ _ _ _ rfl rfl, fun _ _ _ running => by cases running⟩ <|
    .cons ⟨.pull _ true (repliesTo [] 0) _ _ _ _ rfl rfl, fun _ _ _ running => by cases running⟩ <|
    .single ⟨.pull _ true (repliesTo [] 0) _ _ _ _ rfl rfl, fun vars nextCursor seen running => by
      cases running
      decide⟩)).2
  exact ⟨_, _, by decide, by decide, ascends⟩

/-- The slower session puts the cursor back from 2 to 1. -/
theorem slow_session_moves_cursor_back :
    ¬ ∀ (peerId : String) (initial w after : CursorWorld Bool) (actions more : List (CursorAction Bool)),
      CursorInitial initial → Run (CursorStep peerId) initial actions w → Run (CursorStep peerId) w more after →
      CursorsAscend peerId w.store after.store := by
  intro ascend
  have idle : Run (CursorStep "peer-a") idleCursorWorld [] idleCursorWorld := .nil _
  have slow := idle.snoc (.pullStarts _ false 1 rfl)
  have fast := slow.snoc (.pullStarts _ true 2 rfl)
  have slowReplied := fast.snoc (.pull _ false (repliesTo [firstEcho] 1) _ _ _ _ rfl rfl)
  have fastReplied := slowReplied.snoc (.pull _ true (repliesTo [firstEcho, secondEcho] 2) _ _ _ _ rfl rfl)
  have fastInserted := fastReplied.snoc (.pull _ true (repliesTo [] 0) _ _ _ _ rfl rfl)
  have slowInserted := fastInserted.snoc (.pull _ false (repliesTo [] 0) _ _ _ _ rfl rfl)
  have fastSet := slowInserted.snoc (.pull _ true (repliesTo [] 0) _ _ _ _ rfl rfl)
  have back := (ascend _ _ _ _ _ _ idleCursorWorld_initial fastSet
    (.single (.pull _ false (repliesTo [] 0) _ _ _ _ rfl rfl))).lastCursor
  revert back
  decide

end Rustory
