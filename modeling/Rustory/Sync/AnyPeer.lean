import Mathlib.Data.Prod.Lex
import Rustory.Core.Text
import Rustory.Storage.Retention
import Rustory.Sync.PullSession
import Rustory.Sync.PushSession

namespace Rustory

open Foundations LocalStore

/-! Sessions with a peer that answers as it likes. -/

/-- What a peer may reply to a pull: `next_cursor` is an `i64`. -/
structure PullReply where
  result : Except Error PullBatch
  i64 : ∀ batch nextCursor, result = .ok batch → batch.nextCursor = some nextCursor →
    minI64 ≤ nextCursor ∧ nextCursor ≤ maxI64

/-- What one step of a pull session meets outside its process. -/
structure PullOutside where
  reply : PullReply
  faults : TxFaults
  cursorSet : Except Error Unit

/-- What one step of a push session meets: other processes have changed the store, and reading it,
    pushing and writing the cursor back can fail. -/
structure PushOutside where
  others : LocalStore → LocalStore
  rowids : ∀ store, store.entries.sequence ≤ maxRowid → (others store).entries.sequence ≤ maxRowid
  read : Except Error Unit
  push : Except Error Unit
  seqSet : Except Error Unit

def setIfOk (set : Except Error Unit) (next store : LocalStore) : LocalStore :=
  match set with
  | .ok () => next
  | .error _ => store

def PullOutside.step (peerId : String) (outside : PullOutside) :
    LocalStore × PullState → LocalStore × PullState
  | (store, .pulling vars) => (store, .onReply vars outside.reply.result)
  | (store, .inserting vars batch) =>
    let (result, store) := store.insertEntriesWithStats batch.entries outside.faults
    (store, .onInserted vars batch result)
  | (store, .advancing vars nextCursor) =>
    (setIfOk outside.cursorSet (store.setLastCursor peerId nextCursor) store,
      .onCursorSet vars nextCursor outside.cursorSet)
  | (store, .returned result) => (store, .returned result)

def PushOutside.step (peerId : String) (sourceDeviceId : Option String) (outside : PushOutside) :
    LocalStore × PushState → LocalStore × PushState
  | (before, state) =>
    let store := outside.others before
    match state with
    | .reading vars =>
      let batch := outside.read.bind fun () => readPushBatch store sourceDeviceId vars.cursor vars.batchLimit
      (store, .onRead vars batch)
    | .pushing vars batch => (store, .onPushed vars batch outside.push)
    | .advancing vars =>
      (setIfOk outside.seqSet (store.setLastPushedSeq peerId vars.cursor) store, .onSeqSet vars outside.seqSet)
    | .returned result => (store, .returned result)

/-- `sync_pull_from_peer` after so many steps. -/
def pullRun (peerId : String) (limit : UInt64) (lastCursor : Except Error Int) (outside : Nat → PullOutside)
    (store : LocalStore) : Nat → LocalStore × PullState
  | 0 => (store, .start limit lastCursor)
  | n + 1 => (outside n).step peerId (pullRun peerId limit lastCursor outside store n)

/-- `sync_push_to_peer` after so many steps. -/
def pushRun (peerId : String) (limit : UInt64) (sourceDeviceId : Option String)
    (lastPushedSeq : Except Error Int) (outside : Nat → PushOutside) (store : LocalStore) :
    Nat → LocalStore × PushState
  | 0 => (store, .start limit lastPushedSeq)
  | n + 1 => (outside n).step peerId sourceDeviceId (pushRun peerId limit sourceDeviceId lastPushedSeq outside store n)

/-! What is left of a session: how far the cursor can still go, and then how small the limit can
    still get. -/

def cursorLeft (cursor : Int) : Nat := (maxI64 - cursor).toNat + 1

theorem cursorLeft_lt {cursor next : Int} (advances : cursor < next) (i64 : next ≤ maxI64) :
    cursorLeft next < cursorLeft cursor := by
  unfold cursorLeft
  omega

def PullState.left : PullState → ℕ ×ₗ ℕ
  | .pulling vars => toLex (cursorLeft vars.cursor, vars.batchLimit.toNat + 1)
  | .inserting vars _ => toLex (cursorLeft vars.cursor, 0)
  | .advancing vars nextCursor => toLex (cursorLeft nextCursor, vars.batchLimit.toNat + 2)
  | .returned _ => toLex (0, 0)

def PushState.left : PushState → ℕ ×ₗ ℕ
  | .reading vars => toLex (cursorLeft vars.cursor, 2 * vars.batchLimit.toNat + 1)
  | .pushing vars _ => toLex (cursorLeft vars.cursor, 2 * vars.batchLimit.toNat)
  | .advancing vars => toLex (cursorLeft vars.cursor, 2 * vars.batchLimit.toNat + 2)
  | .returned _ => toLex (0, 0)

theorem lex_first {a b a' b' : Nat} (less : a < a') : toLex (a, b) < toLex (a', b') := Prod.Lex.left _ _ less

theorem lex_second {a b b' : Nat} (less : b < b') : toLex (a, b) < toLex (a, b') := Prod.Lex.right _ less

theorem lex_done (cursor : Int) (b : Nat) : toLex (0, 0) < toLex (cursorLeft cursor, b) :=
  lex_first (Nat.succ_pos _)

/-- A batch ends within the `i64`s. -/
def EndsInI64 (batch : PullBatch) : Prop := ∀ nextCursor, batch.nextCursor = some nextCursor → nextCursor ≤ maxI64

/-! The steps of a pull session. -/

/-- The limit is at least 1, and a batch in hand ends within the `i64`s. -/
def PullState.Sound : PullState → Prop
  | .pulling vars => 1 ≤ vars.batchLimit
  | .inserting vars batch => 1 ≤ vars.batchLimit ∧ EndsInI64 batch
  | .advancing vars _ => 1 ≤ vars.batchLimit
  | .returned _ => True

section

variable {peerId : String} {limit : UInt64} {lastCursor : Except Error Int} {store : LocalStore}

theorem PullState.start_sound (limit : UInt64) (lastCursor : Except Error Int) : (start limit lastCursor).Sound := by
  unfold start
  split
  · exact trivial
  · rename_i nonzero
    split
    · exact trivial
    · exact UInt64.pos_iff_ne_zero.mpr nonzero

theorem PullState.onReply_cases (vars : PullVars) (reply : Except Error PullBatch) :
    (∃ result, onReply vars reply = .returned result) ∨
      (∃ err, reply = .error err ∧ isPayloadTooLargeError err = true ∧ ¬ vars.batchLimit ≤ 1 ∧
        onReply vars reply = .pulling { vars with batchLimit := halved vars.batchLimit }) ∨
      ∃ batch, reply = .ok batch ∧ onReply vars reply = .inserting vars batch := by
  cases reply with
  | error err =>
    simp only [onReply]
    split
    · rename_i tooLarge
      split
      · exact Or.inl ⟨_, rfl⟩
      · rename_i several
        exact Or.inr (Or.inl ⟨err, rfl, tooLarge, several, rfl⟩)
    · exact Or.inl ⟨_, rfl⟩
  | ok batch =>
    simp only [onReply]
    split
    · exact Or.inl ⟨_, rfl⟩
    · exact Or.inr (Or.inr ⟨batch, rfl, rfl⟩)

/-- All that one step of a pull session can do. -/
inductive PullMove (peerId : String) (outside : PullOutside) :
    LocalStore → PullState → LocalStore → PullState → Prop
  | retries (store : LocalStore) (vars : PullVars) :
      ¬ vars.batchLimit ≤ 1 →
      PullMove peerId outside store (.pulling vars) store
        (.pulling { vars with batchLimit := halved vars.batchLimit })
  | accepts (store : LocalStore) (vars : PullVars) (batch : PullBatch) :
      outside.reply.result = .ok batch →
      PullMove peerId outside store (.pulling vars) store (.inserting vars batch)
  | inserts (store : LocalStore) (vars later : PullVars) (batch : PullBatch) (nextCursor : Int) :
      batch.nextCursor = some nextCursor → vars.cursor < nextCursor → later.batchLimit = vars.batchLimit →
      PullMove peerId outside store (.inserting vars batch)
        (store.insertEntriesWithStats batch.entries outside.faults).2 (.advancing later nextCursor)
  | sets (store : LocalStore) (vars : PullVars) (nextCursor : Int) :
      outside.cursorSet = .ok () →
      PullMove peerId outside store (.advancing vars nextCursor) (store.setLastCursor peerId nextCursor)
        (.pulling { vars with cursor := nextCursor })
  | rejects (store : LocalStore) (vars : PullVars) (batch : PullBatch) (err : Error) :
      PullMove peerId outside store (.inserting vars batch)
        (store.insertEntriesWithStats batch.entries outside.faults).2 (.returned (.error err))
  | returns (store : LocalStore) (state : PullState) (result : Except Error PullStats) :
      PullMove peerId outside store state store (.returned result)

theorem PullOutside.step_moves (outside : PullOutside) (store : LocalStore) (state : PullState) :
    PullMove peerId outside store state (outside.step peerId (store, state)).1
      (outside.step peerId (store, state)).2 := by
  cases state with
  | pulling vars =>
    simp only [PullOutside.step]
    rcases PullState.onReply_cases vars outside.reply.result with
      ⟨result, ends⟩ | ⟨err, -, -, several, retries⟩ | ⟨batch, answer, accepts⟩
    · rw [ends]
      exact .returns store _ result
    · rw [retries]
      exact .retries store vars several
    · rw [accepts]
      exact .accepts store vars batch answer
  | inserting vars batch =>
    simp only [PullOutside.step]
    rcases PullState.onInserted_cases vars batch (store.insertEntriesWithStats batch.entries outside.faults).1 with
      ⟨err, ends⟩ | ⟨later, nextCursor, stats, accepts, -, found, advances, sameLimit⟩
    · rw [ends]
      exact .rejects store vars batch err
    · rw [accepts]
      exact .inserts store vars later batch nextCursor found advances sameLimit
  | advancing vars nextCursor =>
    cases set : outside.cursorSet with
    | error err =>
      simp only [PullOutside.step, set]
      exact .returns store _ (.error err)
    | ok _ =>
      simp only [PullOutside.step, set]
      exact .sets store vars nextCursor set
  | returned result => exact .returns store _ result

/-- Every step before the return leaves less, and keeps the state sound. -/
theorem PullOutside.step_left (outside : PullOutside) {state : PullState} (sound : state.Sound)
    (running : ∀ result, state ≠ .returned result) :
    (outside.step peerId (store, state)).2.Sound ∧ (outside.step peerId (store, state)).2.left < state.left := by
  have move := @PullOutside.step_moves peerId outside store state
  generalize outside.step peerId (store, state) = out at move ⊢
  obtain ⟨after, next⟩ := out
  cases move with
  | retries vars several => exact ⟨one_le_halved _, lex_second (Nat.succ_lt_succ (halved_lt several))⟩
  | accepts vars batch answer =>
    exact ⟨⟨sound, fun nextCursor found => (outside.reply.i64 batch nextCursor answer found).2⟩,
      lex_second (Nat.succ_pos _)⟩
  | inserts vars later batch nextCursor found advances sameLimit =>
    have positive : 1 ≤ later.batchLimit := sameLimit ▸ sound.1
    exact ⟨positive, lex_first (cursorLeft_lt advances (sound.2 nextCursor found))⟩
  | sets vars nextCursor => exact ⟨sound, lex_second (Nat.lt_succ_self _)⟩
  | rejects => exact ⟨trivial, lex_done _ _⟩
  | returns result =>
    apply And.intro trivial
    cases state with
    | returned result => exact absurd rfl (running result)
    | pulling | inserting | advancing => exact lex_done _ _

theorem pullRun_sound (outside : Nat → PullOutside) (n : Nat) :
    (pullRun peerId limit lastCursor outside store n).2.Sound := by
  induction n with
  | zero => exact PullState.start_sound limit lastCursor
  | succ n ih =>
    cases state : (pullRun peerId limit lastCursor outside store n).2 with
    | returned result =>
      show ((outside n).step peerId (_, (pullRun peerId limit lastCursor outside store n).2)).2.Sound
      rw [state]
      exact trivial
    | pulling | inserting | advancing =>
      apply ((outside n).step_left ih _).1
      rw [state]
      intro result same
      cases same

theorem pullRun_returned {outside : Nat → PullOutside} {last n : Nat} {result : Except Error PullStats}
    (returned : (pullRun peerId limit lastCursor outside store last).2 = .returned result) (later : last ≤ n) :
    (pullRun peerId limit lastCursor outside store n).2 = .returned result := by
  induction later with
  | refl => exact returned
  | @step n later ih =>
    show ((outside n).step peerId (_, (pullRun peerId limit lastCursor outside store n).2)).2 = _
    rw [ih]
    rfl

end

/-! The steps of a push session. -/

/-- The limit is at least 1, and a batch in hand ends within the `i64`s. -/
def PushState.Sound : PushState → Prop
  | .reading vars => 1 ≤ vars.batchLimit
  | .pushing vars batch => 1 ≤ vars.batchLimit ∧ EndsInI64 batch
  | .advancing vars => 1 ≤ vars.batchLimit
  | .returned _ => True

section

variable {peerId : String} {limit : UInt64} {sourceDeviceId : Option String}
  {lastPushedSeq : Except Error Int} {store : LocalStore}

theorem PushState.start_sound (limit : UInt64) (lastPushedSeq : Except Error Int) :
    (start limit lastPushedSeq).Sound := by
  unfold start
  split
  · exact trivial
  · rename_i nonzero
    split
    · exact trivial
    · exact UInt64.pos_iff_ne_zero.mpr nonzero

theorem readPushBatch_i64 {cursor : Int} {batch : PullBatch} (rowids : store.entries.sequence ≤ maxRowid)
    (read : readPushBatch store sourceDeviceId cursor limit = .ok batch) : EndsInI64 batch := by
  intro nextCursor found
  obtain ⟨last, ends, rfl⟩ := (readPushBatch_of read).nextCursor_some found
  have listed := (NumberedTable.mem_page (List.mem_of_getLast? ends)).1
  exact (store.entries.numbered last listed).2.trans rowids

theorem PushState.onPushed_cases (vars : PushVars) (batch : PullBatch) (pushed : Except Error Unit) :
    (∃ err, onPushed vars batch pushed = .returned (.error err)) ∨
      (∃ err, pushed = .error err ∧ isPayloadTooLargeError err = true ∧ ¬ vars.batchLimit ≤ 1 ∧
        onPushed vars batch pushed = .reading { vars with batchLimit := halved vars.batchLimit }) ∨
      ∃ later, onPushed vars batch pushed = .advancing later ∧ batch.nextCursor = some later.cursor ∧
        vars.cursor < later.cursor ∧ later.batchLimit = vars.batchLimit := by
  cases pushed with
  | error err =>
    simp only [onPushed]
    split
    · rename_i tooLarge
      split
      · exact Or.inl ⟨_, rfl⟩
      · rename_i several
        exact Or.inr (Or.inl ⟨err, rfl, tooLarge, several, rfl⟩)
    · exact Or.inl ⟨_, rfl⟩
  | ok _ =>
    rcases onPushed_ok vars batch with ends | accepts
    · exact Or.inl ends
    · exact Or.inr (Or.inr accepts)

/-- All that one step of a push session can do. -/
inductive PushMove (peerId : String) (outside : PushOutside) :
    LocalStore → PushState → LocalStore → PushState → Prop
  | reads (store : LocalStore) (vars : PushVars) (batch : PullBatch) (sourceDeviceId : Option String) :
      readPushBatch (outside.others store) sourceDeviceId vars.cursor vars.batchLimit = .ok batch →
      PushMove peerId outside store (.reading vars) (outside.others store) (.pushing vars batch)
  | retries (store : LocalStore) (vars : PushVars) (batch : PullBatch) :
      ¬ vars.batchLimit ≤ 1 →
      PushMove peerId outside store (.pushing vars batch) (outside.others store)
        (.reading { vars with batchLimit := halved vars.batchLimit })
  | accepts (store : LocalStore) (vars later : PushVars) (batch : PullBatch) :
      batch.nextCursor = some later.cursor → vars.cursor < later.cursor → later.batchLimit = vars.batchLimit →
      PushMove peerId outside store (.pushing vars batch) (outside.others store) (.advancing later)
  | sets (store : LocalStore) (vars : PushVars) :
      outside.seqSet = .ok () →
      PushMove peerId outside store (.advancing vars) ((outside.others store).setLastPushedSeq peerId vars.cursor)
        (.reading vars)
  | returns (store : LocalStore) (state : PushState) (result : Except Error Nat) :
      PushMove peerId outside store state (outside.others store) (.returned result)

theorem PushOutside.step_moves (outside : PushOutside) (sourceDeviceId : Option String) (store : LocalStore)
    (state : PushState) :
    PushMove peerId outside store state (outside.step peerId sourceDeviceId (store, state)).1
      (outside.step peerId sourceDeviceId (store, state)).2 := by
  cases state with
  | reading vars =>
    simp only [PushOutside.step]
    generalize read : (outside.read.bind fun () =>
      readPushBatch (outside.others store) sourceDeviceId vars.cursor vars.batchLimit) = answer
    rcases PushState.onRead_cases vars answer with ⟨err, ends⟩ | ⟨batch, answered, ⟨-, ends⟩ | ⟨-, reads⟩⟩
    · rw [ends]
      exact .returns store _ (.error err)
    · rw [ends]
      exact .returns store _ (.ok vars.pushedTotal)
    · rw [reads]
      obtain ⟨-, -, same⟩ := bind_ok.mp (read.trans answered)
      exact .reads store vars batch sourceDeviceId same
  | pushing vars batch =>
    simp only [PushOutside.step]
    rcases PushState.onPushed_cases vars batch outside.push with
      ⟨err, ends⟩ | ⟨err, -, -, several, retries⟩ | ⟨later, accepts, found, advances, sameLimit⟩
    · rw [ends]
      exact .returns store _ (.error err)
    · rw [retries]
      exact .retries store vars batch several
    · rw [accepts]
      exact .accepts store vars later batch found advances sameLimit
  | advancing vars =>
    cases set : outside.seqSet with
    | error err =>
      simp only [PushOutside.step, set]
      exact .returns store _ (.error err)
    | ok _ =>
      simp only [PushOutside.step, set]
      exact .sets store vars set
  | returned result => exact .returns store _ result

theorem PushOutside.step_left (outside : PushOutside) (rowids : store.entries.sequence ≤ maxRowid)
    {state : PushState} (sound : state.Sound) (running : ∀ result, state ≠ .returned result) :
    (outside.step peerId sourceDeviceId (store, state)).2.Sound ∧
      (outside.step peerId sourceDeviceId (store, state)).2.left < state.left := by
  have move := @PushOutside.step_moves peerId outside sourceDeviceId store state
  generalize outside.step peerId sourceDeviceId (store, state) = out at move ⊢
  obtain ⟨after, next⟩ := out
  cases move with
  | reads vars batch _ read =>
    exact ⟨⟨sound, readPushBatch_i64 (outside.rowids store rowids) read⟩, lex_second (Nat.lt_succ_self _)⟩
  | retries vars batch several =>
    apply And.intro (one_le_halved _)
    apply lex_second
    have smaller := halved_lt several
    dsimp only
    omega
  | accepts vars later batch found advances sameLimit =>
    have positive : 1 ≤ later.batchLimit := sameLimit ▸ sound.1
    exact ⟨positive, lex_first (cursorLeft_lt advances (sound.2 later.cursor found))⟩
  | sets vars => exact ⟨sound, lex_second (Nat.lt_succ_self _)⟩
  | returns result =>
    apply And.intro trivial
    cases state with
    | returned result => exact absurd rfl (running result)
    | reading | pushing | advancing => exact lex_done _ _

theorem PushOutside.step_rowids (outside : PushOutside) (state : PushState)
    (rowids : store.entries.sequence ≤ maxRowid) :
    (outside.step peerId sourceDeviceId (store, state)).1.entries.sequence ≤ maxRowid := by
  have others := outside.rowids store rowids
  have move := @PushOutside.step_moves peerId outside sourceDeviceId store state
  generalize outside.step peerId sourceDeviceId (store, state) = out at move ⊢
  obtain ⟨after, next⟩ := out
  cases move with
  | reads | retries | accepts | sets | returns => exact others

theorem pushRun_sound (rowids : store.entries.sequence ≤ maxRowid) (outside : Nat → PushOutside) (n : Nat) :
    (pushRun peerId limit sourceDeviceId lastPushedSeq outside store n).1.entries.sequence ≤ maxRowid ∧
      (pushRun peerId limit sourceDeviceId lastPushedSeq outside store n).2.Sound := by
  induction n with
  | zero => exact ⟨rowids, PushState.start_sound limit lastPushedSeq⟩
  | succ n ih =>
    apply And.intro ((outside n).step_rowids _ ih.1)
    cases state : (pushRun peerId limit sourceDeviceId lastPushedSeq outside store n).2 with
    | returned result =>
      show ((outside n).step peerId sourceDeviceId
        (_, (pushRun peerId limit sourceDeviceId lastPushedSeq outside store n).2)).2.Sound
      rw [state]
      exact trivial
    | reading | pushing | advancing =>
      apply ((outside n).step_left ih.1 ih.2 _).1
      rw [state]
      intro result same
      cases same

theorem pushRun_returned {outside : Nat → PushOutside} {last n : Nat} {result : Except Error Nat}
    (returned : (pushRun peerId limit sourceDeviceId lastPushedSeq outside store last).2 = .returned result)
    (later : last ≤ n) :
    (pushRun peerId limit sourceDeviceId lastPushedSeq outside store n).2 = .returned result := by
  induction later with
  | refl => exact returned
  | @step n later ih =>
    show ((outside n).step peerId sourceDeviceId
      (_, (pushRun peerId limit sourceDeviceId lastPushedSeq outside store n).2)).2 = _
    rw [ih]
    rfl

end

/-! How a session ends. -/

/-- Every call asks for something; an answer of "too large" halves what the next call asks for until
    it ends the session; a batch that is accepted moves the cursor up, to an `i64`. -/
structure PullEnds (run : Nat → LocalStore × PullState) (outside : Nat → PullOutside) : Prop where
  returns : ∃ last result, ∀ n, last ≤ n → (run n).2 = .returned result
  asks : ∀ n vars, (run n).2 = .pulling vars → 1 ≤ vars.batchLimit
  shrinks : ∀ n vars err, (run n).2 = .pulling vars → (outside n).reply.result = .error err →
    isPayloadTooLargeError err = true →
    (vars.batchLimit = 1 ∧ ∃ err, (run (n + 1)).2 = .returned (.error err)) ∨
      ∃ limit < vars.batchLimit, (run (n + 1)).2 = .pulling { vars with batchLimit := limit }
  advances : ∀ n vars batch, (run n).2 = .inserting vars batch →
    (∃ err, (run (n + 1)).2 = .returned (.error err)) ∨
      ∃ later nextCursor, (run (n + 1)).2 = .advancing later nextCursor ∧
        vars.cursor < nextCursor ∧ nextCursor ≤ maxI64
  resumes : ∀ n vars nextCursor, (run n).2 = .advancing vars nextCursor →
    (∃ err, (run (n + 1)).2 = .returned (.error err)) ∨
      (run (n + 1)).2 = .pulling { vars with cursor := nextCursor }

structure PushEnds (run : Nat → LocalStore × PushState) (outside : Nat → PushOutside) : Prop where
  returns : ∃ last result, ∀ n, last ≤ n → (run n).2 = .returned result
  asks : ∀ n vars batch, (run n).2 = .pushing vars batch → 1 ≤ vars.batchLimit
  shrinks : ∀ n vars batch err, (run n).2 = .pushing vars batch → (outside n).push = .error err →
    isPayloadTooLargeError err = true →
    (vars.batchLimit = 1 ∧ ∃ err, (run (n + 1)).2 = .returned (.error err)) ∨
      ∃ limit < vars.batchLimit, (run (n + 1)).2 = .reading { vars with batchLimit := limit }
  advances : ∀ n vars batch, (run n).2 = .pushing vars batch → (outside n).push = .ok () →
    (∃ err, (run (n + 1)).2 = .returned (.error err)) ∨
      ∃ later, (run (n + 1)).2 = .advancing later ∧ vars.cursor < later.cursor ∧ later.cursor ≤ maxI64
  resumes : ∀ n vars, (run n).2 = .advancing vars →
    (∃ err, (run (n + 1)).2 = .returned (.error err)) ∨ (run (n + 1)).2 = .reading vars

section

variable {peerId : String} {limit : UInt64} {sourceDeviceId : Option String} {store : LocalStore}
  {lastCursor : Except Error Int}

theorem halved_or_last {batchLimit : UInt64} (positive : 1 ≤ batchLimit) :
    batchLimit = 1 ∨ (¬ batchLimit ≤ 1 ∧ halved batchLimit < batchLimit) := by
  by_cases last : batchLimit ≤ 1
  · exact Or.inl (UInt64.le_antisymm last positive)
  · exact Or.inr ⟨last, UInt64.lt_iff_toNat_lt.mpr (halved_lt last)⟩

theorem pullRun_next {outside : Nat → PullOutside} {n : Nat} {state : PullState}
    (now : (pullRun peerId limit lastCursor outside store n).2 = state) :
    ∃ here, pullRun peerId limit lastCursor outside store (n + 1) = (outside n).step peerId (here, state) := by
  refine ⟨(pullRun peerId limit lastCursor outside store n).1, ?_⟩
  rw [← now]
  rfl

theorem pullRun_ends (outside : Nat → PullOutside) :
    PullEnds (pullRun peerId limit lastCursor outside store) outside where
  returns := by
    obtain ⟨last, result, returned⟩ : ∃ n result,
        (pullRun peerId limit lastCursor outside store n).2 = .returned result := by
      apply rests_of_descends (fun run : LocalStore × PullState => ∃ result, run.2 = .returned result)
        fun run => run.2.left
      intro n running
      exact ((outside n).step_left (pullRun_sound outside n) fun result same => running ⟨result, same⟩).2
    exact ⟨last, result, fun n later => pullRun_returned returned later⟩
  asks := by
    intro n vars asks
    have sound := @pullRun_sound peerId limit lastCursor store outside n
    rw [asks] at sound
    exact sound
  shrinks := by
    intro n vars err asks reply tooLarge
    have sound := @pullRun_sound peerId limit lastCursor store outside n
    rw [asks] at sound
    obtain ⟨here, next⟩ := pullRun_next asks
    have answered : (pullRun peerId limit lastCursor outside store (n + 1)).2 = .onReply vars (.error err) := by
      rw [next, ← reply]
      rfl
    rw [answered]
    simp only [PullState.onReply, tooLarge, if_true]
    rcases halved_or_last sound with one | ⟨several, smaller⟩
    · exact Or.inl ⟨one, _, if_pos (UInt64.le_of_eq one)⟩
    · exact Or.inr ⟨halved vars.batchLimit, smaller, if_neg several⟩
  advances := by
    intro n vars batch inserts
    have sound := @pullRun_sound peerId limit lastCursor store outside n
    rw [inserts] at sound
    obtain ⟨here, next⟩ := pullRun_next inserts
    have inserted : (pullRun peerId limit lastCursor outside store (n + 1)).2 =
        .onInserted vars batch (here.insertEntriesWithStats batch.entries (outside n).faults).1 := by
      rw [next]
      rfl
    rw [inserted]
    rcases PullState.onInserted_cases vars batch (here.insertEntriesWithStats batch.entries (outside n).faults).1 with
      ends | ⟨later, nextCursor, stats, accepts, -, found, advances, -⟩
    · exact Or.inl ends
    · exact Or.inr ⟨later, nextCursor, accepts, advances, sound.2 nextCursor found⟩
  resumes := by
    intro n vars nextCursor advances
    obtain ⟨here, next⟩ := pullRun_next advances
    have set : (pullRun peerId limit lastCursor outside store (n + 1)).2 =
        .onCursorSet vars nextCursor (outside n).cursorSet := by
      rw [next]
      rfl
    rw [set]
    cases (outside n).cursorSet with
    | error err => exact Or.inl ⟨err, rfl⟩
    | ok _ => exact Or.inr rfl

theorem pushRun_next {lastPushedSeq : Except Error Int} {outside : Nat → PushOutside} {n : Nat}
    {state : PushState} (now : (pushRun peerId limit sourceDeviceId lastPushedSeq outside store n).2 = state) :
    ∃ here, pushRun peerId limit sourceDeviceId lastPushedSeq outside store (n + 1) =
      (outside n).step peerId sourceDeviceId (here, state) := by
  refine ⟨(pushRun peerId limit sourceDeviceId lastPushedSeq outside store n).1, ?_⟩
  rw [← now]
  rfl

theorem pushRun_ends {lastPushedSeq : Except Error Int} (rowids : store.entries.sequence ≤ maxRowid)
    (outside : Nat → PushOutside) :
    PushEnds (pushRun peerId limit sourceDeviceId lastPushedSeq outside store) outside where
  returns := by
    obtain ⟨last, result, returned⟩ : ∃ n result,
        (pushRun peerId limit sourceDeviceId lastPushedSeq outside store n).2 = .returned result := by
      apply rests_of_descends (fun run : LocalStore × PushState => ∃ result, run.2 = .returned result)
        fun run => run.2.left
      intro n running
      have sound := @pushRun_sound peerId limit sourceDeviceId lastPushedSeq store rowids outside n
      exact ((outside n).step_left sound.1 sound.2 fun result same => running ⟨result, same⟩).2
    exact ⟨last, result, fun n later => pushRun_returned returned later⟩
  asks := by
    intro n vars batch asks
    have sound := (@pushRun_sound peerId limit sourceDeviceId lastPushedSeq store rowids outside n).2
    rw [asks] at sound
    exact sound.1
  shrinks := by
    intro n vars batch err asks reply tooLarge
    have sound := (@pushRun_sound peerId limit sourceDeviceId lastPushedSeq store rowids outside n).2
    rw [asks] at sound
    obtain ⟨here, next⟩ := pushRun_next asks
    have answered : (pushRun peerId limit sourceDeviceId lastPushedSeq outside store (n + 1)).2 =
        .onPushed vars batch (.error err) := by
      rw [next, ← reply]
      rfl
    rw [answered]
    simp only [PushState.onPushed, tooLarge, if_true]
    rcases halved_or_last sound.1 with one | ⟨several, smaller⟩
    · exact Or.inl ⟨one, _, if_pos (UInt64.le_of_eq one)⟩
    · exact Or.inr ⟨halved vars.batchLimit, smaller, if_neg several⟩
  advances := by
    intro n vars batch asks accepted
    have sound := (@pushRun_sound peerId limit sourceDeviceId lastPushedSeq store rowids outside n).2
    rw [asks] at sound
    obtain ⟨here, next⟩ := pushRun_next asks
    have answered : (pushRun peerId limit sourceDeviceId lastPushedSeq outside store (n + 1)).2 =
        .onPushed vars batch (.ok ()) := by
      rw [next, ← accepted]
      rfl
    rw [answered]
    rcases PushState.onPushed_ok vars batch with ends | ⟨later, advances, found, above, -⟩
    · exact Or.inl ends
    · exact Or.inr ⟨later, advances, above, sound.2 later.cursor found⟩
  resumes := by
    intro n vars advances
    obtain ⟨here, next⟩ := pushRun_next advances
    have set : (pushRun peerId limit sourceDeviceId lastPushedSeq outside store (n + 1)).2 =
        .onSeqSet vars (outside n).seqSet := by
      rw [next]
      rfl
    rw [set]
    cases (outside n).seqSet with
    | error err => exact Or.inl ⟨err, rfl⟩
    | ok _ => exact Or.inr rfl

/-! A session that is left alone, with a peer that answers from what it is asked. -/

theorem pullRun_alone {pull : Int → UInt64 → Except Error PullBatch} {outside : Nat → PullOutside}
    (quiet : ∀ n, (outside n).faults = noFaults ∧ (outside n).cursorSet = .ok ())
    (answers : ∀ n vars, (syncPullFromPeer n store peerId limit pull).2 = .pulling vars →
      (outside n).reply.result = pull vars.cursor vars.batchLimit) (n : Nat) :
    pullRun peerId limit (.ok (store.getLastCursor peerId)) outside store n =
      syncPullFromPeer n store peerId limit pull := by
  induction n with
  | zero => rfl
  | succ n ih =>
    have alone : syncPullFromPeer (n + 1) store peerId limit pull =
        PullState.step peerId pull (syncPullFromPeer n store peerId limit pull) :=
      Function.iterate_succ_apply' _ _ _
    rw [alone, pullRun, ih]
    obtain ⟨faults, set⟩ := quiet n
    cases now : syncPullFromPeer n store peerId limit pull with
    | mk here state =>
      cases state with
      | pulling vars =>
        have answer := answers n vars (congrArg Prod.snd now)
        simp only [PullOutside.step, PullState.step, answer]
      | inserting vars batch => simp only [PullOutside.step, PullState.step, faults]
      | advancing vars nextCursor => simp only [PullOutside.step, PullState.step, set, setIfOk]
      | returned result => rfl

theorem pushRun_alone {push : List Entry → Except Error Unit} {outside : Nat → PushOutside}
    (quiet : ∀ n, (outside n).others = id ∧ (outside n).read = .ok () ∧ (outside n).seqSet = .ok ())
    (answers : ∀ n vars batch, (syncPushToPeer n store peerId limit sourceDeviceId push).state =
      .pushing vars batch → (outside n).push = push batch.entries) (n : Nat) :
    pushRun peerId limit sourceDeviceId (.ok (store.getLastPushedSeq peerId)) outside store n =
      ((syncPushToPeer n store peerId limit sourceDeviceId push).store,
        (syncPushToPeer n store peerId limit sourceDeviceId push).state) := by
  induction n with
  | zero => rfl
  | succ n ih =>
    have alone : syncPushToPeer (n + 1) store peerId limit sourceDeviceId push =
        PushRun.step peerId sourceDeviceId push (syncPushToPeer n store peerId limit sourceDeviceId push) :=
      Function.iterate_succ_apply' _ _ _
    rw [alone, pushRun, ih]
    obtain ⟨others, read, set⟩ := quiet n
    cases now : syncPushToPeer n store peerId limit sourceDeviceId push with
    | mk here state handed =>
      cases state with
      | reading vars =>
        simp only [PushOutside.step, PushRun.step, others, read, id_eq, Except.bind]
      | pushing vars batch =>
        have answer := answers n vars batch (congrArg PushRun.state now)
        simp only [PushOutside.step, PushRun.step, others, answer, id_eq]
      | advancing vars => simp only [PushOutside.step, PushRun.step, others, set, setIfOk, id_eq]
      | returned result => simp only [PushOutside.step, PushRun.step, others, id_eq]

end

/-- No session goes on forever: whatever the peer answers and whatever other processes insert, it
    returns, after calls that each ask for at least one entry. -/
theorem sync_sessions_end (store : LocalStore) (rowids : store.entries.sequence ≤ maxRowid) (peerId : String)
    (limit : UInt64) (sourceDeviceId : Option String) (lastCursor lastPushedSeq : Except Error Int)
    (pullOutside : Nat → PullOutside) (pushOutside : Nat → PushOutside) :
    PullEnds (pullRun peerId limit lastCursor pullOutside store) pullOutside ∧
      PushEnds (pushRun peerId limit sourceDeviceId lastPushedSeq pushOutside store) pushOutside :=
  ⟨pullRun_ends pullOutside, pushRun_ends rowids pushOutside⟩

/-- A peer to which everything is too large. -/
def neverEnough : Error := bail "request too large"

def refusesPulls : PullOutside where
  reply := ⟨.error neverEnough, fun _ _ answered => by cases answered⟩
  faults := noFaults
  cursorSet := .ok ()

def refusesPushes : PushOutside where
  others := fun store => store
  rowids := fun _ rowids => rowids
  read := .ok ()
  push := .error neverEnough
  seqSet := .ok ()

theorem sync_sessions_end_refused :
    (opened.inserted [firstEcho, secondEcho]).entries.sequence ≤ maxRowid ∧
      PullEnds (pullRun "peer-a" 5 (.ok 0) (fun _ => refusesPulls) (opened.inserted [firstEcho, secondEcho]))
        (fun _ => refusesPulls) ∧
      PushEnds (pushRun "peer-a" 5 (some "dev1") (.ok 0) (fun _ => refusesPushes)
        (opened.inserted [firstEcho, secondEcho])) (fun _ => refusesPushes) :=
  ⟨by decide, sync_sessions_end _ (by decide) "peer-a" 5 (some "dev1") (.ok 0) (.ok 0) _ _⟩

end Rustory
