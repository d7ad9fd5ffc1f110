import Rustory.Sync.AnyPeer

namespace Rustory

open Foundations LocalStore

section

variable (peerId : String) (limit : UInt64) (lastCursor : Except Error Int) (outside : Nat → PullOutside)
  (store : LocalStore)

/-- The store as the last valid batch left it, or as the session found it. -/
def settled : Nat → LocalStore
  | 0 => store
  | n + 1 =>
    match (pullRun peerId limit lastCursor outside store n).2 with
    | .advancing _ _ => (pullRun peerId limit lastCursor outside store (n + 1)).1
    | _ => settled n

/-- The session has stored the batch it has in hand, and rejects it for its `next_cursor`. -/
structure Rejects (n : Nat) (vars : PullVars) (batch : PullBatch) : Prop where
  inserting : (pullRun peerId limit lastCursor outside store n).2 = .inserting vars batch
  invalid : ∀ nextCursor, batch.nextCursor = some nextCursor → nextCursor ≤ vars.cursor
  committed : ∃ stats after, (pullRun peerId limit lastCursor outside store n).1.insertEntriesWithStats
    batch.entries (outside n).faults = (.ok stats, after)

/-- Entries and cursors are those after the last valid batch. -/
structure StoresNothing (n : Nat) : Prop where
  entries : (pullRun peerId limit lastCursor outside store n).1.entries.rows =
    (settled peerId limit lastCursor outside store n).entries.rows
  cursors : (pullRun peerId limit lastCursor outside store n).1.peerState =
    (settled peerId limit lastCursor outside store n).peerState

end

section

variable {peerId : String} {limit : UInt64} {lastCursor : Except Error Int} {outside : Nat → PullOutside}
  {store : LocalStore} {n : Nat} {vars : PullVars} {batch : PullBatch}

/-- Whatever is asked and until it is stored, the store is settled. -/
theorem settled_eq (n : Nat) {vars : PullVars}
    (between : (pullRun peerId limit lastCursor outside store n).2 = .pulling vars ∨
      ∃ batch, (pullRun peerId limit lastCursor outside store n).2 = .inserting vars batch) :
    (pullRun peerId limit lastCursor outside store n).1 = settled peerId limit lastCursor outside store n := by
  induction n generalizing vars with
  | zero => rfl
  | succ n ih =>
    rw [settled]
    cases now : pullRun peerId limit lastCursor outside store n with
    | mk here state =>
      have move := @PullOutside.step_moves peerId (outside n) here state
      have next : pullRun peerId limit lastCursor outside store (n + 1) = (outside n).step peerId (here, state) := by
        rw [← now]
        rfl
      rw [now] at ih
      rw [next] at between ⊢
      generalize (outside n).step peerId (here, state) = out at move between ⊢
      obtain ⟨after, later⟩ := out
      cases move with
      | retries | accepts => exact ih (Or.inl rfl)
      | sets => rfl
      -- Each of the other moves leads to another point of the session.
      | inserts | rejects | returns =>
        rcases between with pulls | ⟨_, inserting⟩
        · cases pulls
        · cases inserting

theorem pullRun_committed {stats : InsertStats} {after : LocalStore}
    (inserting : (pullRun peerId limit lastCursor outside store n).2 = .inserting vars batch)
    (committed : (pullRun peerId limit lastCursor outside store n).1.insertEntriesWithStats batch.entries
      (outside n).faults = (.ok stats, after)) :
    pullRun peerId limit lastCursor outside store (n + 1) = (after, .onInserted vars batch (.ok stats)) := by
  have step : pullRun peerId limit lastCursor outside store (n + 1) = (outside n).step peerId
      ((pullRun peerId limit lastCursor outside store n).1, .inserting vars batch) := by
    rw [← inserting]
    rfl
  rw [step, PullOutside.step, committed]

/-- A session that ends after a committed insert ends with the rejection of that batch. -/
theorem rejects_of_returned {stats : InsertStats} {after : LocalStore} {err : Error}
    (inserting : (pullRun peerId limit lastCursor outside store n).2 = .inserting vars batch)
    (committed : (pullRun peerId limit lastCursor outside store n).1.insertEntriesWithStats batch.entries
      (outside n).faults = (.ok stats, after))
    (returned : (pullRun peerId limit lastCursor outside store (n + 1)).2 = .returned (.error err)) :
    Rejects peerId limit lastCursor outside store n vars batch := by
  refine ⟨inserting, ?_, stats, after, committed⟩
  intro nextCursor found
  by_contra advances
  rw [pullRun_committed inserting committed] at returned
  simp only [PullState.onInserted, found, if_neg advances] at returned
  cases returned

theorem Rejects.next (rejects : Rejects peerId limit lastCursor outside store n vars batch) :
    (∃ err, (pullRun peerId limit lastCursor outside store (n + 1)).2 = .returned (.error err)) ∧
      (pullRun peerId limit lastCursor outside store (n + 1)).1 =
        (settled peerId limit lastCursor outside store n).inserted batch.entries ∧
      settled peerId limit lastCursor outside store (n + 1) = settled peerId limit lastCursor outside store n := by
  obtain ⟨stats, after, committed⟩ := rejects.committed
  have here := settled_eq n (Or.inr ⟨batch, rejects.inserting⟩)
  obtain ⟨-, stored⟩ := insertEntriesWithStats_ok committed
  have invalid := rejects.invalid
  rw [pullRun_committed rejects.inserting committed, stored, here, settled, rejects.inserting]
  refine ⟨?_, rfl, rfl⟩
  rcases PullState.onInserted_cases vars batch (.ok stats) with ends | ⟨_, nextCursor, _, _, _, found, advances, -⟩
  · exact ends
  · have still := invalid nextCursor found
    omega

/-- The entries that an insert would add are none when all of them are held. -/
theorem inserted_rows_same_iff (store : LocalStore) (entries : List Entry) :
    (store.inserted entries).entries.rows = store.entries.rows ↔ ∀ e ∈ entries, store.Holds e.entryId := by
  constructor
  · intro same e listed
    have held := (inserted_holds store entries e.entryId).mpr (Or.inr ⟨e, listed, rfl⟩)
    unfold Holds NumberedTable.Holds at held ⊢
    rwa [same] at held
  · intro held
    apply (store.entries.insertAll_present (rowsOf entries) _).1
    intro row listed
    obtain ⟨e, member, rfl⟩ := List.mem_map.mp listed
    exact held e member

end

/-- A rejected batch leaves the store as the last valid one did exactly when it brought nothing new. -/
theorem rejected_batch_stores_nothing_iff {peerId : String} {limit : UInt64} {lastCursor : Except Error Int}
    {outside : Nat → PullOutside} {store : LocalStore} {n : Nat} {vars : PullVars} {batch : PullBatch}
    (rejects : Rejects peerId limit lastCursor outside store n vars batch) :
    (∃ err, (pullRun peerId limit lastCursor outside store (n + 1)).2 = .returned (.error err)) ∧
      (StoresNothing peerId limit lastCursor outside store (n + 1) ↔
        ∀ e ∈ batch.entries, (settled peerId limit lastCursor outside store n).Holds e.entryId) := by
  obtain ⟨returned, stored, same⟩ := rejects.next
  apply And.intro returned
  rw [← inserted_rows_same_iff, ← stored, ← same]
  constructor
  · exact StoresNothing.entries
  · intro rows
    apply StoresNothing.mk rows
    rw [stored, same]
    rfl

/-- A peer whose every reply is one entry and no `next_cursor`. -/
def cursorless : PullOutside where
  reply := ⟨.ok ⟨[firstEcho], none⟩, fun _ _ answered found => by cases answered; cases found⟩
  faults := noFaults
  cursorSet := .ok ()

theorem cursorless_rejects (store : LocalStore) :
    Rejects "peer-a" 5 (.ok 0) (fun _ => cursorless) store 1 ⟨0, 0, 0, 0, 5⟩ ⟨[firstEcho], none⟩ where
  inserting := rfl
  invalid := fun _ found => by cases found
  committed := ⟨_, _, insertEntriesWithStats_noFaults _ _⟩

theorem rejected_batch_stores_nothing_cursorless :
    Rejects "peer-a" 5 (.ok 0) (fun _ => cursorless) (opened.inserted [firstEcho]) 1 ⟨0, 0, 0, 0, 5⟩
        ⟨[firstEcho], none⟩ ∧
      (StoresNothing "peer-a" 5 (.ok 0) (fun _ => cursorless) (opened.inserted [firstEcho]) 2 ↔
        ∀ e ∈ [firstEcho], (settled "peer-a" 5 (.ok 0) (fun _ => cursorless) (opened.inserted [firstEcho])
          1).Holds e.entryId) :=
  ⟨cursorless_rejects _, (rejected_batch_stores_nothing_iff (cursorless_rejects _)).2⟩

/-- The one entry of a batch without a `next_cursor` is in the store when the session ends. -/
theorem rejected_batch_is_stored :
    ¬ ∀ (peerId : String) (limit : UInt64) (lastCursor : Except Error Int) (outside : Nat → PullOutside)
      (store : LocalStore) (n : Nat) (vars : PullVars) (batch : PullBatch),
      Rejects peerId limit lastCursor outside store n vars batch →
      StoresNothing peerId limit lastCursor outside store (n + 1) := by
  intro nothing
  have rows := (nothing _ _ _ _ _ _ _ _ (cursorless_rejects opened)).entries
  revert rows
  decide

end Rustory
