import Rustory.Sync.PushSession

namespace Rustory

open Foundations LocalStore

/-- The rows that a session of this device filter still has to hand to `peerId`. -/
def pendingRows (store : LocalStore) (peerId : String) (source : Option String) : List IngestRow :=
  store.entries.after (pushSelects source) (store.getLastPushedSeq peerId)

theorem countPendingPushEntries_eq (store : LocalStore) (peerId : String) (source : Option String) :
    store.countPendingPushEntries peerId source = (pendingRows store peerId source).length := by
  cases source <;> rfl

/-- A session that is over, and that has sent exactly what was pending in `store` before it. -/
structure SentPending (store : LocalStore) (peerId : String) (source : Option String)
    (push : List Entry → Except Error Unit) (run : PushRun) : Prop where
  returned : run.state = .returned (.ok (store.countPendingPushEntries peerId source))
  accepted : rowsOf (accepted push run.handed).flatten =
    (pendingRows store peerId source).map Numbered.val
  ascending : (pendingRows store peerId source).Pairwise (fun a b => a.seq < b.seq)
  offered : ∀ deviceId, source = some deviceId → ∀ batch ∈ run.handed, ∀ e ∈ batch, e.deviceId = deviceId
  emptied : run.store.countPendingPushEntries peerId source = 0
  cursor : run.store.getLastPushedSeqOpt peerId =
    ((pendingRows store peerId source).getLast?.map Numbered.seq).or (store.getLastPushedSeqOpt peerId)
  others : ∀ other, other ≠ peerId → run.store.getLastPushedSeqOpt other = store.getLastPushedSeqOpt other
  entries : run.store.entries = store.entries
  peerState : run.store.peerState = store.peerState
  peerBook : run.store.peerBook = store.peerBook

def SendsPending (store : LocalStore) (peerId : String) (source : Option String) (limit : UInt64)
    (push : List Entry → Except Error Unit) : Prop :=
  ∃ fuel, SentPending store peerId source push (syncPushToPeer fuel store peerId limit source push)

section

variable {store : LocalStore} {peerId : String} {source : Option String} {limit : UInt64}
  {push : List Entry → Except Error Unit}

/-! The store after the last row was handed over. -/

theorem pushedTo_cursor :
    (pushedTo store peerId (pendingRows store peerId source)).getLastPushedSeqOpt peerId =
      ((pendingRows store peerId source).getLast?.map Numbered.seq).or (store.getLastPushedSeqOpt peerId) := by
  unfold pushedTo
  cases (pendingRows store peerId source).getLast? with
  | none => rfl
  | some last => exact AList.lookup_insert _

theorem pushedTo_others (rows : List IngestRow) {other : String} (different : other ≠ peerId) :
    (pushedTo store peerId rows).getLastPushedSeqOpt other = store.getLastPushedSeqOpt other := by
  unfold pushedTo
  cases rows.getLast? with
  | none => rfl
  | some last => exact AList.lookup_insert_ne different

theorem pushedTo_rest (rows : List IngestRow) :
    (pushedTo store peerId rows).entries = store.entries ∧
      (pushedTo store peerId rows).peerState = store.peerState ∧
      (pushedTo store peerId rows).peerBook = store.peerBook := by
  unfold pushedTo
  cases rows.getLast? <;> exact ⟨rfl, rfl, rfl⟩

theorem pushedTo_emptied :
    (pushedTo store peerId (pendingRows store peerId source)).countPendingPushEntries peerId source = 0 := by
  rw [countPendingPushEntries_eq, List.length_eq_zero_iff]
  cases ends : (pendingRows store peerId source).getLast? with
  | none =>
    have empty := List.getLast?_eq_none_iff.mp ends
    rw [empty]
    exact empty
  | some last =>
    have cursor := @pushedTo_cursor store peerId source
    rw [ends] at cursor
    have seq : (pushedTo store peerId (pendingRows store peerId source)).getLastPushedSeq peerId = last.seq := by
      rw [getLastPushedSeq, cursor]
      rfl
    rw [pendingRows, seq, (pushedTo_rest _).1]
    exact NumberedTable.after_end ends

/-! A whole session, by whether its rows can be read. -/

theorem sentPending_of_run {more : List (List Entry)} {run : PushRun}
    (finished : run = ⟨pushedTo store peerId (pendingRows store peerId source),
      .returned (.ok (pendingRows store peerId source).length), more⟩)
    (rows : rowsOf (accepted push more).flatten = (pendingRows store peerId source).map Numbered.val)
    (own : ∀ batch ∈ more, ∀ value ∈ rowsOf batch, pushSelects source value = true) :
    SentPending store peerId source push run := by
  subst finished
  obtain ⟨entries, peerState, peerBook⟩ :=
    @pushedTo_rest store peerId (pendingRows store peerId source)
  exact {
    returned := by rw [countPendingPushEntries_eq]
    accepted := rows
    ascending := store.entries.after_ascending _ _
    offered := by
      rintro deviceId rfl batch listed e member
      have selected := own batch listed e.toRow (List.mem_map_of_mem member)
      exact of_decide_eq_true selected
    emptied := pushedTo_emptied
    cursor := pushedTo_cursor
    others := fun other different => pushedTo_others _ different
    entries := entries
    peerState := peerState
    peerBook := peerBook }

theorem sends_readable (positive : 1 ≤ limit) (answers : TurnsDownOnlyLarge push)
    (readable : ∀ row ∈ pendingRows store peerId source, row.val.Readable) :
    SendsPending store peerId source limit push := by
  let vars : PushVars := ⟨store.getLastPushedSeq peerId, 0, limit⟩
  have first : 1 ≤ vars.batchLimit := positive
  rcases @PushRun.sends_or_breaks peerId source push vars store [] answers first with
    ⟨-, fuel, more, run, rows, own⟩ | ⟨unreadable, -⟩
  · refine ⟨fuel, sentPending_of_run ?_ rows own⟩
    unfold syncPushToPeer
    rw [PushState.start_reading positive, run, Nat.zero_add]
    rfl
  · exact absurd readable unreadable

theorem not_sends_unreadable (positive : 1 ≤ limit) (answers : TurnsDownOnlyLarge push)
    {row : IngestRow} (pending : row ∈ pendingRows store peerId source)
    (unreadable : ¬ row.val.Readable) : ¬ SendsPending store peerId source limit push := by
  intro ⟨fuel, sent⟩
  have returned := sent.returned
  unfold syncPushToPeer at returned
  rw [PushState.start_reading positive] at returned
  let vars : PushVars := ⟨store.getLastPushedSeq peerId, 0, limit⟩
  have first : 1 ≤ vars.batchLimit := positive
  rcases @PushRun.sends_or_breaks peerId source push vars store [] answers first with
    ⟨readable, -⟩ | ⟨-, fuel', err, broken⟩
  · exact unreadable (readable row pending)
  · cases PushRun.returned_unique returned broken

/-- A session sends exactly what is pending when every pending row can be read back. -/
theorem sends_pending_iff (positive : 1 ≤ limit) (answers : TurnsDownOnlyLarge push) :
    SendsPending store peerId source limit push ↔
      ∀ row ∈ pendingRows store peerId source, row.val.Readable := by
  constructor
  · intro sends row pending
    by_contra unreadable
    exact not_sends_unreadable positive answers pending unreadable sends
  · exact sends_readable positive answers

end

theorem sends_pending_iff_echo :
    SendsPending (opened.inserted [firstEcho, secondEcho]) "peer-a" (some "dev1") 1 (fun _ => .ok ()) ↔
      ∀ row ∈ pendingRows (opened.inserted [firstEcho, secondEcho]) "peer-a" (some "dev1"),
        row.val.Readable :=
  sends_pending_iff (by decide) fun _ => Or.inl rfl

/-- A stored entry that cannot be read back stops every session that reaches it. -/
theorem unreadable_entry_stops_push :
    ¬ ∀ (store : LocalStore) (peerId : String) (source : Option String) (limit : UInt64)
      (push : List Entry → Except Error Unit), 1 ≤ limit → TurnsDownOnlyLarge push →
      SendsPending store peerId source limit push := by
  intro sends
  have answers : TurnsDownOnlyLarge fun _ => .ok () := fun _ => Or.inl rfl
  have sent := sends (opened.inserted [lateEcho]) "peer-a" (some "dev1") 1 _ (by decide) answers
  have pending : (⟨1, lateEcho.toRow⟩ : IngestRow) ∈
      pendingRows (opened.inserted [lateEcho]) "peer-a" (some "dev1") := by decide
  exact not_sends_unreadable (by decide) answers pending (by decide) sent

end Rustory
