import Rustory.Sync.PushSystem

namespace Rustory

open Foundations LocalStore

/-! `prune_entries_older_than`, one SQL statement a step. -/

structure PruneCall where
  cutoffUnix : Int
  keepRecent : UInt64
  dryRun : Bool

inductive PruneState
  | started (call : PruneCall)
  | keepFloorRead (call : PruneCall) (keepFloorSeq : Option Int)
  | floorsRead (call : PruneCall) (keepFloorSeq pushedFloorSeq : Option Int)
  | counted (call : PruneCall) (keepFloorSeq pushedFloorSeq : Option Int) (matched : Nat)
  | returned (stats : PruneStats)

def PruneState.step (store : LocalStore) : PruneState → LocalStore × PruneState
  | .started call => (store, .keepFloorRead call (store.pruneKeepFloorSeq call.keepRecent))
  | .keepFloorRead call keepFloorSeq => (store, .floorsRead call keepFloorSeq store.prunePushedFloorSeq)
  | .floorsRead call keepFloorSeq pushedFloorSeq =>
    let matched := store.pruneCount (pruneSelects call.cutoffUnix keepFloorSeq pushedFloorSeq)
    if call.dryRun || matched = 0 then
      (store, .returned ⟨matched, 0⟩)
    else
      (store, .counted call keepFloorSeq pushedFloorSeq matched)
  | .counted call keepFloorSeq pushedFloorSeq matched =>
    let (store, deleted) :=
      store.pruneDelete (pruneSelects call.cutoffUnix keepFloorSeq pushedFloorSeq)
    (store, .returned ⟨matched, deleted⟩)
  | .returned stats => (store, .returned stats)

/-- With nothing in between, the four statements are the call as one step. -/
theorem prune_undisturbed (store : LocalStore) (call : PruneCall) :
    (fun run : LocalStore × PruneState => run.2.step run.1)^[4] (store, .started call) =
      ((store.pruneEntriesOlderThan call.cutoffUnix call.keepRecent call.dryRun).2,
        .returned (store.pruneEntriesOlderThan call.cutoffUnix call.keepRecent call.dryRun).1) := by
  let keepFloorSeq := store.pruneKeepFloorSeq call.keepRecent
  let pushedFloorSeq := store.prunePushedFloorSeq
  let matched := store.pruneCount (pruneSelects call.cutoffUnix keepFloorSeq pushedFloorSeq)
  show (fun run : LocalStore × PruneState => run.2.step run.1)
    (PruneState.step store (.floorsRead call keepFloorSeq pushedFloorSeq)) = _
  by_cases stop : (call.dryRun || decide (matched = 0)) = true
  · have counted : PruneState.step store (.floorsRead call keepFloorSeq pushedFloorSeq) =
        (store, .returned ⟨matched, 0⟩) := if_pos stop
    have whole : store.pruneEntriesOlderThan call.cutoffUnix call.keepRecent call.dryRun =
        (⟨matched, 0⟩, store) := if_pos stop
    rw [counted, whole]
    rfl
  · have counted : PruneState.step store (.floorsRead call keepFloorSeq pushedFloorSeq) =
        (store, .counted call keepFloorSeq pushedFloorSeq matched) := if_neg stop
    have whole : store.pruneEntriesOlderThan call.cutoffUnix call.keepRecent call.dryRun =
        (⟨matched, (store.pruneDelete (pruneSelects call.cutoffUnix keepFloorSeq pushedFloorSeq)).2⟩,
          (store.pruneDelete (pruneSelects call.cutoffUnix keepFloorSeq pushedFloorSeq)).1) :=
      if_neg stop
    rw [counted, whole]
    rfl

/-- The `WHERE` clause of a `DELETE` still to come, by its cutoff and the floors it was given. -/
def PruneState.pending : PruneState → Option (Int × Option Int × Option Int)
  | .floorsRead call keepFloorSeq pushedFloorSeq =>
    if call.dryRun then none else some (call.cutoffUnix, keepFloorSeq, pushedFloorSeq)
  | .counted call keepFloorSeq pushedFloorSeq _ => some (call.cutoffUnix, keepFloorSeq, pushedFloorSeq)
  | _ => none

structure RaceWorld (ι : Type*) where
  push : PushWorld ι
  prunes : ι → Option PruneState

inductive RaceAction (ι : Type*)
  | push (action : PushAction ι)
  | pruneStarts (process : ι)
  | prune (process : ι)
  | pruneEnds (process : ι)

section

variable {ι : Type*} [DecidableEq ι]

inductive RaceStep (deviceId : String) : RaceWorld ι → RaceAction ι → RaceWorld ι → Prop
  | push (w : RaceWorld ι) (action : PushAction ι) (after : PushWorld ι) :
      PushStep deviceId w.push action after → RaceStep deviceId w (.push action) { w with push := after }
  | pruneStarts (w : RaceWorld ι) (i : ι) (call : PruneCall) :
      w.prunes i = none →
      RaceStep deviceId w (.pruneStarts i)
        { w with prunes := Function.update w.prunes i (some (.started call)) }
  | prune (w : RaceWorld ι) (i : ι) (state next : PruneState) (store : LocalStore) :
      w.prunes i = some state → state.step w.push.store = (store, next) →
      RaceStep deviceId w (.prune i)
        ⟨{ w.push with store := store }, Function.update w.prunes i (some next)⟩
  | pruneEnds (w : RaceWorld ι) (i : ι) :
      RaceStep deviceId w (.pruneEnds i) { w with prunes := Function.update w.prunes i none }

end

section

variable {ι : Type*}

structure RaceInitial (w : RaceWorld ι) : Prop where
  push : PushInitial w.push
  prunes : ∀ i, w.prunes i = none

/-- The rows of the device that a `DELETE` still to come selects lie at or below `seq`. -/
def PendingBelow (deviceId : String) (w : RaceWorld ι) (seq : Int) : Prop :=
  ∀ i state cutoffUnix keepFloorSeq pushedFloorSeq, w.prunes i = some state →
    state.pending = some (cutoffUnix, keepFloorSeq, pushedFloorSeq) →
    ∀ row ∈ w.push.store.entries.rows, row.val.deviceId = deviceId →
      pruneSelects cutoffUnix keepFloorSeq pushedFloorSeq row = true → row.seq ≤ seq

/-- What the other processes must leave alone between the floors and the `DELETE` of a prune:
    no push cursor is written below a row of the device that the `DELETE` selects, and once
    there is a push cursor, a prune that found no floor gets no new old row of the device. -/
def Calm (deviceId : String) (w : RaceWorld ι) : RaceAction ι → Prop
  | .push (.setSeq _ _ seq) => PendingBelow deviceId w seq
  | .push (.insert entries) =>
    ∀ i state cutoffUnix, w.prunes i = some state → state.pending = some (cutoffUnix, none, none) →
      ∀ peerId, (w.push.store.getLastPushedSeqOpt peerId).isSome →
        ∀ value ∈ w.push.store.entries.firstNew (rowsOf entries),
          value.deviceId = deviceId → cutoffUnix ≤ value.ts
  | _ => True

def PruneState.HasFloor (floor : Int) : PruneState → Prop
  | .keepFloorRead _ keepFloorSeq => keepFloorSeq = some floor
  | .floorsRead _ keepFloorSeq pushedFloorSeq => keepFloorSeq = some floor ∨ pushedFloorSeq = some floor
  | .counted _ keepFloorSeq pushedFloorSeq _ => keepFloorSeq = some floor ∨ pushedFloorSeq = some floor
  | _ => False

/-- No `DELETE` to come, and no floor read yet or any more. -/
def PruneState.Quiet (state : PruneState) : Prop :=
  state.pending = none ∧ ∀ floor, ¬ state.HasFloor floor

theorem PruneState.quiet_started (call : PruneCall) : (started call).Quiet := ⟨rfl, fun _ read => read⟩

theorem PruneState.quiet_returned (stats : PruneStats) : (returned stats).Quiet :=
  ⟨rfl, fun _ read => read⟩

structure RaceInv (deviceId : String) (w : RaceWorld ι) : Prop where
  push : PushInv deviceId w.push
  safe : ∀ peerId seq, w.push.store.getLastPushedSeqOpt peerId = some seq → PendingBelow deviceId w seq
  floors : ∀ i state floor, w.prunes i = some state → state.HasFloor floor →
    floor ≤ w.push.store.entries.sequence

theorem RaceInitial.inv {deviceId : String} {w : RaceWorld ι} (init : RaceInitial w) :
    RaceInv deviceId w := by
  apply RaceInv.mk init.push.inv
  · intro peerId seq cursor i state cutoffUnix keepFloorSeq pushedFloorSeq running
    rw [init.prunes i] at running
    cases running
  · intro i state floor running
    rw [init.prunes i] at running
    cases running

theorem PruneState.hasFloor_pending {state : PruneState} {cutoffUnix : Int}
    {keepFloorSeq pushedFloorSeq : Option Int}
    (h : state.pending = some (cutoffUnix, keepFloorSeq, pushedFloorSeq)) {floor : Int}
    (read : keepFloorSeq = some floor ∨ pushedFloorSeq = some floor) : state.HasFloor floor := by
  cases state with
  | floorsRead call keep pushed =>
    simp only [PruneState.pending] at h
    split at h
    · cases h
    · cases h
      exact read
  | counted call keep pushed matched =>
    cases h
    exact read
  | started | keepFloorRead | returned => cases h

theorem pruneSelects_new {deviceId : String} {w : RaceWorld ι} (inv : RaceInv deviceId w) {i : ι}
    {state : PruneState} (running : w.prunes i = some state) {cutoffUnix : Int}
    {keepFloorSeq pushedFloorSeq : Option Int}
    (pending : state.pending = some (cutoffUnix, keepFloorSeq, pushedFloorSeq)) {row : IngestRow}
    (new : w.push.store.entries.sequence < row.seq)
    (selected : pruneSelects cutoffUnix keepFloorSeq pushedFloorSeq row = true) :
    keepFloorSeq = none ∧ pushedFloorSeq = none := by
  have bound : ∀ floor, keepFloorSeq = some floor ∨ pushedFloorSeq = some floor →
      floor ≤ w.push.store.entries.sequence := fun floor read =>
    inv.floors i state floor running (PruneState.hasFloor_pending pending read)
  constructor
  · cases keepFloorSeq with
    | none => rfl
    | some floor =>
      have low := bound floor (Or.inl rfl)
      have below := pruneSelects_kept selected
      omega
  · cases pushedFloorSeq with
    | none => rfl
    | some floor =>
      have low := bound floor (Or.inr rfl)
      have below := pruneSelects_pushed selected
      omega

theorem PushStep.store_cases [DecidableEq ι] {deviceId : String} {w after : PushWorld ι}
    {action : PushAction ι} (step : PushStep deviceId w action after) :
    (after.store = w.store ∧ (∀ entries, action ≠ .insert entries) ∧
        ∀ i peerId seq, action ≠ .setSeq i peerId seq) ∨
      (∃ entries, action = .insert entries ∧ after.store = w.store.inserted entries) ∨
      ∃ i peerId seq, action = .setSeq i peerId seq ∧
        after.store = w.store.setLastPushedSeq peerId seq := by
  cases step with
  | insert entries faults result store committed =>
    cases result with
    | error err =>
      exact Or.inl ⟨insertEntriesWithStats_error committed, by simp [PushAction.ofInsert],
        by simp [PushAction.ofInsert]⟩
    | ok stats => exact Or.inr (Or.inl ⟨entries, rfl, (insertEntriesWithStats_ok committed).2⟩)
  | setSeq i peerId atStart vars running => exact Or.inr (Or.inr ⟨i, peerId, vars.cursor, rfl, rfl⟩)
  | start | read | send | deliver | pushed | setSeqFails | crash | peerInsert | peerPrune =>
    exact Or.inl ⟨rfl, by simp, by simp⟩

variable [DecidableEq ι]

omit [DecidableEq ι] in
theorem RaceInv.insert {deviceId : String} {w : RaceWorld ι} {after : PushWorld ι} {entries : List Entry}
    (inv : RaceInv deviceId w) (calm : Calm deviceId w (.push (.insert entries)))
    (stored : after.store = w.push.store.inserted entries) (kept : PushInv deviceId after) :
    RaceInv deviceId { w with push := after } := by
  have evolves : w.push.store.entries.Evolves after.store.entries := by
    rw [stored]
    exact inserted_evolves _ _
  obtain ⟨added, rows, values, -, above⟩ := w.push.store.inserted_rows entries
  apply RaceInv.mk kept
  · intro peerId seq cursor i state cutoffUnix keepFloorSeq pushedFloorSeq running pending row member
      own selected
    have known : w.push.store.getLastPushedSeqOpt peerId = some seq := by
      rw [← cursor]
      show _ = after.store.getLastPushedSeqOpt peerId
      rw [stored]
      rfl
    have split : row ∈ w.push.store.entries.rows ++ added := by
      rw [← rows, ← stored]
      exact member
    rcases List.mem_append.mp split with old | new
    · exact inv.safe peerId seq known i state _ _ _ running pending row old own selected
    · obtain ⟨rfl, rfl⟩ := pruneSelects_new inv running pending (above row new) selected
      have fresh : row.val ∈ w.push.store.entries.firstNew (rowsOf entries) := by
        rw [← values]
        exact List.mem_map_of_mem new
      have recent := calm i state cutoffUnix running pending peerId (by rw [known]; rfl) row.val fresh own
      have old := pruneSelects_old selected
      omega
  · intro i state floor running read
    exact (inv.floors i state floor running read).trans evolves.sequence

omit [DecidableEq ι] in
theorem RaceInv.setSeq {deviceId : String} {w : RaceWorld ι} {after : PushWorld ι} {peerId : String}
    {seq : Int} (inv : RaceInv deviceId w) (calm : PendingBelow deviceId w seq)
    (stored : after.store = w.push.store.setLastPushedSeq peerId seq) (kept : PushInv deviceId after) :
    RaceInv deviceId { w with push := after } := by
  have same : after.store.entries = w.push.store.entries := by rw [stored]; rfl
  have frame : ∀ bound, PendingBelow deviceId w bound →
      PendingBelow deviceId { w with push := after } bound := by
    intro bound below i state cutoffUnix keepFloorSeq pushedFloorSeq running pending row member
    have held : row ∈ w.push.store.entries.rows := by
      rw [← same]
      exact member
    exact below i state cutoffUnix keepFloorSeq pushedFloorSeq running pending row held
  apply RaceInv.mk kept
  · intro other bound cursor
    apply frame
    by_cases written : other = peerId
    · subst written
      have now : after.store.getLastPushedSeqOpt other = some seq := by
        rw [stored]
        exact AList.lookup_insert _
      rw [show bound = seq from Option.some.inj (cursor.symm.trans now)]
      exact calm
    · have now : after.store.getLastPushedSeqOpt other = w.push.store.getLastPushedSeqOpt other := by
        rw [stored]
        exact AList.lookup_insert_ne written
      exact inv.safe other bound (now.symm.trans cursor)
  · intro i state floor running read
    show floor ≤ after.store.entries.sequence
    rw [same]
    exact inv.floors i state floor running read

theorem RaceInv.advance {deviceId : String} {w : RaceWorld ι} {i : ι} {next : Option PruneState}
    {store : LocalStore} (inv : RaceInv deviceId w)
    (rows : ∀ row ∈ store.entries.rows, row ∈ w.push.store.entries.rows)
    (evolves : w.push.store.entries.Evolves store.entries)
    (cursors : store.peerPushState = w.push.store.peerPushState)
    (safe : ∀ state cutoffUnix keepFloorSeq pushedFloorSeq, next = some state →
      state.pending = some (cutoffUnix, keepFloorSeq, pushedFloorSeq) →
      ∀ peerId seq, w.push.store.getLastPushedSeqOpt peerId = some seq →
      ∀ row ∈ w.push.store.entries.rows, row.val.deviceId = deviceId →
        pruneSelects cutoffUnix keepFloorSeq pushedFloorSeq row = true → row.seq ≤ seq)
    (floors : ∀ state floor, next = some state → state.HasFloor floor →
      floor ≤ w.push.store.entries.sequence) :
    RaceInv deviceId ⟨{ w.push with store := store }, Function.update w.prunes i next⟩ := by
  constructor
  · exact inv.push.frame evolves (List.Subset.refl _) cursors rfl
  · intro peerId seq cursor j state cutoffUnix keepFloorSeq pushedFloorSeq running pending row member
    have known : w.push.store.getLastPushedSeqOpt peerId = some seq := by
      rw [← cursor, getLastPushedSeqOpt, getLastPushedSeqOpt, cursors]
    dsimp only at running
    by_cases same : j = i
    · subst same
      rw [Function.update_self] at running
      exact safe state _ _ _ running pending peerId seq known row (rows row member)
    · rw [Function.update_of_ne same] at running
      exact inv.safe peerId seq known j state _ _ _ running pending row (rows row member)
  · intro j state floor running read
    apply le_trans _ evolves.sequence
    dsimp only at running
    by_cases same : j = i
    · subst same
      rw [Function.update_self] at running
      exact floors state floor running read
    · rw [Function.update_of_ne same] at running
      exact inv.floors j state floor running read

theorem RaceInv.wait {deviceId : String} {w : RaceWorld ι} {i : ι} {next : Option PruneState}
    (inv : RaceInv deviceId w)
    (safe : ∀ state cutoffUnix keepFloorSeq pushedFloorSeq, next = some state →
      state.pending = some (cutoffUnix, keepFloorSeq, pushedFloorSeq) →
      ∀ peerId seq, w.push.store.getLastPushedSeqOpt peerId = some seq →
      ∀ row ∈ w.push.store.entries.rows, row.val.deviceId = deviceId →
        pruneSelects cutoffUnix keepFloorSeq pushedFloorSeq row = true → row.seq ≤ seq)
    (floors : ∀ state floor, next = some state → state.HasFloor floor →
      floor ≤ w.push.store.entries.sequence) :
    RaceInv deviceId { w with prunes := Function.update w.prunes i next } :=
  inv.advance (fun _ member => member) (.refl _) rfl safe floors

theorem RaceInv.quiet {deviceId : String} {w : RaceWorld ι} {i : ι} {next : Option PruneState}
    (inv : RaceInv deviceId w) (quiet : ∀ state, next = some state → state.Quiet) :
    RaceInv deviceId { w with prunes := Function.update w.prunes i next } := by
  apply inv.wait
  · intro state _ _ _ same pending
    rw [(quiet state same).1] at pending
    cases pending
  · intro state floor same read
    exact absurd read ((quiet state same).2 floor)

theorem RaceInv.prune {deviceId : String} {w : RaceWorld ι} {i : ι} {state next : PruneState}
    {store : LocalStore} (inv : RaceInv deviceId w) (running : w.prunes i = some state)
    (step : state.step w.push.store = (store, next)) :
    RaceInv deviceId ⟨{ w.push with store := store }, Function.update w.prunes i (some next)⟩ := by
  cases state with
  | started call =>
    cases step
    apply inv.wait
    · intro state _ _ _ same pending
      cases same
      cases pending
    · intro state floor same read
      cases same
      obtain ⟨row, member, rfl⟩ := keepFloor_mem read
      exact (w.push.store.entries.numbered row member).2
  | keepFloorRead call keepFloorSeq =>
    cases step
    apply inv.wait
    · -- the pushed floor is at or below every push cursor of this moment
      intro state cutoffUnix keep pushed same pending peerId seq cursor row member own selected
      cases same
      simp only [PruneState.pending] at pending
      split at pending
      · cases pending
      · cases pending
        obtain ⟨floor, found, below⟩ := pushedFloor_le cursor
        rw [found] at selected
        exact (pruneSelects_pushed selected).trans below
    · intro state floor same read
      cases same
      rcases read with keep | pushed
      · exact inv.floors i _ floor running keep
      · obtain ⟨peerId, cursor⟩ := pushedFloor_mem pushed
        have bound := (inv.push.persisted peerId).1
        rw [getLastPushedSeq, cursor] at bound
        exact bound
  | floorsRead call keepFloorSeq pushedFloorSeq =>
    simp only [PruneState.step] at step
    split at step
    · cases step
      apply inv.quiet
      intro state same
      cases same
      exact PruneState.quiet_returned _
    · rename_i deletes
      cases step
      have wet : call.dryRun = false := by
        cases dry : call.dryRun
        · rfl
        · rw [dry] at deletes
          exact absurd rfl deletes
      apply inv.wait
      · intro state cutoffUnix keep pushed same pending peerId seq cursor
        cases same
        cases pending
        have before : (PruneState.floorsRead call keepFloorSeq pushedFloorSeq).pending =
            some (call.cutoffUnix, keepFloorSeq, pushedFloorSeq) := by
          simp [PruneState.pending, wet]
        exact inv.safe peerId seq cursor i _ _ _ _ running before
      · intro state floor same read
        cases same
        exact inv.floors i _ floor running read
  | counted call keepFloorSeq pushedFloorSeq matched =>
    cases step
    apply inv.advance
    · intro row member
      exact (mem_pruneDelete.mp member).1
    · exact pruneDelete_evolves _ _
    · rfl
    · intro state _ _ _ same pending
      cases same
      cases pending
    · intro state floor same read
      cases same
      exact read.elim
  | returned stats =>
    cases step
    apply inv.quiet
    intro state same
    cases same
    exact PruneState.quiet_returned _

theorem RaceInv.step {deviceId : String} {w after : RaceWorld ι} {action : RaceAction ι}
    (inv : RaceInv deviceId w) (calm : Calm deviceId w action)
    (step : RaceStep deviceId w action after) : RaceInv deviceId after := by
  cases step with
  | push action push pushed =>
    have kept := inv.push.step pushed
    rcases pushed.store_cases with ⟨same, -⟩ | ⟨entries, rfl, stored⟩ | ⟨i, peerId, seq, rfl, stored⟩
    · apply RaceInv.mk kept
      · intro peerId seq cursor i state _ _ _ running pending row
        rw [same] at cursor
        intro member
        exact inv.safe peerId seq cursor i state _ _ _ running pending row (same ▸ member)
      · intro i state floor running read
        show floor ≤ push.store.entries.sequence
        rw [same]
        exact inv.floors i state floor running read
    · exact inv.insert calm stored kept
    · exact inv.setSeq calm stored kept
  | pruneStarts i call idle =>
    apply inv.quiet
    intro state same
    cases same
    exact PruneState.quiet_started call
  | prune i state next store running taken => exact inv.prune running taken
  | pruneEnds i =>
    apply inv.quiet
    intro state none
    cases none

def CalmStep (deviceId : String) (w : RaceWorld ι) (action : RaceAction ι) (after : RaceWorld ι) : Prop :=
  RaceStep deviceId w action after ∧ Calm deviceId w action

/-- A prune that is left alone between its floors and its `DELETE` deletes nothing a peer with
    a push cursor still waits for. -/
theorem calm_prune_keeps_pending {deviceId : String} {initial w after : RaceWorld ι}
    {actions : List (RaceAction ι)} {i : ι} (init : RaceInitial initial)
    (run : Run (CalmStep deviceId) initial actions w) (step : RaceStep deviceId w (.prune i) after) :
    ∀ row ∈ w.push.store.entries.rows, row.val.deviceId = deviceId →
      row ∉ after.push.store.entries.rows →
      ∀ peerId seq, w.push.store.getLastPushedSeqOpt peerId = some seq → row.seq ≤ seq := by
  have inv : RaceInv deviceId w :=
    run.invariant (RaceInv deviceId) (fun inv step => inv.step step.2 step.1) init.inv
  intro row member own gone peerId seq cursor
  cases step with
  | prune i state next store running taken =>
    cases state with
    | counted call keepFloorSeq pushedFloorSeq matched =>
      cases taken
      have selected : pruneSelects call.cutoffUnix keepFloorSeq pushedFloorSeq row = true := by
        by_contra unselected
        exact gone (mem_pruneDelete.mpr ⟨member, eq_false_of_ne_true unselected⟩)
      exact inv.safe peerId seq cursor i _ _ _ _ running rfl row member own selected
    | floorsRead call keepFloorSeq pushedFloorSeq =>
      simp only [PruneState.step] at taken
      split at taken
      · cases taken
        exact absurd member gone
      · cases taken
        exact absurd member gone
    | started | keepFloorRead | returned =>
      cases taken
      exact absurd member gone

/-! Outside the condition the prune does harm, if its `DELETE` comes next. -/

theorem pending_deletes {deviceId : String} {w : RaceWorld ι} {i : ι} {state : PruneState}
    (running : w.prunes i = some state) {cutoffUnix : Int} {keepFloorSeq pushedFloorSeq : Option Int}
    (pending : state.pending = some (cutoffUnix, keepFloorSeq, pushedFloorSeq)) {row : IngestRow}
    (member : row ∈ w.push.store.entries.rows)
    (selected : pruneSelects cutoffUnix keepFloorSeq pushedFloorSeq row = true) :
    ∃ actions later after, Run (RaceStep deviceId) w actions later ∧
      RaceStep deviceId later (.prune i) after ∧ later.push = w.push ∧
      row ∉ after.push.store.entries.rows := by
  have deletes : ∀ (later : RaceWorld ι) (call : PruneCall) (matched : Nat), later.push = w.push →
      call.cutoffUnix = cutoffUnix →
      later.prunes i = some (.counted call keepFloorSeq pushedFloorSeq matched) →
      ∃ after, RaceStep deviceId later (.prune i) after ∧ row ∉ after.push.store.entries.rows := by
    intro later call matched same cutoff counted
    refine ⟨_, .prune later i _ _ _ counted rfl, fun kept => ?_⟩
    have unselected := (mem_pruneDelete.mp kept).2
    rw [cutoff, selected] at unselected
    cases unselected
  cases state with
  | floorsRead call keep pushed =>
    simp only [PruneState.pending] at pending
    split at pending
    · cases pending
    · rename_i wet
      cases pending
      let matched := w.push.store.pruneCount (pruneSelects call.cutoffUnix keepFloorSeq pushedFloorSeq)
      have some_row : matched ≠ 0 := by
        have listed := List.mem_filter.mpr ⟨member, selected⟩
        exact fun none => List.not_mem_nil (List.length_eq_zero_iff.mp none ▸ listed)
      have go : ¬ (call.dryRun || decide (matched = 0)) = true := by simp [wet, some_row]
      have counted : PruneState.step w.push.store (.floorsRead call keepFloorSeq pushedFloorSeq) =
          (w.push.store, .counted call keepFloorSeq pushedFloorSeq matched) := if_neg go
      let later : RaceWorld ι := { w with
        prunes := Function.update w.prunes i (some (.counted call keepFloorSeq pushedFloorSeq matched)) }
      have first : RaceStep deviceId w (.prune i) later := .prune w i _ _ _ running counted
      obtain ⟨after, last, gone⟩ := deletes later call matched rfl rfl (Function.update_self _ _ _)
      exact ⟨_, later, after, .single first, last, rfl, gone⟩
  | counted call keep pushed matched =>
    cases pending
    obtain ⟨after, last, gone⟩ := deletes w call matched rfl rfl running
    exact ⟨[], w, after, .nil w, last, rfl, gone⟩
  | started | keepFloorRead | returned => cases pending

/-- Some prune can go on to delete a row of the device that a peer with a push cursor still
    waits for. -/
def CanLose (deviceId : String) (w : RaceWorld ι) : Prop :=
  ∃ i actions later last, Run (RaceStep deviceId) w actions later ∧
    RaceStep deviceId later (.prune i) last ∧
    ∃ row ∈ later.push.store.entries.rows, row.val.deviceId = deviceId ∧
      row ∉ last.push.store.entries.rows ∧
      ∃ peerId seq, later.push.store.getLastPushedSeqOpt peerId = some seq ∧ seq < row.seq

theorem pending_can_lose {deviceId : String} {w : RaceWorld ι} {i : ι} {state : PruneState}
    (running : w.prunes i = some state) {cutoffUnix : Int} {keepFloorSeq pushedFloorSeq : Option Int}
    (pending : state.pending = some (cutoffUnix, keepFloorSeq, pushedFloorSeq)) {row : IngestRow}
    (member : row ∈ w.push.store.entries.rows) (own : row.val.deviceId = deviceId)
    (selected : pruneSelects cutoffUnix keepFloorSeq pushedFloorSeq row = true) {peerId : String}
    {seq : Int} (cursor : w.push.store.getLastPushedSeqOpt peerId = some seq) (late : seq < row.seq) :
    CanLose deviceId w := by
  obtain ⟨actions, later, last, run, delete, same, gone⟩ := pending_deletes running pending member selected
  rw [← same] at member cursor
  exact ⟨i, actions, later, last, run, delete, row, member, own, gone, peerId, seq, cursor, late⟩

/-- The condition leaves out only steps after which an entry can be lost. -/
theorem disturbed_prune_loses_pending {deviceId : String} {initial w after : RaceWorld ι}
    {actions : List (RaceAction ι)} {action : RaceAction ι} (init : RaceInitial initial)
    (run : Run (CalmStep deviceId) initial actions w) (step : RaceStep deviceId w action after)
    (disturbs : ¬ Calm deviceId w action) : CanLose deviceId after := by
  have inv : RaceInv deviceId w :=
    run.invariant (RaceInv deviceId) (fun inv step => inv.step step.2 step.1) init.inv
  cases step with
  | push action push pushed =>
    rcases pushed.store_cases with ⟨-, noInsert, noSet⟩ | ⟨entries, rfl, stored⟩ |
      ⟨j, peerId, seq, rfl, stored⟩
    · have calm : Calm deviceId w (.push action) := by
        cases action with
        | insert entries => exact absurd rfl (noInsert entries)
        | setSeq j peerId seq => exact absurd rfl (noSet j peerId seq)
        | insertFails | start | read | send | deliver | pushed | setSeqFails | crash | peerInsert | peerPrune =>
          exact trivial
      exact absurd calm disturbs
    · simp only [Calm, not_forall, not_le] at disturbs
      obtain ⟨i, state, cutoffUnix, running, pending, peerId, cursor, value, fresh, own, old⟩ := disturbs
      obtain ⟨seq, cursor⟩ := Option.isSome_iff_exists.mp cursor
      obtain ⟨added, rows, values, -, above⟩ := w.push.store.inserted_rows entries
      rw [← values] at fresh
      obtain ⟨row, new, rfl⟩ := List.mem_map.mp fresh
      have held : row ∈ push.store.entries.rows := by
        rw [stored, rows]
        exact List.mem_append_right _ new
      have kept : push.store.getLastPushedSeqOpt peerId = some seq := by
        rw [stored]
        exact cursor
      have bound := (inv.push.persisted peerId).1
      rw [getLastPushedSeq, cursor] at bound
      have late := lt_of_le_of_lt bound (above row new)
      have selected : pruneSelects cutoffUnix none none row = true := decide_eq_true old
      let after : RaceWorld ι := { w with push := push }
      have on : after.prunes i = some state := running
      exact pending_can_lose on pending held own selected kept late
    · simp only [Calm, PendingBelow, not_forall, not_le] at disturbs
      obtain ⟨i, state, cutoffUnix, keep, floor, running, pending, row, member, own, selected, late⟩ :=
        disturbs
      have held : row ∈ push.store.entries.rows := by
        rw [stored]
        exact member
      have kept : push.store.getLastPushedSeqOpt peerId = some seq := by
        rw [stored]
        exact AList.lookup_insert _
      let after : RaceWorld ι := { w with push := push }
      have on : after.prunes i = some state := running
      exact pending_can_lose on pending held own selected kept late
  | pruneStarts | prune | pruneEnds => exact absurd trivial disturbs

end

def idleRaceWorld : RaceWorld Unit := ⟨idlePushWorld, fun _ => none⟩

/-- A prune reads no pushed floor, a session then stores its first push cursor, and the `DELETE`
    removes the row after it. -/
theorem raced_prune_loses_pending :
    ¬ ∀ (deviceId : String) (initial w after : RaceWorld Unit) (actions : List (RaceAction Unit)) (i : Unit),
      RaceInitial initial → Run (RaceStep deviceId) initial actions w →
      RaceStep deviceId w (.prune i) after →
      ∀ row ∈ w.push.store.entries.rows, row.val.deviceId = deviceId →
        row ∉ after.push.store.entries.rows →
        ∀ peerId seq, w.push.store.getLastPushedSeqOpt peerId = some seq → row.seq ≤ seq := by
  intro safe
  have init : RaceInitial idleRaceWorld := ⟨⟨rfl, fun _ => rfl, rfl, rfl⟩, fun _ => rfl⟩
  have idle : Run (RaceStep "dev1") idleRaceWorld [] idleRaceWorld := .nil _
  have inserted := idle.snoc (.push _ _ _ (.insert _ [firstEcho, secondEcho] noFaults _ _ rfl))
  have begun := inserted.snoc (.pruneStarts _ () ⟨100, 0, false⟩ rfl)
  have kept := begun.snoc (.prune _ () _ _ _ rfl rfl)
  have floors := kept.snoc (.prune _ () _ _ _ rfl rfl)
  have started := floors.snoc (.push _ _ _ (.start _ () "peer-a" 1 (.ok 0) rfl (by decide)
    (fun _ h => by cases h; rfl)))
  have read := started.snoc (.push _ _ _ (.read _ () "peer-a" _ ⟨0, 0, 1⟩ _ rfl (fun _ h => h)))
  have sent := read.snoc (.push _ _ _ (.send _ () "peer-a" _ ⟨0, 0, 1⟩ ⟨[firstEcho], some 1⟩ rfl))
  have delivered := sent.snoc (.push _ _ _ (.deliver _ "peer-a" [firstEcho] noFaults (by decide)))
  have acknowledged := delivered.snoc (.push _ _ _ (.pushed _ () "peer-a" _ ⟨0, 0, 1⟩ ⟨[firstEcho], some 1⟩
    (.ok ()) rfl (fun _ => by decide)))
  have advanced := acknowledged.snoc (.push _ _ _ (.setSeq _ () "peer-a" _ ⟨1, 1, 1⟩ rfl))
  have counted := advanced.snoc (.prune _ () _ _ _ rfl rfl)
  have wrong := safe "dev1" _ _ _ _ () init counted (.prune _ () _ _ _ rfl rfl) ⟨2, secondEcho.toRow⟩ (by decide) rfl
    (by decide) "peer-a" 1 (by decide)
  exact absurd wrong (by decide)

theorem calm_prune_keeps_pending_echo :
    ∃ w after : RaceWorld Unit, RaceStep "dev1" w (.prune ()) after ∧
      w.push.store.getLastPushedSeqOpt "peer-a" = some 1 ∧
      ⟨1, firstEcho.toRow⟩ ∉ after.push.store.entries.rows ∧
      ∀ row ∈ w.push.store.entries.rows, row.val.deviceId = "dev1" →
        row ∉ after.push.store.entries.rows → row.seq ≤ 1 := by
  have init : RaceInitial idleRaceWorld := ⟨⟨rfl, fun _ => rfl, rfl, rfl⟩, fun _ => rfl⟩
  have idle : Run (CalmStep "dev1") idleRaceWorld [] idleRaceWorld := .nil _
  have inserted := idle.snoc ⟨.push _ _ _ (.insert _ [firstEcho, secondEcho] noFaults _ _ rfl),
    fun _ _ _ running => by cases running⟩
  have started := inserted.snoc ⟨.push _ _ _ (.start _ () "peer-a" 1 (.ok 0) rfl (by decide)
    (fun _ h => by cases h; rfl)), trivial⟩
  have read := started.snoc ⟨.push _ _ _ (.read _ () "peer-a" _ ⟨0, 0, 1⟩ _ rfl (fun _ h => h)), trivial⟩
  have sent := read.snoc ⟨.push _ _ _ (.send _ () "peer-a" _ ⟨0, 0, 1⟩ ⟨[firstEcho], some 1⟩ rfl), trivial⟩
  have delivered := sent.snoc ⟨.push _ _ _ (.deliver _ "peer-a" [firstEcho] noFaults (by decide)), trivial⟩
  have acknowledged := delivered.snoc ⟨.push _ _ _ (.pushed _ () "peer-a" _ ⟨0, 0, 1⟩
    ⟨[firstEcho], some 1⟩ (.ok ()) rfl (fun _ => by decide)), trivial⟩
  have advanced := acknowledged.snoc ⟨.push _ _ _ (.setSeq _ () "peer-a" _ ⟨1, 1, 1⟩ rfl),
    fun _ _ _ _ _ running => by cases running⟩
  have begun := advanced.snoc ⟨.pruneStarts _ () ⟨100, 0, false⟩ rfl, trivial⟩
  have kept := begun.snoc ⟨.prune _ () _ _ _ rfl rfl, trivial⟩
  have floors := kept.snoc ⟨.prune _ () _ _ _ rfl rfl, trivial⟩
  have counted := floors.snoc ⟨.prune _ () _ _ _ rfl rfl, trivial⟩
  have safe := calm_prune_keeps_pending init counted (.prune _ () _ _ _ rfl rfl)
  refine ⟨_, _, ?step, ?cursor, ?deleted, fun row member own gone =>
    safe row member own gone "peer-a" 1 ?cursor⟩
  case step => exact .prune _ () _ _ _ rfl rfl
  case cursor => decide
  case deleted => decide

end Rustory
