import Rustory.Storage.Recent
import Rustory.Sync.Mesh

namespace Rustory

open Foundations LocalStore

section

variable {σ ι : Type*}

structure MeshInitial (w : MeshWorld σ ι) : Prop where
  stores : ∀ x, w.stores x = opened
  created : w.created = []
  sessions : ∀ i, w.sessions i = none

/-- Everything in the mesh, at rest or on its way, is a recorded entry, whole. -/
structure MeshInv (w : MeshWorld σ ι) : Prop where
  unique : (w.created.map fun made => made.2.entryId).Nodup
  readable : ∀ made ∈ w.created, made.2.toRow.Readable
  origin : ∀ made ∈ w.created, made.2.toRow ∈ (w.stores made.1).values
  rows : ∀ x, ∀ value ∈ (w.stores x).values, ∃ made ∈ w.created, made.2.toRow = value
  inFlight : ∀ i src dst vars batch, w.sessions i = some ⟨src, dst, .inserting vars batch⟩ →
    ∀ e ∈ batch.entries, ∃ made ∈ w.created, made.2.toRow = e.toRow

theorem MeshInitial.inv {w : MeshWorld σ ι} (init : MeshInitial w) : MeshInv w := by
  constructor
  · simp [init.created]
  · simp [init.created]
  · simp [init.created]
  · simp [init.stores, values, opened, NumberedTable.empty]
  · simp [init.sessions]

theorem MeshInv.same_value {w : MeshWorld σ ι} (inv : MeshInv w) {x y : σ} {a b : EntryRow}
    (left : a ∈ (w.stores x).values) (right : b ∈ (w.stores y).values)
    (same : a.entryId = b.entryId) : a = b := by
  obtain ⟨made, listed, rfl⟩ := inv.rows x a left
  obtain ⟨made', listed', rfl⟩ := inv.rows y b right
  have equal : made = made' := List.inj_on_of_nodup_map inv.unique listed listed' same
  rw [equal]

variable [DecidableEq σ]

theorem MeshInv.setStore {w : MeshWorld σ ι} (inv : MeshInv w) (x : σ) {store : LocalStore}
    (grows : (w.stores x).values ⊆ store.values)
    (known : ∀ value ∈ store.values, ∃ made ∈ w.created, made.2.toRow = value) :
    MeshInv (w.setStore x store) := by
  refine ⟨inv.unique, inv.readable, fun made listed => ?_, fun y value member => ?_, inv.inFlight⟩
  · have held := inv.origin made listed
    by_cases same : made.1 = x
    · simp only [MeshWorld.setStore, same, Function.update_self]
      exact grows (same ▸ held)
    · simp only [MeshWorld.setStore, Function.update_of_ne same]
      exact held
  · by_cases same : y = x
    · subst same
      simp only [MeshWorld.setStore, Function.update_self] at member
      exact known value member
    · simp only [MeshWorld.setStore, Function.update_of_ne same] at member
      exact inv.rows y value member

omit [DecidableEq σ] in
theorem MeshInv.fresh {w : MeshWorld σ ι} (inv : MeshInv w) (x : σ) {e : Entry}
    (fresh : ∀ made ∈ w.created, made.2.entryId ≠ e.entryId) : ¬ (w.stores x).Holds e.entryId := by
  intro held
  obtain ⟨value, member, same⟩ := holds_iff_value.mp held
  obtain ⟨made, listed, rfl⟩ := inv.rows x value member
  exact fresh made listed same

theorem MeshInv.recorded {w : MeshWorld σ ι} (inv : MeshInv w) {x : σ} {e : Entry} (faults : TxFaults)
    (fresh : ∀ made ∈ w.created, made.2.entryId ≠ e.entryId) (readable : e.toRow.Readable) :
    MeshInv (w.recorded x e faults) := by
  unfold MeshWorld.recorded
  rcases (w.stores x).insertEntriesWithStats_cases [e] faults with ⟨err, h⟩ | h
  · rw [h]
    exact inv.setStore x (List.Subset.refl _) (inv.rows x)
  · rw [h]
    have old : ∀ value : EntryRow, (∃ made ∈ w.created, made.2.toRow = value) →
        ∃ made ∈ (x, e) :: w.created, made.2.toRow = value := by
      intro value ⟨made, listed, same⟩
      exact ⟨made, List.mem_cons_of_mem _ listed, same⟩
    have written : ∀ value, value ∈ ((w.stores x).inserted [e]).values ↔
        value ∈ (w.stores x).values ∨ value = e.toRow :=
      values_inserted_one (inv.fresh x fresh)
    constructor
    · apply List.nodup_cons.mpr
      apply And.intro _ inv.unique
      intro again
      obtain ⟨made, listed, same⟩ := List.mem_map.mp again
      exact fresh made listed same
    · exact List.forall_mem_cons.mpr ⟨readable, inv.readable⟩
    · intro made listed
      rcases List.mem_cons.mp listed with rfl | listed
      · simp only [MeshWorld.setStore, Function.update_self]
        exact (written e.toRow).mpr (Or.inr rfl)
      · have held := inv.origin made listed
        by_cases same : made.1 = x
        · simp only [MeshWorld.setStore, same, Function.update_self]
          exact (written _).mpr (Or.inl (same ▸ held))
        · simp only [MeshWorld.setStore, Function.update_of_ne same]
          exact held
    · intro y value member
      by_cases same : y = x
      · subst same
        simp only [MeshWorld.setStore, Function.update_self] at member
        rcases (written value).mp member with held | rfl
        · exact old value (inv.rows y value held)
        · exact ⟨(y, e), List.mem_cons_self, rfl⟩
      · simp only [MeshWorld.setStore, Function.update_of_ne same] at member
        exact old value (inv.rows y value member)
    · intro i src dst vars batch running e' member
      exact old _ (inv.inFlight i src dst vars batch running e' member)

variable [DecidableEq ι]

omit [DecidableEq σ] in
theorem MeshInv.setSession {w : MeshWorld σ ι} (inv : MeshInv w) (i : ι)
    (session : Option (MeshSession σ))
    (known : ∀ src dst vars batch, session = some ⟨src, dst, .inserting vars batch⟩ →
      ∀ e ∈ batch.entries, ∃ made ∈ w.created, made.2.toRow = e.toRow) :
    MeshInv (w.setSession i session) := by
  refine ⟨inv.unique, inv.readable, inv.origin, inv.rows, ?_⟩
  intro j src dst vars batch running
  simp only [MeshWorld.setSession] at running
  by_cases same : j = i
  · subst same
    rw [Function.update_self] at running
    exact known src dst vars batch running
  · rw [Function.update_of_ne same] at running
    exact inv.inFlight j src dst vars batch running

omit [DecidableEq σ] in
theorem MeshInv.setState {w : MeshWorld σ ι} (inv : MeshInv w) (i : ι) (src dst : σ) {state : PullState}
    (idle : ∀ vars batch, state ≠ .inserting vars batch) :
    MeshInv (w.setSession i (some ⟨src, dst, state⟩)) := by
  apply inv.setSession
  intro a b vars batch same
  cases same
  exact absurd rfl (idle vars batch)

theorem MeshInv.step {key : σ → σ → String} {w after : MeshWorld σ ι} {action : MeshAction σ}
    (inv : MeshInv w) (step : MeshStep key w action after) : MeshInv after := by
  cases step with
  | record x e faults fresh readable => exact inv.recorded faults fresh readable
  | start i src dst limit lastCursor idle positive read =>
    apply inv.setState
    intro vars batch
    exact PullState.start_inserting
  | reply i src dst vars reply at_pull answer =>
    apply inv.setSession
    intro a b next batch same e member
    have state : PullState.onReply vars reply = .inserting next batch := by
      injection same with same
      injection same
    obtain ⟨rfl, rfl, -⟩ := PullState.onReply_inserting state
    obtain ⟨row, page, value⟩ := (pullSinceCursor_of (answer batch rfl)).entry_mem member
    have held : row.val ∈ (w.stores src).values := mem_values.mpr ⟨row, (NumberedTable.mem_page page).1, rfl⟩
    rw [← value]
    exact inv.rows src row.val held
  | insert i src dst vars batch faults result store at_insert committed =>
    have stored : store = ((w.stores dst).insertEntriesWithStats batch.entries faults).2 := by
      rw [committed]
    have grows : (w.stores dst).values ⊆ store.values := by
      rw [stored]
      exact values_insert_mono _ _ _
    have written : MeshInv (w.setStore dst store) := by
      apply inv.setStore dst grows
      intro value member
      rw [stored] at member
      rcases values_insert member with old | ⟨e, listed, rfl⟩
      · exact inv.rows dst value old
      · exact inv.inFlight i src dst vars batch at_insert e listed
    apply written.setState
    intro next again
    exact PullState.onInserted_inserting
  | setCursor i src dst vars nextCursor at_advance =>
    have written : MeshInv (w.setStore dst ((w.stores dst).setLastCursor (key src dst) nextCursor)) :=
      inv.setStore dst (List.Subset.refl _) (inv.rows dst)
    apply written.setState
    intro next batch
    exact PullState.noConfusion
  | setCursorFails i src dst vars nextCursor err at_advance =>
    apply inv.setState
    intro next batch
    exact PullState.noConfusion
  | crash i =>
    apply inv.setSession
    intro src dst vars batch none
    cases none

/-! A run never takes an entry out of a store. -/

omit [DecidableEq ι] in
theorem setStore_mono {w : MeshWorld σ ι} {x : σ} {store : LocalStore}
    (grows : (w.stores x).values ⊆ store.values) (y : σ) :
    (w.stores y).values ⊆ ((w.setStore x store).stores y).values := by
  by_cases same : y = x
  · subst same
    simp only [MeshWorld.setStore, Function.update_self]
    exact grows
  · simp only [MeshWorld.setStore, Function.update_of_ne same]
    exact List.Subset.refl _

theorem MeshStep.values_mono {key : σ → σ → String} {w after : MeshWorld σ ι} {action : MeshAction σ}
    (step : MeshStep key w action after) (x : σ) : (w.stores x).values ⊆ (after.stores x).values := by
  cases step with
  | record y e faults fresh readable => exact setStore_mono (values_insert_mono _ [e] faults) x
  | start | reply | setCursorFails | crash => exact List.Subset.refl _
  | insert i src dst vars batch faults result store at_insert committed =>
    have stored : store = ((w.stores dst).insertEntriesWithStats batch.entries faults).2 := by
      rw [committed]
    apply setStore_mono
    rw [stored]
    exact values_insert_mono _ _ _
  | setCursor i src dst vars nextCursor at_advance =>
    have same : (w.stores dst).values ⊆
        ((w.stores dst).setLastCursor (key src dst) nextCursor).values := List.Subset.refl _
    exact setStore_mono same x

theorem MeshStep.created {key : σ → σ → String} {w after : MeshWorld σ ι} {action : MeshAction σ}
    (step : MeshStep key w action after) (quiet : ∀ x, action ≠ .record x) :
    after.created = w.created := by
  cases step with
  | record x e faults fresh readable => exact absurd rfl (quiet x)
  | start | reply | insert | setCursor | setCursorFails | crash => rfl

theorem MeshStep.completed {key : σ → σ → String} {w after : MeshWorld σ ι} {src dst : σ}
    (step : MeshStep key w (.completed src dst) after) :
    ∃ i vars batch, w.sessions i = some ⟨src, dst, .pulling vars⟩ ∧
      (w.stores src).pullSinceCursor vars.cursor vars.batchLimit = .ok batch ∧ batch.entries = [] := by
  generalize action : MeshAction.completed src dst = label at step
  cases step with
  | reply i a b vars reply at_pull answer =>
    cases state : PullState.onReply vars reply with
    | returned result =>
      rw [state] at action
      cases result with
      | ok stats =>
        cases action
        obtain ⟨batch, rfl, empty⟩ := PullState.onReply_returned_ok state
        exact ⟨i, vars, batch, at_pull, answer batch rfl, empty⟩
      | error err => cases action
    | pulling | inserting | advancing =>
      rw [state] at action
      cases action
  | record | start | insert | setCursor | setCursorFails | crash => cases action

theorem completed_session {key : σ → σ → String} {w after : MeshWorld σ ι} {src dst : σ}
    (pair : src ≠ dst → PullInv (key src dst) (w.pair src dst)) (inv : MeshInv w)
    (step : MeshStep key w (.completed src dst) after) {value : EntryRow}
    (member : value ∈ (w.stores src).values) : value ∈ (after.stores dst).values := by
  by_cases distinct : src = dst
  · subst distinct
    exact step.values_mono src member
  · obtain ⟨i, vars, batch, at_pull, reply, empty⟩ := step.completed
    obtain ⟨limit, caught⟩ := (pair distinct).sessions i _ (pair_running at_pull)
    obtain ⟨row, held, rfl⟩ := mem_values.mp member
    have arrived : (w.stores dst).Holds row.val.entryId := caught.complete limit reply empty held
    obtain ⟨value, there, same⟩ := holds_iff_value.mp arrived
    rw [← inv.same_value there member same]
    exact step.values_mono dst there

structure MeshReach (key : σ → σ → String) (w : MeshWorld σ ι) : Prop where
  mesh : MeshInv w
  pairs : ∀ src dst, src ≠ dst → PullInv (key src dst) (w.pair src dst)

omit [DecidableEq ι] in
theorem MeshInitial.reach {key : σ → σ → String} {w : MeshWorld σ ι} (init : MeshInitial w) :
    MeshReach key w := by
  apply MeshReach.mk init.inv
  intro src dst _
  apply PullInitial.inv
  constructor
  · simp [MeshWorld.pair, init.stores, getLastCursorOpt, opened]
  · simp [MeshWorld.pair, init.sessions]

theorem MeshReach.step {key : σ → σ → String} (keys : ∀ y, Function.Injective fun x => key x y)
    {w after : MeshWorld σ ι} {action : MeshAction σ} (reach : MeshReach key w)
    (step : MeshStep key w action after) : MeshReach key after := by
  apply MeshReach.mk (reach.mesh.step step)
  intro src dst distinct
  obtain ⟨actions, run⟩ := step.pair keys distinct
  exact run.invariant (PullInv (key src dst)) PullInv.step (reach.pairs src dst distinct)

theorem values_follow {key : σ → σ → String} (keys : ∀ y, Function.Injective fun x => key x y)
    {w final : MeshWorld σ ι} {since : List (MeshAction σ)} (reach : MeshReach key w)
    (run : Run (MeshStep key) w since final) {x : σ} {nodes : List σ}
    (chain : (Run.route MeshAction.completed x nodes).Sublist since) {value : EntryRow}
    (member : value ∈ (w.stores x).values) :
    value ∈ (final.stores (nodes.getLast?.getD x)).values := by
  apply run.route_reaches (fun x s => value ∈ (s.stores x).values) (MeshReach key)
    MeshAction.completed (MeshReach.step keys) _ _ reach chain member
  · intro s l t a reach step held
    exact step.values_mono a held
  · intro s t a b reach step held
    exact completed_session (reach.pairs a b) reach.mesh step held

theorem values_origin {key : σ → σ → String} (keys : ∀ y, Function.Injective fun x => key x y)
    {w final : MeshWorld σ ι} {since : List (MeshAction σ)} (reach : MeshReach key w)
    (run : Run (MeshStep key) w since final) (quiet : ∀ x, MeshAction.record x ∉ since) {x : σ}
    {value : EntryRow} (member : value ∈ (final.stores x).values) :
    ∃ origin, value ∈ (w.stores origin).values := by
  have later : MeshReach key final := run.invariant (MeshReach key) (MeshReach.step keys) reach
  have same : final.created = w.created := by
    apply run.invariant_of_labels (fun s => s.created = w.created) (fun l => ∀ x, l ≠ .record x)
    · intro s l t sofar silent step
      exact (step.created silent).trans sofar
    · intro l listed x record
      exact quiet x (record ▸ listed)
    · rfl
  obtain ⟨made, listed, rfl⟩ := later.mesh.rows x value member
  rw [same] at listed
  exact ⟨made.1, reach.mesh.origin made listed⟩

/-- Eventual convergence: an entry follows every chain of completed sessions, and once chains
    join all stores after the last record, all stores show the same history. -/
theorem mesh_converges {key : σ → σ → String} (keys : ∀ y, Function.Injective fun x => key x y)
    {initial w final : MeshWorld σ ι} {before since : List (MeshAction σ)} (init : MeshInitial initial)
    (run : Run (MeshStep key) initial before w) (later : Run (MeshStep key) w since final) :
    ((w.created.map fun made => made.2.entryId).Nodup ∧
      ∀ x, ∀ row ∈ (w.stores x).entries.rows, ∃ made ∈ w.created, row.val = made.2.toRow) ∧
    (∀ x nodes, (Run.route MeshAction.completed x nodes).Sublist since →
      ∀ row ∈ (w.stores x).entries.rows,
        ∃ row' ∈ (final.stores (nodes.getLast?.getD x)).entries.rows, row'.val = row.val) ∧
    ((∀ x, MeshAction.record x ∉ since) →
      (∀ x y, x ≠ y → ∃ nodes, nodes.getLast?.getD x = y ∧
        (Run.route MeshAction.completed x nodes).Sublist since) →
      ∀ x y, (∀ value, (∃ row ∈ (final.stores x).entries.rows, row.val = value) ↔
          ∃ row ∈ (final.stores y).entries.rows, row.val = value) ∧
        ∀ limit, ∃ entries, (final.stores x).listRecent limit = .ok entries ∧
          (final.stores y).listRecent limit = .ok entries) := by
  have reach : MeshReach key w := run.invariant (MeshReach key) (MeshReach.step keys) init.reach
  have ending : MeshReach key final := later.invariant (MeshReach key) (MeshReach.step keys) reach
  refine ⟨⟨reach.mesh.unique, ?_⟩, ?_, ?_⟩
  · intro x row member
    obtain ⟨made, listed, same⟩ := reach.mesh.rows x row.val (mem_values.mpr ⟨row, member, rfl⟩)
    exact ⟨made, listed, same.symm⟩
  · intro x nodes chain row member
    exact mem_values.mp (values_follow keys reach later chain (mem_values.mpr ⟨row, member, rfl⟩))
  · intro quiet chains
    have spread : ∀ x y, ∀ value ∈ (final.stores x).values, value ∈ (final.stores y).values := by
      intro x y value member
      obtain ⟨origin, held⟩ := values_origin keys reach later quiet member
      by_cases here : origin = y
      · subst here
        have chain : (Run.route MeshAction.completed origin []).Sublist since := List.nil_sublist since
        exact values_follow keys reach later chain held
      · obtain ⟨nodes, rfl, chain⟩ := chains origin y here
        exact values_follow keys reach later chain held
    intro x y
    have same : ∀ value, value ∈ (final.stores x).values ↔ value ∈ (final.stores y).values :=
      fun value => ⟨spread x y value, spread y x value⟩
    refine ⟨fun value => mem_values.symm.trans ((same value).trans mem_values), fun limit => ?_⟩
    have readable : ∀ value ∈ (final.stores x).values, value.Readable := by
      intro value member
      obtain ⟨made, listed, rfl⟩ := ending.mesh.rows x value member
      exact ending.mesh.readable made listed
    obtain ⟨entries, shown⟩ := listRecent_ok readable limit
    exact ⟨entries, shown, (listRecent_eq same limit).symm.trans shown⟩

end

def idleMeshWorld : MeshWorld Bool Bool := ⟨fun _ => opened, [], fun _ => none⟩

def peerOf (src _dst : Bool) : String := if src then "peer-a" else "peer-b"

theorem mesh_converges_echo :
    ∃ final : MeshWorld Bool Bool, (final.stores false).entries.rows.map Numbered.val = [firstEcho.toRow] ∧
      ∀ limit, ∃ entries, (final.stores false).listRecent limit = .ok entries ∧
        (final.stores true).listRecent limit = .ok entries := by
  have keys : ∀ dst : Bool, Function.Injective fun src => peerOf src dst := by
    intro dst a b same
    cases a <;> cases b <;> simp [peerOf] at same ⊢
  have init : MeshInitial idleMeshWorld := ⟨fun _ => rfl, rfl, fun _ => rfl⟩
  have idle : Run (MeshStep peerOf) idleMeshWorld [] idleMeshWorld := .nil _
  have recorded := idle.snoc (.record _ true firstEcho noFaults (by decide) (by decide))
  have quiet : Run (MeshStep peerOf) (idleMeshWorld.recorded true firstEcho noFaults) []
      (idleMeshWorld.recorded true firstEcho noFaults) := .nil _
  have started := quiet.snoc (.start _ true true false 1 (.ok 0) rfl (by decide)
    (fun _ h => by cases h; rfl))
  have pulled := started.snoc (.reply _ true true false ⟨0, 0, 0, 0, 1⟩ _ rfl (fun _ h => h))
  have stored := pulled.snoc (.insert _ true true false ⟨0, 0, 0, 0, 1⟩ ⟨[firstEcho], some 1⟩ noFaults
    _ _ rfl rfl)
  have advanced := stored.snoc (.setCursor _ true true false ⟨0, 1, 1, 0, 1⟩ 1 rfl)
  have completed := advanced.snoc (.reply _ true true false ⟨1, 1, 1, 0, 1⟩ _ rfl (fun _ h => h))
  have started := completed.snoc (.start _ false false true 1 (.ok 0) rfl (by decide)
    (fun _ h => by cases h; rfl))
  have pulled := started.snoc (.reply _ false false true ⟨0, 0, 0, 0, 1⟩ _ rfl (fun _ h => h))
  have stored := pulled.snoc (.insert _ false false true ⟨0, 0, 0, 0, 1⟩ ⟨[firstEcho], some 1⟩ noFaults
    _ _ rfl rfl)
  have advanced := stored.snoc (.setCursor _ false false true ⟨0, 1, 0, 1, 1⟩ 1 rfl)
  have completed := advanced.snoc (.reply _ false false true ⟨1, 1, 0, 1, 1⟩ _ rfl (fun _ h => h))
  have converged := (mesh_converges keys init recorded completed).2.2
  refine ⟨_, by decide, (converged (by decide) ?_ false true).2⟩
  intro x y distinct
  refine ⟨[y], rfl, ?_⟩
  revert x y
  decide

end Rustory
