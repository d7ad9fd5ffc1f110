import Rustory.Sync.NetworkSafety

namespace Rustory

open Foundations LocalStore

section

variable {σ ι : Type*} {peerId deviceId : σ → String} {w after : NetworkWorld σ ι}

/-! Where a session ends. -/

theorem NetworkAction.ofClient_pullEnds {i j : ι} {src dst : σ} {client : NetworkClient σ}
    (label : NetworkAction.ofClient j client = .pullEnds i src dst) :
    j = i ∧ client.peer = src ∧ client.device = dst ∧
      ∃ atStart stats, client.session = .pull atStart (.returned (.ok stats)) := by
  unfold NetworkAction.ofClient at label
  split at label
  · rename_i atStart stats session
    cases label
    exact ⟨rfl, rfl, rfl, atStart, stats, session⟩
  · cases label
  · cases label

theorem NetworkAction.ofClient_pushEnds {i j : ι} {src dst : σ} {client : NetworkClient σ}
    (label : NetworkAction.ofClient j client = .pushEnds i src dst) :
    j = i ∧ client.device = src ∧ client.peer = dst ∧
      ∃ pushed, client.session = .push (.returned (.ok pushed)) := by
  unfold NetworkAction.ofClient at label
  split at label
  · cases label
  · rename_i pushed session
    cases label
    exact ⟨rfl, rfl, rfl, pushed, session⟩
  · cases label

theorem NetworkClient.afterPull_cases (client : NetworkClient σ) (atStart : EntriesTable) (vars : PullVars)
    (attempt : Nat) (outcome : Except Error PullBatch) :
    (client.afterPull atStart vars attempt outcome).device = client.device ∧
    (client.afterPull atStart vars attempt outcome).peer = client.peer ∧
    ((client.afterPull atStart vars attempt outcome).session = client.session ∨
      (client.afterPull atStart vars attempt outcome).session = .pull atStart (.onReply vars outcome)) := by
  unfold NetworkClient.afterPull
  rcases after_cases client.policy attempt outcome with ⟨next, decision⟩ | decision
  · rw [decision]
    exact ⟨rfl, rfl, Or.inl rfl⟩
  · rw [decision]
    exact ⟨rfl, rfl, Or.inr rfl⟩

theorem NetworkClient.afterPush_cases (client : NetworkClient σ) (vars : PushVars) (batch : PullBatch)
    (attempt : Nat) (outcome : Except Error Unit) :
    (client.afterPush vars batch attempt outcome).session = client.session ∨
      (client.afterPush vars batch attempt outcome).session = .push (.onPushed vars batch outcome) := by
  unfold NetworkClient.afterPush
  rcases after_cases client.policy attempt outcome with ⟨next, decision⟩ | decision
  · rw [decision]
    exact Or.inl rfl
  · rw [decision]
    exact Or.inr rfl

theorem NetworkInv.arrived (inv : NetworkInv peerId deviceId w) {src dst : σ} {row : IngestRow}
    (listed : row ∈ (w.stores src).entries.rows) (held : (w.stores dst).Holds row.val.entryId) :
    row.val ∈ (w.stores dst).values := by
  have there : row.val ∈ (w.stores src).values := mem_values.mpr ⟨row, listed, rfl⟩
  obtain ⟨made, recorded, same⟩ := inv.mesh.rows src row.val there
  rw [← same] at held ⊢
  exact inv.held ⟨made, recorded, rfl⟩ held

/-- What the peer had when the session began is here when it ends. -/
theorem NetworkInv.pull_delivers (inv : NetworkInv peerId deviceId w) {i : ι} {client : NetworkClient σ}
    {atStart : EntriesTable} {vars : PullVars} {attempt : Nat} {batch : PullBatch}
    (running : w.clients i = some client) (state : client.session = .pull atStart (.pulling vars))
    (ended : PullAttempt w client attempt (.ok batch)) (empty : batch.entries = []) :
    ∀ row ∈ atStart.rows, row.val ∈ (w.stores client.device).values := by
  intro row early
  have known := inv.clients i client running
  have session := known.session
  rw [state] at session
  obtain ⟨since, limit, caught⟩ := session
  obtain ⟨table, before, until_now, page⟩ := (ended.pulled inv.matched known.sent state rfl).page
  have nothing := page.entries_nil.mp empty
  have below : row.seq ≤ vars.cursor :=
    NumberedTable.page_eq_nil (asI64_ne_zero limit) nothing (before.kept early) rfl
  have now : row ∈ (w.stores client.peer).entries.rows := since.kept early
  exact inv.arrived now (caught.2 row now rfl below)

theorem NetworkInv.push_delivers (inv : NetworkInv peerId deviceId w) {i : ι} {client : NetworkClient σ}
    {vars : PushVars} {batch : PullBatch} (running : w.clients i = some client)
    (state : client.session = .push (.reading vars))
    (read : readPushBatch (w.stores client.device) (some (deviceId client.device)) vars.cursor vars.batchLimit =
      .ok batch)
    (empty : batch.entries = []) :
    (∀ row ∈ (w.stores client.device).entries.rows, row.val.deviceId = deviceId client.device →
      row.val ∈ (w.stores client.peer).values) ∧ client.stats.Counts vars.pushedTotal := by
  have session := (inv.clients i client running).session
  rw [state] at session
  obtain ⟨⟨limit, delivered⟩, counts⟩ := session
  refine ⟨fun row listed own => ?_, counts⟩
  have nothing := (pullSinceCursorForDevice_of read).entries_nil.mp empty
  exact delivered.2.complete (asI64_ne_zero limit) nothing listed (by simp [ofDevice, own])

variable [DecidableEq σ] [DecidableEq ι]

theorem network_run_keeps (keys : Function.Injective peerId) {actions : List (NetworkAction σ ι)}
    (run : Run (NetworkStep peerId deviceId) w actions after) (inv : NetworkInv peerId deviceId w) :
    NetworkInv peerId deviceId after :=
  run.invariant (NetworkInv peerId deviceId) (fun inv step => (step.keeps keys inv).1) inv

/-- A pull session ends with an answer that has no entries. -/
theorem NetworkStep.pullEnds {i : ι} {src dst : σ} (step : NetworkStep peerId deviceId w (.pullEnds i src dst) after) :
    after.stores = w.stores ∧ ∃ client atStart vars attempt batch, w.clients i = some client ∧ client.peer = src ∧
      client.device = dst ∧ client.session = .pull atStart (.pulling vars) ∧
      PullAttempt w client attempt (.ok batch) ∧ batch.entries = [] := by
  generalize action : NetworkAction.pullEnds i src dst = label at step
  cases step with
  | pullAttempt j client atStart vars attempt outcome running state ended =>
    obtain ⟨rfl, peer, device, atStart', stats, session⟩ := NetworkAction.ofClient_pullEnds action.symm
    obtain ⟨same_device, same_peer, same | settled⟩ := client.afterPull_cases atStart vars attempt outcome
    · rw [same, state] at session
      cases session
    · rw [settled] at session
      injection session with _ session
      obtain ⟨batch, rfl, empty⟩ := PullState.onReply_returned_ok session
      exact ⟨rfl, client, atStart, vars, attempt, batch, running, same_peer ▸ peer, same_device ▸ device, state,
        ended, empty⟩
  | read j client vars result running state answer =>
    obtain ⟨-, -, -, _, _, session⟩ := NetworkAction.ofClient_pullEnds action.symm
    cases session
  | record | new | startPull | startPush | send | insert | setCursor | setCursorFails | pushAttempt | setSeq |
    setSeqFails | serve | crash => cases action

/-- A push session ends with nothing left to read. -/
theorem NetworkStep.pushEnds {i : ι} {src dst : σ} (step : NetworkStep peerId deviceId w (.pushEnds i src dst) after) :
    after.stores = w.stores ∧ ∃ client vars batch, w.clients i = some client ∧ client.device = src ∧
      client.peer = dst ∧ client.session = .push (.reading vars) ∧
      readPushBatch (w.stores src) (some (deviceId src)) vars.cursor vars.batchLimit = .ok batch ∧
      batch.entries = [] ∧ after.clients i = some { client with session := .push (.returned (.ok vars.pushedTotal)) } := by
  generalize action : NetworkAction.pushEnds i src dst = label at step
  cases step with
  | pullAttempt j client atStart vars attempt outcome running state ended =>
    obtain ⟨-, -, -, pushed, session⟩ := NetworkAction.ofClient_pushEnds action.symm
    obtain ⟨-, -, same | settled⟩ := client.afterPull_cases atStart vars attempt outcome
    · rw [same, state] at session
      cases session
    · rw [settled] at session
      cases session
  | read j client vars result running state answer =>
    obtain ⟨rfl, rfl, rfl, pushed, session⟩ := NetworkAction.ofClient_pushEnds action.symm
    injection session with session
    rcases PushState.onRead_cases vars result with ⟨err, next⟩ | ⟨batch, rfl, ⟨empty, next⟩ | ⟨-, next⟩⟩
    · rw [next] at session
      cases session
    · refine ⟨rfl, client, vars, batch, running, rfl, rfl, state, answer batch rfl, empty, ?_⟩
      simp only [NetworkWorld.setClient, Function.update_self, next]
    · rw [next] at session
      cases session
  | record | new | startPull | startPush | send | insert | setCursor | setCursorFails | pushAttempt | setSeq |
    setSeqFails | serve | crash => cases action

/-! What a session that is still open has promised. -/

/-- A client in a pull session either begins it now, or was in it before. -/
def Continues (w : NetworkWorld σ ι) (before after : Option (NetworkClient σ)) : Prop :=
  ∀ client atStart state, after = some client → client.session = .pull atStart state →
    atStart = (w.stores client.peer).entries ∨
      ∃ same old, before = some same ∧ same.device = client.device ∧ same.peer = client.peer ∧
        same.session = .pull atStart old

omit [DecidableEq σ] [DecidableEq ι] in
theorem Continues.refl (client : Option (NetworkClient σ)) : Continues w client client :=
  fun c _ state found session => Or.inr ⟨c, state, found, rfl, rfl, session⟩

omit [DecidableEq σ] [DecidableEq ι] in
theorem Continues.drop (client : Option (NetworkClient σ)) : Continues w client none := by
  intro c atStart state none
  cases none

omit [DecidableEq σ] [DecidableEq ι] in
theorem Continues.move {before after : NetworkClient σ} (device : after.device = before.device)
    (peer : after.peer = before.peer)
    (sessions : ∀ atStart state, after.session = .pull atStart state →
      ∃ old, before.session = .pull atStart old) :
    Continues w (some before) (some after) := by
  intro client atStart state found session
  cases found
  obtain ⟨old, same⟩ := sessions atStart state session
  exact Or.inr ⟨before, old, rfl, device.symm, peer.symm, same⟩

omit [DecidableEq σ] in
theorem Continues.setClient {v : NetworkWorld σ ι} {j : ι} {client : Option (NetworkClient σ)}
    (same : v.clients = w.clients) (moves : Continues w (w.clients j) client) (i : ι) :
    Continues w (w.clients i) ((v.setClient j client).clients i) := by
  simp only [NetworkWorld.setClient, same]
  by_cases here : i = j
  · subst here
    rw [Function.update_self]
    exact moves
  · rw [Function.update_of_ne here]
    exact .refl _

theorem NetworkStep.continues {action : NetworkAction σ ι} (step : NetworkStep peerId deviceId w action after)
    (i : ι) : Continues w (w.clients i) (after.clients i) := by
  cases step with
  | record | serve => exact .refl _
  | new j device peer swarm policy free =>
    apply Continues.setClient rfl
    intro client atStart state found session
    cases found
    cases session
  | startPull j client limit lastCursor running =>
    apply Continues.setClient rfl
    intro client' atStart state found session
    cases found
    cases session
    exact Or.inl rfl
  | startPush j client limit lastPushedSeq running =>
    apply Continues.setClient rfl
    intro client' atStart state found session
    cases found
    cases session
  | send j client attempt id behaviour request running =>
    apply Continues.setClient rfl
    rw [running]
    exact .move rfl rfl fun atStart state session => ⟨state, session⟩
  | pullAttempt j client atStart vars attempt outcome running state =>
    apply Continues.setClient rfl
    rw [running]
    obtain ⟨device, peer, same | settled⟩ := client.afterPull_cases atStart vars attempt outcome
    · exact .move device peer fun atStart state session => ⟨state, same ▸ session⟩
    · refine .move device peer fun atStart' state' session => ?_
      rw [settled] at session
      cases session
      exact ⟨_, state⟩
  | insert j client atStart vars batch faults result store running state
  | setCursor j client atStart vars nextCursor running state
  | setCursorFails j client atStart vars nextCursor err running state =>
    apply Continues.setClient rfl
    rw [running]
    refine .move rfl rfl fun atStart' state' session => ?_
    cases session
    exact ⟨_, state⟩
  | read j client vars result running state
  | setSeq j client vars running state
  | setSeqFails j client vars err running state =>
    apply Continues.setClient rfl
    rw [running]
    refine .move rfl rfl fun atStart' state' session => ?_
    cases session
  | pushAttempt j client vars batch attempt outcome stats running state =>
    apply Continues.setClient rfl
    intro client' atStart state' found session
    cases found
    rcases NetworkClient.afterPush_cases { client with stats := stats } vars batch attempt outcome with same | settled
    · rw [same] at session
      simp only [state] at session
      cases session
    · rw [settled] at session
      cases session
  | crash j => exact Continues.setClient rfl (.drop _) i

theorem NetworkStep.pullBegins {i : ι} {src dst : σ}
    (step : NetworkStep peerId deviceId w (.pullBegins i src dst) after) :
    ∃ client state, after.clients i = some client ∧ client.session = .pull (w.stores src).entries state := by
  generalize action : NetworkAction.pullBegins i src dst = label at step
  have not_label : ∀ (j : ι) (client : NetworkClient σ), .pullBegins i src dst ≠ NetworkAction.ofClient j client := by
    intro j client same
    unfold NetworkAction.ofClient at same
    split at same <;> cases same
  cases step with
  | startPull j client limit lastCursor running =>
    cases action
    refine ⟨client.startPull (w.stores client.peer).entries limit lastCursor, .start limit lastCursor, ?_, rfl⟩
    simp only [NetworkWorld.setClient, Function.update_self]
  | pullAttempt | read => exact absurd action (not_label _ _)
  | record | new | startPush | send | insert | setCursor | setCursorFails | pushAttempt | setSeq | setSeqFails |
    serve | crash => cases action

/-! Entries travel along sessions, each begun after the one before it ended. -/

inductive Hop (σ ι : Type*)
  | pull (client : ι) (src dst : σ)
  | push (client : ι) (src dst : σ)

def Hop.span : Hop σ ι → Span σ (NetworkAction σ ι)
  | .pull i src dst => ⟨src, dst, .pullBegins i src dst, .pullEnds i src dst⟩
  | .push i src dst => ⟨src, dst, .pushBegins i src dst, .pushEnds i src dst⟩

/-- A push session takes only what its device has recorded under its own id. -/
def Hop.Takes (deviceId : σ → String) (value : EntryRow) : Hop σ ι → Prop
  | .pull _ _ _ => True
  | .push _ src _ => value.deviceId = deviceId src

def Hop.labels (hops : List (Hop σ ι)) : List (NetworkAction σ ι) := Span.labels (hops.map Hop.span)

def Hop.Leads (start : σ) (hops : List (Hop σ ι)) (finish : σ) : Prop :=
  Span.Leads start (hops.map Hop.span) finish

/-- Of the sessions of this client that are under way, those from `src` to `dst` will bring the value. -/
def PullPromises (i : ι) (src dst : σ) (value : EntryRow) (w : NetworkWorld σ ι) : Prop :=
  ∀ client atStart state, w.clients i = some client → client.peer = src → client.device = dst →
    client.session = .pull atStart state → ∃ row ∈ atStart.rows, row.val = value

theorem pull_carries (i : ι) (src dst : σ) (value : EntryRow) :
    (Hop.span (.pull i src dst)).Carries (NetworkStep peerId deviceId) (NetworkInv peerId deviceId)
      (fun x w => value ∈ (w.stores x).values) (PullPromises i src dst value) where
  opens := by
    intro s t inv step at_source client atStart state running peer device session
    obtain ⟨began, first, found, began_session⟩ := step.pullBegins
    rw [running] at found
    cases found
    rw [session] at began_session
    cases began_session
    exact mem_values.mp at_source
  keeps := by
    intro s l t inv step at_source promised client atStart state running peer device session
    rcases step.continues i client atStart state running session with now | ⟨same, old, before, kept⟩
    · rw [now, peer]
      exact mem_values.mp at_source
    · obtain ⟨same_device, same_peer, same_session⟩ := kept
      exact promised same atStart old before (same_peer.trans peer) (same_device.trans device) same_session
  closes := by
    intro s t inv step promised
    obtain ⟨stores, client, atStart, vars, attempt, batch, running, peer, device, state, ended, empty⟩ := step.pullEnds
    obtain ⟨row, listed, same⟩ := promised client atStart _ running peer device state
    have arrived := inv.pull_delivers running state ended empty row listed
    simp only [Hop.span]
    rw [stores, ← same, ← device]
    exact arrived

theorem push_carries (keys : Function.Injective peerId) (i : ι) (src dst : σ) {value : EntryRow}
    (own : value.deviceId = deviceId src) :
    (Hop.span (.push i src dst)).Carries (NetworkStep peerId deviceId) (NetworkInv peerId deviceId)
      (fun x w => value ∈ (w.stores x).values) (fun w => value ∈ (w.stores src).values) where
  opens := by
    intro s t inv step at_source
    exact (step.keeps keys inv).2.values src at_source
  keeps := by
    intro s l t inv step at_source _
    exact (step.keeps keys inv).2.values src at_source
  closes := by
    intro s t inv step held
    obtain ⟨stores, client, vars, batch, running, rfl, rfl, state, read, empty, -⟩ := step.pushEnds
    obtain ⟨row, listed, rfl⟩ := mem_values.mp held
    have delivered := (inv.push_delivers running state read empty).1 row listed own
    simp only [Hop.span]
    rw [stores]
    exact delivered

theorem values_travel (keys : Function.Injective peerId) {final : NetworkWorld σ ι}
    {since : List (NetworkAction σ ι)} (inv : NetworkInv peerId deviceId w)
    (run : Run (NetworkStep peerId deviceId) w since final) {x y : σ} {hops : List (Hop σ ι)}
    (leads : Hop.Leads x hops y) (sub : (Hop.labels hops).Sublist since) {value : EntryRow}
    (takes : ∀ hop ∈ hops, hop.Takes deviceId value) (member : value ∈ (w.stores x).values) :
    value ∈ (final.stores y).values := by
  have carried : Span.Carried (NetworkStep peerId deviceId) (NetworkInv peerId deviceId)
      (fun x w => value ∈ (w.stores x).values) (hops.map Hop.span) := by
    intro span listed
    obtain ⟨hop, hopped, rfl⟩ := List.mem_map.mp listed
    cases hop with
    | pull i src dst => exact ⟨_, pull_carries i src dst value⟩
    | push i src dst => exact ⟨_, push_carries keys i src dst (takes _ hopped)⟩
  apply (Span.Travels.between carried leads member).reaches _ _ run inv sub
  · exact fun inv step => (step.keeps keys inv).1
  · exact fun x inv step held => (step.keeps keys inv).2.values x held

/-- The same rows, shown in the same order. -/
structure SameHistory (a b : LocalStore) : Prop where
  values : ∀ value, value ∈ a.values ↔ value ∈ b.values
  shown : ∀ limit, ∃ entries, a.listRecent limit = .ok entries ∧ b.listRecent limit = .ok entries

theorem NetworkStep.created {action : NetworkAction σ ι} (step : NetworkStep peerId deviceId w action after)
    (quiet : ∀ x, action ≠ .record x) : after.created = w.created := by
  cases step with
  | record x e faults fresh readable => exact absurd rfl (quiet x)
  | new | startPull | startPush | send | pullAttempt | insert | setCursor | setCursorFails | read | pushAttempt |
    setSeq | setSeqFails | serve | crash => rfl

theorem created_kept {final : NetworkWorld σ ι} {since : List (NetworkAction σ ι)}
    (run : Run (NetworkStep peerId deviceId) w since final) (quiet : ∀ x, NetworkAction.record x ∉ since) :
    final.created = w.created := by
  apply run.invariant_of_labels (fun s => s.created = w.created) (fun l => ∀ x, l ≠ .record x)
  · intro s l t sofar silent step
    exact (step.created silent).trans sofar
  · intro l listed x record
    exact quiet x (record ▸ listed)
  · rfl

omit [DecidableEq σ] [DecidableEq ι] in
theorem NetworkInv.sameHistory (inv : NetworkInv peerId deviceId w)
    (spread : ∀ x y, (w.stores x).values ⊆ (w.stores y).values) (x y : σ) :
    SameHistory (w.stores x) (w.stores y) := by
  have same : ∀ value, value ∈ (w.stores x).values ↔ value ∈ (w.stores y).values :=
    fun value => ⟨fun member => spread x y member, fun member => spread y x member⟩
  refine ⟨same, fun limit => ?_⟩
  have readable : ∀ value ∈ (w.stores x).values, value.Readable := by
    intro value member
    obtain ⟨made, listed, rfl⟩ := inv.mesh.rows x value member
    exact inv.mesh.readable made listed
  obtain ⟨entries, shown⟩ := listRecent_ok readable limit
  exact ⟨entries, shown, (listRecent_eq same limit).symm.trans shown⟩

/-- Each recorded entry reaches every store along sessions that take it. -/
def ReachesAll (deviceId : σ → String) (w : NetworkWorld σ ι) (since : List (NetworkAction σ ι)) : Prop :=
  ∀ made ∈ w.created, ∀ y, y ≠ made.1 → ∃ hops : List (Hop σ ι), Hop.Leads made.1 hops y ∧
    (Hop.labels hops).Sublist since ∧ ∀ hop ∈ hops, hop.Takes deviceId made.2.toRow

theorem ReachesAll.everywhere (keys : Function.Injective peerId) {final : NetworkWorld σ ι}
    {since : List (NetworkAction σ ι)} (reaches : ReachesAll deviceId w since) (inv : NetworkInv peerId deviceId w)
    (later : Run (NetworkStep peerId deviceId) w since final) {made : σ × Entry} (listed : made ∈ w.created) (y : σ) :
    made.2.toRow ∈ (final.stores y).values := by
  have held := inv.mesh.origin made listed
  by_cases here : y = made.1
  · subst here
    have stays : Hop.Leads made.1 ([] : List (Hop σ ι)) made.1 := .nil made.1
    exact values_travel keys inv later stays (List.nil_sublist since) (fun _ none => by cases none) held
  · obtain ⟨hops, leads, sub, takes⟩ := reaches made listed y here
    exact values_travel keys inv later leads sub takes held

/-- When no device records anything new, what reaches all devices is all there is. -/
theorem ReachesAll.sameHistory (keys : Function.Injective peerId) {final : NetworkWorld σ ι}
    {since : List (NetworkAction σ ι)} (reaches : ReachesAll deviceId w since) (inv : NetworkInv peerId deviceId w)
    (later : Run (NetworkStep peerId deviceId) w since final) (quiet : ∀ x, NetworkAction.record x ∉ since) (x y : σ) :
    SameHistory (final.stores x) (final.stores y) := by
  have ending : NetworkInv peerId deviceId final := network_run_keeps keys later inv
  apply ending.sameHistory
  intro x y value member
  obtain ⟨made, listed, rfl⟩ := ending.mesh.rows x value member
  rw [show final.mesh.created = w.created from created_kept later quiet] at listed
  exact reaches.everywhere keys inv later listed y

/-- Whatever happens to requests and answers on the way: every store only ever holds recorded entries, whole
    and once; they travel along every chain of sessions that take them; and once chains have brought each of
    them everywhere, all stores show the same history. -/
theorem network_converges (keys : Function.Injective peerId) {initial final : NetworkWorld σ ι}
    {before since : List (NetworkAction σ ι)} (init : NetworkInitial initial)
    (run : Run (NetworkStep peerId deviceId) initial before w)
    (later : Run (NetworkStep peerId deviceId) w since final) :
    ((w.created.map fun made => made.2.entryId).Nodup ∧
      ∀ x, (w.stores x).values.Nodup ∧ ∀ value ∈ (w.stores x).values, ∃ made ∈ w.created, made.2.toRow = value) ∧
    (∀ x y hops, Hop.Leads x hops y → (Hop.labels hops).Sublist since → ∀ value ∈ (w.stores x).values,
      (∀ hop ∈ hops, hop.Takes deviceId value) → value ∈ (final.stores y).values) ∧
    ((∀ x, NetworkAction.record x ∉ since) → ReachesAll deviceId w since →
      ∀ x y, SameHistory (final.stores x) (final.stores y)) := by
  have inv : NetworkInv peerId deviceId w := network_run_keeps keys run init.inv
  refine ⟨⟨inv.mesh.unique, fun x => ⟨(w.stores x).values_nodup, inv.mesh.rows x⟩⟩, ?_, ?_⟩
  · intro x y hops leads sub value member takes
    exact values_travel keys inv later leads sub takes member
  · intro quiet reaches
    exact reaches.sameHistory keys inv later quiet

/-- With one hub: after every device has pushed to it, and then every device has pulled from it, all of them have
    what had been recorded before, and show the same history unless one has recorded something since. -/
theorem hub_converges (keys : Function.Injective peerId) {initial final : NetworkWorld σ ι}
    {before first second : List (NetworkAction σ ι)} (init : NetworkInitial initial)
    (run : Run (NetworkStep peerId deviceId) initial before w)
    (later : Run (NetworkStep peerId deviceId) w (first ++ second) final)
    (own : ∀ made ∈ w.created, made.2.deviceId = deviceId made.1) (hub : σ)
    (pushes : ∀ x, x ≠ hub → ∃ i, [NetworkAction.pushBegins i x hub, .pushEnds i x hub].Sublist first)
    (pulls : ∀ y, y ≠ hub → ∃ i, [NetworkAction.pullBegins i hub y, .pullEnds i hub y].Sublist second) :
    (∀ made ∈ w.created, ∀ y, made.2.toRow ∈ (final.stores y).values) ∧
      ((∀ x, NetworkAction.record x ∉ first ++ second) → ∀ x y, SameHistory (final.stores x) (final.stores y)) := by
  have inv : NetworkInv peerId deviceId w := network_run_keeps keys run init.inv
  have reaches : ReachesAll deviceId w (first ++ second) := by
    intro made listed y elsewhere
    have up : made.2.toRow.deviceId = deviceId made.1 := own made listed
    by_cases from_hub : made.1 = hub
    · obtain ⟨i, pulled⟩ := pulls y (from_hub ▸ elsewhere)
      have leads : Hop.Leads hub [Hop.pull i hub y] y := .cons (Hop.pull i hub y).span (.nil y)
      rw [from_hub]
      exact ⟨_, leads, pulled.trans (List.sublist_append_right _ _), by simp [Hop.Takes]⟩
    · obtain ⟨i, pushed⟩ := pushes made.1 from_hub
      by_cases to_hub : y = hub
      · have leads : Hop.Leads made.1 [Hop.push i made.1 hub] hub := .cons (Hop.push i made.1 hub).span (.nil hub)
        rw [to_hub]
        exact ⟨_, leads, pushed.trans (List.sublist_append_left _ _), by simp [Hop.Takes, up]⟩
      · obtain ⟨j, pulled⟩ := pulls y to_hub
        have leads : Hop.Leads made.1 [Hop.push i made.1 hub, .pull j hub y] y :=
          .cons (Hop.push i made.1 hub).span (.cons (Hop.pull j hub y).span (.nil y))
        exact ⟨_, leads, pushed.append pulled, by simp [Hop.Takes, up]⟩
  constructor
  · intro made listed y
    exact reaches.everywhere keys inv later listed y
  · intro quiet
    exact reaches.sameHistory keys inv later quiet

/-- A session that returns `Ok` has done its work, however many of its requests were sent again, and the
    summary of a push adds up to what it sent. -/
theorem sessions_deliver (keys : Function.Injective peerId) {initial : NetworkWorld σ ι}
    {before : List (NetworkAction σ ι)} (init : NetworkInitial initial)
    (run : Run (NetworkStep peerId deviceId) initial before w) :
    (∀ i src dst opened since closing final, NetworkStep peerId deviceId w (.pullBegins i src dst) opened →
      Run (NetworkStep peerId deviceId) opened since closing →
      NetworkStep peerId deviceId closing (.pullEnds i src dst) final →
      (w.stores src).values ⊆ (final.stores dst).values) ∧
    (∀ i src dst final, NetworkStep peerId deviceId w (.pushEnds i src dst) final →
      (∀ value ∈ (w.stores src).values, value.deviceId = deviceId src → value ∈ (final.stores dst).values) ∧
      ∃ client pushed, final.clients i = some client ∧ client.session = .push (.returned (.ok pushed)) ∧
        ((pushed = 0 ∧ client.stats.take.1 = none) ∨
          ∃ inserted ignored, client.stats.take.1 = some (inserted, ignored) ∧ inserted + ignored = pushed)) := by
  have inv : NetworkInv peerId deviceId w := network_run_keeps keys run init.inv
  constructor
  · intro i src dst opened since closing final opens between closes value member
    have whole : Run (NetworkStep peerId deviceId) w (.pullBegins i src dst :: (since ++ [.pullEnds i src dst])) final :=
      .cons opens (between.snoc closes)
    have leads : Hop.Leads src [Hop.pull i src dst] dst := .cons (Hop.pull i src dst).span (.nil dst)
    refine values_travel keys inv whole leads ?_ (by simp [Hop.Takes]) member
    exact (List.sublist_append_right since _).cons_cons _
  · intro i src dst final ends
    obtain ⟨stores, client, vars, batch, running, rfl, rfl, state, read, empty, ended⟩ := ends.pushEnds
    obtain ⟨delivered, counts⟩ := inv.push_delivers running state read empty
    refine ⟨fun value member own => ?_, _, _, ended, rfl, counts.take⟩
    obtain ⟨row, listed, rfl⟩ := mem_values.mp member
    rw [stores]
    exact delivered row listed own

/-- A call takes its result from the answer to its own request: late answers to earlier attempts, and answers
    to other calls, are never taken for it. -/
theorem call_takes_own_answer (keys : Function.Injective peerId) {initial : NetworkWorld σ ι}
    {before : List (NetworkAction σ ι)} (init : NetworkInitial initial)
    (run : Run (NetworkStep peerId deviceId) initial before w) {i : ι} {client : NetworkClient σ}
    (running : w.clients i = some client) :
    (∀ atStart vars attempt batch, client.session = .pull atStart (.pulling vars) →
      PullAttempt w client attempt (.ok batch) → PulledSince w client.peer atStart vars batch) ∧
    (∀ vars batch attempt stats, client.session = .push (.pushing vars batch) →
      PushAttempt w client attempt (.ok ()) stats →
      (∀ e ∈ batch.entries, e.toRow ∈ (w.stores client.peer).values) ∧
        stats.Counts (vars.pushedTotal + batch.entries.length)) := by
  have inv : NetworkInv peerId deviceId w := network_run_keeps keys run init.inv
  have known := inv.clients i client running
  constructor
  · intro atStart vars attempt batch state ended
    exact ended.pulled inv.matched known.sent state rfl
  · intro vars batch attempt stats state ended
    have session := known.session
    rw [state] at session
    rcases ended.pushed inv.matched known.sent state with ⟨err, failed, -⟩ | ⟨-, held, more⟩
    · cases failed
    · refine ⟨fun e listed => held e.toRow (List.mem_map_of_mem listed), ?_⟩
      exact more _ session.2 session.1.2.2.1

end

def idleNetwork : NetworkWorld Bool Unit := ⟨fun _ => opened, [], fun _ => none, .empty⟩

def echoPeer (x : Bool) : String := if x then "peer-a" else "peer-b"

def echoDevice (x : Bool) : String := if x then "dev1" else "dev2"

theorem echoPeer_injective : Function.Injective echoPeer := by
  intro a b same
  cases a <;> cases b <;> simp [echoPeer] at same ⊢

theorem idleNetwork_initial : NetworkInitial idleNetwork := ⟨fun _ => rfl, rfl, fun _ => rfl, rfl⟩

def echoClient (stats : PushAckStats) (session : ClientSession) (call : RequestCall) : NetworkClient Bool :=
  ⟨true, false, 0, .default, stats, session, call⟩

def echoTable : EntriesTable := (opened.inserted [firstEcho]).entries

/-- One device records an entry, pushes it to the other and pulls from it. -/
theorem exchange_echo :
    ∃ recorded asked closing pushed opened ending final : NetworkWorld Bool Unit,
      Run (NetworkStep echoPeer echoDevice) idleNetwork [.record true] recorded ∧
      recorded.created = [(true, firstEcho)] ∧
      Run (NetworkStep echoPeer echoDevice) recorded
        [.progress, .pushBegins () true false, .progress, .progress, .progress] asked ∧
      (∃ client, asked.clients () = some client ∧
        client.session = .push (.pushing ⟨0, 0, 1⟩ ⟨[firstEcho], some 1⟩) ∧
        PushAttempt asked client 0 (.ok ()) ⟨true, 1, 0⟩) ∧
      Run (NetworkStep echoPeer echoDevice) asked [.progress, .progress] closing ∧
      Run (NetworkStep echoPeer echoDevice) closing [.pushEnds () true false] pushed ∧
      Run (NetworkStep echoPeer echoDevice) pushed [.pullBegins () false true] opened ∧
      Run (NetworkStep echoPeer echoDevice) opened
        [.progress, .progress, .progress, .progress, .progress, .progress, .progress] ending ∧
      Run (NetworkStep echoPeer echoDevice) ending [.pullEnds () false true] final ∧
      (final.stores true).values = [firstEcho.toRow] := by
  -- the client at each of its steps
  let reading := echoClient .reset (.push (.reading ⟨0, 0, 1⟩)) (.connecting 0)
  let pushing := echoClient .reset (.push (.pushing ⟨0, 0, 1⟩ ⟨[firstEcho], some 1⟩))
  let advancing := echoClient ⟨true, 1, 0⟩ (.push (.advancing ⟨1, 1, 1⟩)) (.connecting 0)
  let reread := echoClient ⟨true, 1, 0⟩ (.push (.reading ⟨1, 1, 1⟩)) (.connecting 0)
  let pushed_all := echoClient ⟨true, 1, 0⟩ (.push (.returned (.ok 1))) (.connecting 0)
  let pull := fun state => echoClient ⟨true, 1, 0⟩ (.pull echoTable state)
  have idle : Run (NetworkStep echoPeer echoDevice) idleNetwork [] idleNetwork := .nil _
  have recorded := idle.snoc (.record _ true firstEcho noFaults (by decide) (by decide))
  have made := recorded.rest.snoc (.new _ () true false 0 .default rfl)
  have begun := made.snoc (.startPush _ () (echoClient .reset .idle (.connecting 0)) 1 (.ok 0) rfl trivial (by decide)
    (fun _ h => by cases h; rfl))
  have read := begun.snoc (.read _ () reading ⟨0, 0, 1⟩ (.ok ⟨[firstEcho], some 1⟩) rfl rfl
    (fun _ h => by cases h; rfl))
  have sent := read.snoc (.send _ () (pushing (.connecting 0)) 0 1 .push (.push ⟨[firstEcho]⟩) rfl rfl rfl
    (by intro _ none; cases none))
  have asked := sent.snoc (.serve _ ⟨0, .push, 1⟩ _ noFaults (.push ⟨true, some 1, some 0⟩) _ List.mem_cons_self rfl)
  have taken := asked.rest.snoc (.pushAttempt _ () (pushing (.waiting 0 1)) ⟨0, 0, 1⟩ ⟨[firstEcho], some 1⟩ 0
    (.ok ()) ⟨true, 1, 0⟩ rfl rfl
    (.event 1 (.push (.response 1 ⟨true, some 1, some 0⟩)) _ _ rfl List.mem_cons_self rfl))
  have closing := taken.snoc (.setSeq _ () advancing ⟨1, 1, 1⟩ rfl rfl)
  have pushed := closing.rest.snoc (.read _ () reread ⟨1, 1, 1⟩ (.ok ⟨[], none⟩) rfl rfl
    (fun _ h => by cases h; rfl))
  have opened := pushed.rest.snoc (.startPull _ () pushed_all 1 (.ok 0) rfl trivial (by decide)
    (fun _ h => by cases h; rfl))
  have sent := opened.rest.snoc (.send _ () (pull (.pulling ⟨0, 0, 0, 0, 1⟩) (.connecting 0)) 0 1 .sync
    (.sync ⟨0, 1⟩) rfl rfl rfl (by
      intro sent listed
      rcases List.mem_singleton.mp listed with rfl
      decide))
  have served := sent.snoc (.serve _ ⟨0, .sync, 1⟩ _ noFaults (.sync ⟨[firstEcho], some 1⟩) _ List.mem_cons_self rfl)
  have pulled := served.snoc (.pullAttempt _ () (pull (.pulling ⟨0, 0, 0, 0, 1⟩) (.waiting 0 1)) _ ⟨0, 0, 0, 0, 1⟩ 0
    (.ok ⟨[firstEcho], some 1⟩) rfl rfl
    (.event 1 (.sync (.response 1 ⟨[firstEcho], some 1⟩)) _ rfl List.mem_cons_self rfl))
  have stored := pulled.snoc (.insert _ () (pull (.inserting ⟨0, 0, 0, 0, 1⟩ ⟨[firstEcho], some 1⟩) (.connecting 0)) _
    ⟨0, 0, 0, 0, 1⟩ ⟨[firstEcho], some 1⟩ noFaults _ _ rfl rfl rfl)
  have advanced := stored.snoc (.setCursor _ () (pull (.advancing ⟨0, 1, 0, 1, 1⟩ 1) (.connecting 0)) _
    ⟨0, 1, 0, 1, 1⟩ 1 rfl rfl)
  have again := advanced.snoc (.send _ () (pull (.pulling ⟨1, 1, 0, 1, 1⟩) (.connecting 0)) 0 2 .sync (.sync ⟨1, 1⟩)
    rfl rfl rfl (by
      intro sent listed
      rcases List.mem_cons.mp listed with rfl | listed
      · decide
      · rcases List.mem_singleton.mp listed with rfl
        decide))
  have ending := again.snoc (.serve _ ⟨0, .sync, 2⟩ _ noFaults (.sync ⟨[], none⟩) _ List.mem_cons_self rfl)
  have final := ending.rest.snoc (.pullAttempt _ () (pull (.pulling ⟨1, 1, 0, 1, 1⟩) (.waiting 0 2)) _ ⟨1, 1, 0, 1, 1⟩ 0
    (.ok ⟨[], none⟩) rfl rfl (.event 2 (.sync (.response 2 ⟨[], none⟩)) _ rfl List.mem_cons_self rfl))
  refine ⟨_, _, _, _, _, _, _, recorded, rfl, asked, ⟨pushing (.waiting 0 1), rfl, rfl, ?_⟩, closing, pushed, opened,
    ending, final, rfl⟩
  exact .event 1 (.push (.response 1 ⟨true, some 1, some 0⟩)) _ _ rfl List.mem_cons_self rfl

theorem sessions_deliver_echo :
    ∃ pushed final : NetworkWorld Bool Unit, (pushed.stores false).values ⊆ (final.stores true).values ∧
      (final.stores true).values = [firstEcho.toRow] := by
  obtain ⟨recorded, asked, closing, pushed, opened, ending, final, run, -, first, -, second, ends, opens, between,
    closes, shown⟩ := exchange_echo
  have reached := ((run.append first).append second).append ends
  have deliver := sessions_deliver echoPeer_injective idleNetwork_initial reached
  exact ⟨pushed, final, deliver.1 () false true opened _ ending final opens.of_single between closes.of_single, shown⟩

theorem call_takes_own_answer_echo :
    ∃ (asked : NetworkWorld Bool Unit) (client : NetworkClient Bool), asked.clients () = some client ∧
      ∀ e ∈ [firstEcho], e.toRow ∈ (asked.stores client.peer).values := by
  obtain ⟨recorded, asked, -, -, -, -, -, run, -, first, ⟨client, running, state, ended⟩, -⟩ := exchange_echo
  have own := call_takes_own_answer echoPeer_injective idleNetwork_initial (run.append first) running
  exact ⟨asked, client, running, (own.2 _ _ 0 _ state ended).1⟩

theorem network_converges_echo :
    ∃ recorded final : NetworkWorld Bool Unit, recorded.created = [(true, firstEcho)] ∧
      ∀ x y, SameHistory (final.stores x) (final.stores y) := by
  obtain ⟨recorded, asked, closing, pushed, opened, ending, final, run, created, first, -, second, ends, opens,
    between, closes, -⟩ := exchange_echo
  have later := ((first.append second).append ends).append (opens.append (between.append closes))
  refine ⟨recorded, final, created, ?_⟩
  apply (network_converges echoPeer_injective idleNetwork_initial run later).2.2 (by decide)
  intro made listed y elsewhere
  rw [created, List.mem_singleton] at listed
  subst listed
  have other : y = false := by simpa using elsewhere
  subst other
  have leads : Hop.Leads true [Hop.push () true false] false := .cons (Hop.push () true false).span (.nil false)
  exact ⟨[.push () true false], leads, by decide, by simp [Hop.Takes, echoDevice, firstEcho, testEntry, Entry.toRow]⟩

theorem hub_converges_echo :
    ∃ final : NetworkWorld Bool Unit, (final.stores true).values = [firstEcho.toRow] ∧
      ∀ x y, SameHistory (final.stores x) (final.stores y) := by
  obtain ⟨recorded, asked, closing, pushed, opened, ending, final, run, created, first, -, second, ends, opens,
    between, closes, shown⟩ := exchange_echo
  have later := ((first.append second).append ends).append (opens.append (between.append closes))
  refine ⟨final, shown, ?_⟩
  apply (hub_converges echoPeer_injective idleNetwork_initial run later ?_ false ?_ ?_).2 (by decide)
  · intro made listed
    rw [created, List.mem_singleton] at listed
    subst listed
    rfl
  · intro x elsewhere
    have other : x = true := by simpa using elsewhere
    subst other
    exact ⟨(), by decide⟩
  · intro y elsewhere
    have other : y = true := by simpa using elsewhere
    subst other
    exact ⟨(), by decide⟩

end Rustory
