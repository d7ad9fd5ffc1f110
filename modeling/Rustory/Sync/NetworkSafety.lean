import Rustory.Sync.Network
import Rustory.Sync.PushSystem

namespace Rustory

open Foundations LocalStore

section

variable {σ ι : Type*}

def ServeReply.entries : ServeReply → List Entry
  | .sync response => response.entries
  | .push _ => []

/-- The entries that a client has in its hands. -/
def NetworkClient.entries (client : NetworkClient σ) : List Entry :=
  match client.session with
  | .pull _ (.inserting _ batch) => batch.entries
  | .push (.pushing _ batch) => batch.entries
  | _ => []

/-- Each of the entries is one that was recorded, whole. -/
def NetworkWorld.Made (w : NetworkWorld σ ι) (entries : List Entry) : Prop :=
  ∀ e ∈ entries, ∃ made ∈ w.created, made.2.toRow = e.toRow

/-- What the store of `dst` sees of the store of `src`. -/
def NetworkWorld.pull (w : NetworkWorld σ ι) (src dst : σ) : PullWorld Unit :=
  ⟨w.stores src, w.stores dst, fun _ => none⟩

/-- Up to the cursor, what `src` recorded itself has arrived at `dst`. -/
def Delivered (deviceId : σ → String) (w : NetworkWorld σ ι) (src dst : σ) (cursor : Int) : Prop :=
  cursor ≤ (w.stores src).entries.sequence ∧
    (w.stores src).entries.Covers (ofDevice (deviceId src)) (fun row => row ∈ (w.stores dst).values) cursor

def SessionDelivered (deviceId : σ → String) (w : NetworkWorld σ ι) (src dst : σ) : PushState → Prop
  | .reading vars => 1 ≤ vars.batchLimit ∧ Delivered deviceId w src dst vars.cursor
  | .pushing vars batch =>
    1 ≤ vars.batchLimit ∧ Delivered deviceId w src dst vars.cursor ∧ batch.entries ≠ [] ∧
      ∀ nextCursor, batch.nextCursor = some nextCursor →
        nextCursor ≤ (w.stores src).entries.sequence ∧
        (w.stores src).entries.Covers (ofDevice (deviceId src))
          (fun row => row ∈ (w.stores dst).values ∨ row ∈ rowsOf batch.entries) nextCursor
  | .advancing vars => 1 ≤ vars.batchLimit ∧ Delivered deviceId w src dst vars.cursor
  | .returned _ => True

/-- The numbers of the client are those of what the session has pushed so far. -/
def SessionCounts (stats : PushAckStats) : PushState → Prop
  | .reading vars => stats.Counts vars.pushedTotal
  | .pushing vars _ => stats.Counts vars.pushedTotal
  | .advancing vars => stats.Counts vars.pushedTotal
  | .returned (.ok pushed) => stats.Counts pushed
  | .returned (.error _) => True

def ClientSession.Fine (deviceId : σ → String) (w : NetworkWorld σ ι) (device peer : σ) (stats : PushAckStats) :
    ClientSession → Prop
  | .idle => True
  | .pull atStart state => atStart.Extends (w.stores peer).entries ∧ SessionCaughtUp (w.pull peer device) state
  | .push state => SessionDelivered deviceId w device peer state ∧ SessionCounts stats state

/-- The request that the client waits for was sent, in this session, and is the one of its call. -/
def NetworkClient.Sent (w : NetworkWorld σ ι) (client : NetworkClient σ) : Prop :=
  ∀ attempt id, client.call = .waiting attempt id → ∃ behaviour request atSend,
    client.request = some (behaviour, request) ∧
    (⟨client.swarm, behaviour, id⟩, ⟨client.peer, request, atSend⟩) ∈ w.wire.requests ∧
    ∀ atStart state, client.session = .pull atStart state → atStart.Extends atSend

/-- A reply to a pull is a page of the table as it was at some time since the request was sent. A reply to a
    push counts every entry, and says `ok` only when all of them are in the store. -/
def Answered (w : NetworkWorld σ ι) (sent : SentRequest σ) (reply : ServeReply) : Prop :=
  match sent.request, reply with
  | .sync request, .sync response =>
    w.Made response.entries ∧ ∃ table, sent.atSend.Extends table ∧ table.Extends (w.stores sent.peer).entries ∧
      BatchOf (table.page (fun _ => true) request.cursor (asI64 request.limit))
        ⟨response.entries, response.nextCursor⟩
  | .push request, .push ack =>
    ack.ok = true → (∀ row ∈ rowsOf request.entries, row ∈ (w.stores sent.peer).values) ∧
      ∃ inserted ignored, ack.inserted = some inserted ∧ ack.ignored = some ignored ∧
        inserted + ignored = request.entries.length
  | _, _ => False

structure NetworkInitial (w : NetworkWorld σ ι) : Prop where
  stores : ∀ x, w.stores x = opened
  created : w.created = []
  clients : ∀ i, w.clients i = none
  wire : w.wire = .empty

structure ClientInv (deviceId : σ → String) (w : NetworkWorld σ ι) (client : NetworkClient σ) : Prop where
  sent : client.Sent w
  made : w.Made client.entries
  session : client.session.Fine deviceId w client.device client.peer client.stats

structure NetworkInv (peerId deviceId : σ → String) (w : NetworkWorld σ ι) : Prop where
  mesh : MeshInv w.mesh
  requests : ∀ sent ∈ w.wire.requests, w.Made sent.2.request.entries ∧
    sent.2.atSend.Extends (w.stores sent.2.peer).entries
  matched : w.wire.Matched (Answered w)
  pulled : ∀ src dst, CaughtUp (w.pull src dst) ((w.stores dst).getLastCursor (peerId src))
  pushed : ∀ src dst, Delivered deviceId w src dst ((w.stores src).getLastPushedSeq (peerId dst))
  clients : ∀ i client, w.clients i = some client → ClientInv deviceId w client

/-- All that is only ever added to. -/
structure NetworkWorld.Grows (w after : NetworkWorld σ ι) : Prop where
  tables : ∀ x, (w.stores x).entries.Extends (after.stores x).entries
  created : w.created ⊆ after.created
  requests : w.wire.requests ⊆ after.wire.requests

namespace NetworkWorld.Grows

variable {w after : NetworkWorld σ ι}

theorem refl (w : NetworkWorld σ ι) : w.Grows w :=
  ⟨fun _ => .refl _, List.Subset.refl _, List.Subset.refl _⟩

theorem trans {later : NetworkWorld σ ι} (first : w.Grows after) (second : after.Grows later) : w.Grows later where
  tables := fun x => (first.tables x).trans (second.tables x)
  created := List.Subset.trans first.created second.created
  requests := List.Subset.trans first.requests second.requests

theorem values (grows : w.Grows after) (x : σ) : (w.stores x).values ⊆ (after.stores x).values :=
  List.map_subset Numbered.val (grows.tables x).kept

theorem holds (grows : w.Grows after) (x : σ) {id : EntryId} (held : (w.stores x).Holds id) :
    (after.stores x).Holds id := by
  obtain ⟨value, member, same⟩ := holds_iff_value.mp held
  exact holds_iff_value.mpr ⟨value, grows.values x member, same⟩

theorem made (grows : w.Grows after) {entries : List Entry} (made : w.Made entries) : after.Made entries := by
  intro e listed
  obtain ⟨entry, recorded, same⟩ := made e listed
  exact ⟨entry, grows.created recorded, same⟩

theorem caughtUp (grows : w.Grows after) {src dst : σ} {cursor : Int} (caught : CaughtUp (w.pull src dst) cursor) :
    CaughtUp (after.pull src dst) cursor :=
  caught.frame (grows.tables src).toEvolves fun _ => grows.holds dst

theorem delivered (grows : w.Grows after) {deviceId : σ → String} {src dst : σ} {cursor : Int}
    (delivered : Delivered deviceId w src dst cursor) : Delivered deviceId after src dst cursor := by
  obtain ⟨bound, covers⟩ := delivered
  have evolves := (grows.tables src).toEvolves
  exact ⟨bound.trans evolves.sequence, (covers.evolve evolves bound).mono fun _ member => grows.values dst member⟩

theorem sessionDelivered (grows : w.Grows after) {deviceId : σ → String} {src dst : σ} {state : PushState}
    (session : SessionDelivered deviceId w src dst state) : SessionDelivered deviceId after src dst state := by
  cases state with
  | reading vars => exact ⟨session.1, grows.delivered session.2⟩
  | pushing vars batch =>
    obtain ⟨limit, delivered, nonempty, ahead⟩ := session
    refine ⟨limit, grows.delivered delivered, nonempty, fun nextCursor found => ?_⟩
    obtain ⟨bound, covers⟩ := ahead nextCursor found
    have evolves := (grows.tables src).toEvolves
    refine ⟨bound.trans evolves.sequence, (covers.evolve evolves bound).mono fun row => ?_⟩
    exact Or.imp_left fun member => grows.values dst member
  | advancing vars => exact ⟨session.1, grows.delivered session.2⟩
  | returned result => exact trivial

theorem answered (grows : w.Grows after) (sent : SentRequest σ) (reply : ServeReply)
    (answer : Answered w sent reply) : Answered after sent reply := by
  obtain ⟨peer, request, atSend⟩ := sent
  cases request with
  | sync request =>
    cases reply with
    | sync response =>
      obtain ⟨made, table, since, until_now, page⟩ := answer
      exact ⟨grows.made made, table, since, until_now.trans (grows.tables peer), page⟩
    | push ack => exact answer
  | push request =>
    cases reply with
    | sync response => exact answer
    | push ack =>
      intro ok
      obtain ⟨held, counts⟩ := answer ok
      exact ⟨fun row listed => grows.values peer (held row listed), counts⟩

theorem client (grows : w.Grows after) {deviceId : σ → String} {client : NetworkClient σ}
    (inv : ClientInv deviceId w client) : ClientInv deviceId after client where
  sent := by
    intro attempt id waiting
    obtain ⟨behaviour, request, atSend, asked, sent, since⟩ := inv.sent attempt id waiting
    exact ⟨behaviour, request, atSend, asked, grows.requests sent, since⟩
  made := grows.made inv.made
  session := by
    have session := inv.session
    cases same : client.session with
    | idle => exact trivial
    | pull atStart state =>
      rw [same] at session
      exact ⟨session.1.trans (grows.tables _), session.2.frame (grows.tables _).toEvolves fun _ => grows.holds _⟩
    | push state =>
      rw [same] at session
      exact ⟨grows.sessionDelivered session.1, session.2⟩

end NetworkWorld.Grows

theorem NetworkInitial.inv {peerId deviceId : σ → String} {w : NetworkWorld σ ι} (init : NetworkInitial w) :
    NetworkInv peerId deviceId w where
  mesh := by
    apply MeshInitial.inv
    exact ⟨init.stores, init.created, fun _ => rfl⟩
  requests := by simp [init.wire, Wire.empty]
  matched := by
    rw [init.wire]
    exact Wire.matched_empty
  pulled := by
    intro src dst
    have zero : (w.stores dst).getLastCursor (peerId src) = 0 := by
      rw [init.stores]
      rfl
    rw [zero]
    exact ⟨(w.stores src).entries.nonneg, NumberedTable.covers_zero _ _ _ le_rfl⟩
  pushed := by
    intro src dst
    have zero : (w.stores src).getLastPushedSeq (peerId dst) = 0 := by
      rw [init.stores]
      rfl
    rw [zero]
    exact ⟨(w.stores src).entries.nonneg, NumberedTable.covers_zero _ _ _ le_rfl⟩
  clients := by
    intro i client running
    rw [init.clients i] at running
    cases running

/-! What a session may rely on when an attempt ends. -/

/-- A batch from a page read some time ago does as well as one read now. -/
theorem SessionCaughtUp.onLateReply {κ : Type*} {w : PullWorld κ} {vars : PullVars} {reply : Except Error PullBatch}
    (h : SessionCaughtUp w (.pulling vars))
    (answer : ∀ batch, reply = .ok batch → ∃ table : EntriesTable, table.Evolves w.remote.entries ∧
      BatchOf (table.page (fun _ => true) vars.cursor (asI64 vars.batchLimit)) batch) :
    SessionCaughtUp w (.onReply vars reply) := by
  cases state : PullState.onReply vars reply with
  | pulling next =>
    obtain ⟨cursor, limit⟩ := PullState.onReply_pulling state
    refine ⟨?_, ?_⟩
    · rw [limit]
      exact one_le_halved _
    · rw [cursor]
      exact h.2
  | inserting next batch =>
    obtain ⟨rfl, rfl, nonempty⟩ := PullState.onReply_inserting state
    refine ⟨h.1, fun nextCursor found => ?_⟩
    obtain ⟨table, evolves, read⟩ := answer batch rfl
    obtain ⟨last, ends, rfl⟩ := read.nextCursor_some found
    have held := (NumberedTable.mem_page (List.mem_of_getLast? ends)).1
    refine ⟨(table.numbered last held).2.trans evolves.sequence, ?_⟩
    refine (h.2.2.mono fun row => Or.inl).page_past evolves ends fun row member => Or.inr ?_
    obtain ⟨e, listed, written⟩ := read.mem member
    exact ⟨e, listed, by rw [← written, Entry.toRow]⟩
  | advancing next cursor => exact absurd state PullState.onReply_advancing
  | returned result => exact trivial

/-- The batch of a pull that succeeds is a page of the peer, read since the session began. -/
structure PulledSince (w : NetworkWorld σ ι) (peer : σ) (atStart : EntriesTable) (vars : PullVars)
    (batch : PullBatch) : Prop where
  made : w.Made batch.entries
  page : ∃ table : EntriesTable, atStart.Extends table ∧ table.Extends (w.stores peer).entries ∧
    BatchOf (table.page (fun _ => true) vars.cursor (asI64 vars.batchLimit)) batch

theorem PullAttempt.pulled {w : NetworkWorld σ ι} {client : NetworkClient σ} {atStart : EntriesTable}
    {vars : PullVars} {attempt : Nat} {outcome : Except Error PullBatch} {batch : PullBatch}
    (ended : PullAttempt w client attempt outcome) (matched : w.wire.Matched (Answered w)) (sent : client.Sent w)
    (running : client.session = .pull atStart (.pulling vars)) (ok : outcome = .ok batch) :
    PulledSince w client.peer atStart vars batch := by
  cases ended with
  | connect | deadline => cases ok
  | event id event outcome waiting reported settled =>
    rw [ok] at settled
    obtain ⟨response, rfl, rfl⟩ := pullEvent_ok settled
    obtain ⟨behaviour, request, atSend, asked, listed, since⟩ := sent attempt id waiting
    have own : (some (Behaviour.sync, ServeRequest.sync ⟨vars.cursor, vars.batchLimit⟩)) =
        some (behaviour, request) := by
      rw [← asked, NetworkClient.request, running]
    cases own
    obtain ⟨made, table, sent_before, until_now, page⟩ := matched.answered listed reported
    exact ⟨made, table, (since atStart _ running).trans sent_before, until_now, page⟩

theorem PushAttempt.pushed {w : NetworkWorld σ ι} {client : NetworkClient σ} {vars : PushVars} {batch : PullBatch}
    {attempt : Nat} {outcome : Except Error Unit} {stats : PushAckStats}
    (ended : PushAttempt w client attempt outcome stats) (matched : w.wire.Matched (Answered w))
    (sent : client.Sent w) (running : client.session = .push (.pushing vars batch)) :
    (∃ err, outcome = .error err ∧ stats = client.stats) ∨
      outcome = .ok () ∧ (∀ row ∈ rowsOf batch.entries, row ∈ (w.stores client.peer).values) ∧
        ∀ total, client.stats.Counts total → batch.entries ≠ [] →
          stats.Counts (total + batch.entries.length) := by
  cases ended with
  | connect err => exact Or.inl ⟨err, rfl, rfl⟩
  | deadline id timeout => exact Or.inl ⟨_, rfl, rfl⟩
  | event id event outcome stats waiting reported settled =>
    rcases pushEvent_some settled with failed | ⟨ack, rfl, accepted, rfl, rfl⟩
    · exact Or.inl failed
    · obtain ⟨behaviour, request, atSend, asked, listed, -⟩ := sent attempt id waiting
      have own : (some (Behaviour.push, ServeRequest.push ⟨batch.entries⟩)) = some (behaviour, request) := by
        rw [← asked, NetworkClient.request, running]
      cases own
      have answer : ack.ok = true → _ := matched.answered listed reported
      obtain ⟨held, inserted, ignored, first, second, sum⟩ := answer accepted
      refine Or.inr ⟨rfl, held, fun total counts nonempty => ?_⟩
      exact counts.add first second sum (List.length_pos_iff.mpr nonempty)

theorem SessionDelivered.onRead {deviceId : σ → String} {w : NetworkWorld σ ι} {src dst : σ} {vars : PushVars}
    {result : Except Error PullBatch} (h : SessionDelivered deviceId w src dst (.reading vars))
    (answer : ∀ batch, result = .ok batch →
      readPushBatch (w.stores src) (some (deviceId src)) vars.cursor vars.batchLimit = .ok batch) :
    SessionDelivered deviceId w src dst (.onRead vars result) := by
  rcases PushState.onRead_cases vars result with ⟨err, state⟩ | ⟨batch, rfl, branches⟩
  · rw [state]
    exact trivial
  have read := pullSinceCursorForDevice_of (answer batch rfl)
  rcases branches with ⟨-, state⟩ | ⟨nonempty, state⟩
  · rw [state]
    exact trivial
  · rw [state]
    refine ⟨h.1, h.2, nonempty, fun nextCursor found => ?_⟩
    obtain ⟨last, ends, rfl⟩ := read.nextCursor_some found
    have held := (NumberedTable.mem_page (List.mem_of_getLast? ends)).1
    refine ⟨((w.stores src).entries.numbered last held).2, ?_⟩
    refine (h.2.2.mono fun row => Or.inl).page ends fun row member => Or.inr ?_
    rw [read.entries]
    exact List.mem_map_of_mem member

theorem SessionCounts.onRead {stats : PushAckStats} {vars : PushVars} (h : SessionCounts stats (.reading vars))
    (result : Except Error PullBatch) : SessionCounts stats (.onRead vars result) := by
  rcases PushState.onRead_cases vars result with ⟨err, state⟩ | ⟨batch, -, ⟨-, state⟩ | ⟨-, state⟩⟩
  · rw [state]
    exact trivial
  · rw [state]
    exact h
  · rw [state]
    exact h

theorem SessionDelivered.onPushed {deviceId : σ → String} {w : NetworkWorld σ ι} {src dst : σ} {vars : PushVars}
    {batch : PullBatch} {result : Except Error Unit}
    (h : SessionDelivered deviceId w src dst (.pushing vars batch))
    (held : result = .ok () → ∀ row ∈ rowsOf batch.entries, row ∈ (w.stores dst).values) :
    SessionDelivered deviceId w src dst (.onPushed vars batch result) := by
  obtain ⟨limit, delivered, -, ahead⟩ := h
  cases result with
  | error err =>
    rcases PushState.onPushed_error vars batch err with ⟨err', state⟩ | state
    · rw [state]
      exact trivial
    · rw [state]
      exact ⟨one_le_halved _, delivered⟩
  | ok done =>
    rcases PushState.onPushed_ok vars batch with ⟨err, state⟩ | ⟨next, state, found, -, same⟩
    · rw [state]
      exact trivial
    · obtain ⟨bound, covers⟩ := ahead next.cursor found
      rw [state]
      refine ⟨by rw [same]; exact limit, bound, covers.mono fun row seen => seen.elim id fun listed => ?_⟩
      exact held rfl row listed

theorem SessionCounts.onPushed {stats after : PushAckStats} {vars : PushVars} {batch : PullBatch}
    (h : SessionCounts stats (.pushing vars batch)) (result : Except Error Unit)
    (numbers : (∃ err, result = .error err ∧ after = stats) ∨
      result = .ok () ∧ after.Counts (vars.pushedTotal + batch.entries.length)) :
    SessionCounts after (.onPushed vars batch result) := by
  rcases numbers with ⟨err, rfl, rfl⟩ | ⟨rfl, counts⟩
  · rcases PushState.onPushed_error vars batch err with ⟨err', state⟩ | state
    · rw [state]
      exact trivial
    · rw [state]
      exact h
  · simp only [PushState.onPushed]
    split
    · exact trivial
    · split
      · exact trivial
      · exact counts

/-! What a client may become. -/

section

variable {deviceId : σ → String} {w : NetworkWorld σ ι} {client : NetworkClient σ}

theorem made_nil : w.Made [] := by
  intro e none
  cases none

/-- Outside of a call the client waits for nothing. -/
theorem ClientInv.next (inv : ClientInv deviceId w client) (none : client.request = none) (session : ClientSession)
    (made : w.Made { client with session := session }.entries)
    (fine : session.Fine deviceId w client.device client.peer client.stats) :
    ClientInv deviceId w { client with session := session } where
  sent := by
    intro attempt id waiting
    obtain ⟨behaviour, request, atSend, asked, -⟩ := inv.sent attempt id waiting
    rw [none] at asked
    cases asked
  made := made
  session := fine

theorem ClientInv.request_made (inv : ClientInv deviceId w client) {behaviour : Behaviour} {request : ServeRequest}
    (asked : client.request = some (behaviour, request)) : w.Made request.entries := by
  have made := inv.made
  unfold NetworkClient.request at asked
  unfold NetworkClient.entries at made
  split at asked
  · cases asked
    exact made_nil
  · rename_i vars batch running
    cases asked
    simp only [running] at made
    exact made
  · cases asked

theorem ClientInv.connecting {attempt : Nat} (free : client.call = .connecting attempt)
    (made : w.Made client.entries)
    (fine : client.session.Fine deviceId w client.device client.peer client.stats) :
    ClientInv deviceId w client where
  sent := by
    intro attempt id waiting
    rw [free] at waiting
    cases waiting
  made := made
  session := fine

theorem ClientInv.afterPull {atStart : EntriesTable} {vars : PullVars} {attempt : Nat}
    {outcome : Except Error PullBatch} (inv : ClientInv deviceId w client) (matched : w.wire.Matched (Answered w))
    (running : client.session = .pull atStart (.pulling vars)) (ended : PullAttempt w client attempt outcome) :
    ClientInv deviceId w (client.afterPull atStart vars attempt outcome) := by
  have fine := inv.session
  rw [running] at fine
  obtain ⟨since, caught⟩ := fine
  have pulled := fun batch => @ended.pulled _ _ _ _ _ _ _ _ batch matched inv.sent running
  unfold NetworkClient.afterPull
  rcases after_cases client.policy attempt outcome with ⟨next, decision⟩ | decision
  · rw [decision]
    exact ClientInv.connecting rfl inv.made inv.session
  · rw [decision]
    refine ClientInv.connecting rfl ?_ ⟨since, caught.onLateReply fun batch ok => ?_⟩
    · simp only [NetworkClient.entries]
      cases state : PullState.onReply vars outcome with
      | inserting next batch =>
        obtain ⟨-, ok, -⟩ := PullState.onReply_inserting state
        exact (pulled batch ok).made
      | pulling | advancing | returned => exact made_nil
    · obtain ⟨table, -, until_now, page⟩ := (pulled batch ok).page
      exact ⟨table, until_now.toEvolves, page⟩

theorem ClientInv.afterPush {vars : PushVars} {batch : PullBatch} {attempt : Nat} {outcome : Except Error Unit}
    {stats : PushAckStats} (inv : ClientInv deviceId w client) (matched : w.wire.Matched (Answered w))
    (running : client.session = .push (.pushing vars batch))
    (ended : PushAttempt w client attempt outcome stats) :
    ClientInv deviceId w ({ client with stats := stats }.afterPush vars batch attempt outcome) := by
  have fine := inv.session
  rw [running] at fine
  obtain ⟨delivered, counts⟩ := fine
  have nonempty : batch.entries ≠ [] := delivered.2.2.1
  have pushed := ended.pushed matched inv.sent running
  unfold NetworkClient.afterPush
  rcases after_cases client.policy attempt outcome with ⟨next, decision⟩ | decision
  · -- another attempt follows a failed one only, which added nothing
    have same : stats = client.stats := by
      rcases pushed with ⟨err, -, same⟩ | ⟨rfl, -⟩
      · exact same
      · cases decision
    rw [decision, same]
    exact ClientInv.connecting rfl inv.made inv.session
  · rw [decision]
    refine ClientInv.connecting rfl ?_ ⟨delivered.onPushed ?_, counts.onPushed outcome ?_⟩
    · simp only [NetworkClient.entries]
      cases state : PushState.onPushed vars batch outcome with
      | pushing next again => exact absurd state PushState.onPushed_pushing
      | reading | advancing | returned => exact made_nil
    · intro ok
      rcases pushed with ⟨err, rfl, -⟩ | ⟨-, held, -⟩
      · cases ok
      · exact held
    · rcases pushed with failed | ⟨ok, -, more⟩
      · exact Or.inl failed
      · exact Or.inr ⟨ok, more _ counts nonempty⟩

end

/-! What a step of the network does to the invariant. -/

section

variable {peerId deviceId : σ → String} {w after : NetworkWorld σ ι}

theorem NetworkInv.grow (inv : NetworkInv peerId deviceId w) (grows : w.Grows after) (mesh : MeshInv after.mesh)
    (requests : ∀ sent ∈ after.wire.requests, after.Made sent.2.request.entries ∧
      sent.2.atSend.Extends (after.stores sent.2.peer).entries)
    (matched : after.wire.Matched (Answered after))
    (pulled : ∀ src dst,
      (after.stores dst).getLastCursor (peerId src) = (w.stores dst).getLastCursor (peerId src) ∨
        CaughtUp (after.pull src dst) ((after.stores dst).getLastCursor (peerId src)))
    (pushed : ∀ src dst,
      (after.stores src).getLastPushedSeq (peerId dst) = (w.stores src).getLastPushedSeq (peerId dst) ∨
        Delivered deviceId after src dst ((after.stores src).getLastPushedSeq (peerId dst)))
    (clients : ∀ i client, after.clients i = some client →
      w.clients i = some client ∨ ClientInv deviceId after client) :
    NetworkInv peerId deviceId after where
  mesh := mesh
  requests := requests
  matched := matched
  pulled := by
    intro src dst
    rcases pulled src dst with same | caught
    · rw [same]
      exact grows.caughtUp (inv.pulled src dst)
    · exact caught
  pushed := by
    intro src dst
    rcases pushed src dst with same | delivered
    · rw [same]
      exact grows.delivered (inv.pushed src dst)
    · exact delivered
  clients := by
    intro i client running
    rcases clients i client running with old | new
    · exact grows.client (inv.clients i client old)
    · exact new

theorem NetworkInv.requests_grow (inv : NetworkInv peerId deviceId w) (grows : w.Grows after)
    (sent : RequestKey × SentRequest σ) (listed : sent ∈ w.wire.requests) :
    after.Made sent.2.request.entries ∧ sent.2.atSend.Extends (after.stores sent.2.peer).entries := by
  obtain ⟨made, since⟩ := inv.requests sent listed
  exact ⟨grows.made made, since.trans (grows.tables sent.2.peer)⟩

theorem NetworkInv.matched_grow (inv : NetworkInv peerId deviceId w) (grows : w.Grows after) :
    w.wire.Matched (Answered after) := inv.matched.mono grows.answered

theorem NetworkInv.held (inv : NetworkInv peerId deviceId w) {x : σ} {e : Entry}
    (made : ∃ made ∈ w.created, made.2.toRow = e.toRow) (held : (w.stores x).Holds e.entryId) :
    e.toRow ∈ (w.stores x).values := by
  obtain ⟨⟨origin, entry⟩, recorded, same⟩ := made
  obtain ⟨value, member, id⟩ := holds_iff_value.mp held
  have there : e.toRow ∈ (w.stores origin).values := by
    rw [← same]
    exact inv.mesh.origin ⟨origin, entry⟩ recorded
  rw [← inv.mesh.same_value (x := x) (y := origin) member there id]
  exact member

theorem NetworkInv.made_of_values (inv : NetworkInv peerId deviceId w) {x : σ} {entries : List Entry}
    (held : ∀ e ∈ entries, e.toRow ∈ (w.stores x).values) : w.Made entries :=
  fun e listed => inv.mesh.rows x e.toRow (held e listed)

theorem NetworkInv.send (inv : NetworkInv peerId deviceId w) {key : RequestKey} {peer : σ} {request : ServeRequest}
    (fresh : w.wire.Fresh key) (made : w.Made request.entries) :
    NetworkInv peerId deviceId (w.send key peer request) ∧ w.Grows (w.send key peer request) := by
  have grows : w.Grows (w.send key peer request) :=
    ⟨fun _ => .refl _, List.Subset.refl _, List.subset_cons_self _ _⟩
  refine ⟨inv.grow grows inv.mesh ?_ ?_ ?_ ?_ ?_, grows⟩
  · intro sent listed
    rcases List.mem_cons.mp listed with rfl | listed
    · exact ⟨made, .refl _⟩
    · exact inv.requests_grow grows sent listed
  · exact (inv.matched_grow grows).send fresh _
  · exact fun src dst => Or.inl rfl
  · exact fun src dst => Or.inl rfl
  · exact fun i client running => Or.inl running

theorem NetworkInv.reply (inv : NetworkInv peerId deviceId w) {key : RequestKey} {sent : SentRequest σ}
    {reply : ServeReply} (listed : (key, sent) ∈ w.wire.requests) (answer : Answered w sent reply) :
    NetworkInv peerId deviceId (w.reply key reply) := by
  have grows : w.Grows (w.reply key reply) := ⟨fun _ => .refl _, List.Subset.refl _, List.Subset.refl _⟩
  apply inv.grow grows inv.mesh (inv.requests_grow grows)
  · exact (inv.matched_grow grows).reply listed (grows.answered sent reply answer)
  · exact fun src dst => Or.inl rfl
  · exact fun src dst => Or.inl rfl
  · exact fun i client running => Or.inl running

variable [DecidableEq ι]

theorem grows_setClient (w : NetworkWorld σ ι) (i : ι) (client : Option (NetworkClient σ)) :
    w.Grows (w.setClient i client) := ⟨fun _ => .refl _, List.Subset.refl _, List.Subset.refl _⟩

theorem NetworkInv.setClient (inv : NetworkInv peerId deviceId w) (i : ι) (client : Option (NetworkClient σ))
    (fine : ∀ c, client = some c → ClientInv deviceId w c) : NetworkInv peerId deviceId (w.setClient i client) := by
  have grows := grows_setClient w i client
  apply inv.grow grows inv.mesh (inv.requests_grow grows) (inv.matched_grow grows)
  · exact fun src dst => Or.inl rfl
  · exact fun src dst => Or.inl rfl
  · intro j c running
    simp only [NetworkWorld.setClient] at running
    by_cases same : j = i
    · subst same
      rw [Function.update_self] at running
      exact Or.inr (grows.client (fine c running))
    · rw [Function.update_of_ne same] at running
      exact Or.inl running

theorem NetworkInv.setSome (inv : NetworkInv peerId deviceId w) (i : ι) {client : NetworkClient σ}
    (fine : ClientInv deviceId w client) : NetworkInv peerId deviceId (w.setClient i (some client)) :=
  inv.setClient i (some client) fun _ same => Option.some.inj same ▸ fine

variable [DecidableEq σ]

omit [DecidableEq ι]

theorem grows_setStore {x : σ} {store : LocalStore} (extends_ : (w.stores x).entries.Extends store.entries) :
    w.Grows (w.setStore x store) := by
  refine ⟨fun y => ?_, List.Subset.refl _, List.Subset.refl _⟩
  simp only [NetworkWorld.setStore]
  by_cases same : y = x
  · subst same
    rw [Function.update_self]
    exact extends_
  · rw [Function.update_of_ne same]
    exact .refl _

theorem setStore_self (x : σ) (store : LocalStore) : (w.setStore x store).stores x = store := by
  simp only [NetworkWorld.setStore, Function.update_self]

theorem setStore_other {x y : σ} (other : y ≠ x) (store : LocalStore) :
    (w.setStore x store).stores y = w.stores y := by
  simp only [NetworkWorld.setStore, Function.update_of_ne other]

theorem NetworkInv.setStore (inv : NetworkInv peerId deviceId w) (x : σ) {store : LocalStore}
    (extends_ : (w.stores x).entries.Extends store.entries)
    (known : ∀ value ∈ store.values, ∃ made ∈ w.created, made.2.toRow = value)
    (pulled : ∀ src, store.getLastCursor (peerId src) = (w.stores x).getLastCursor (peerId src) ∨
      CaughtUp (w.pull src x) (store.getLastCursor (peerId src)))
    (pushed : ∀ dst, store.getLastPushedSeq (peerId dst) = (w.stores x).getLastPushedSeq (peerId dst) ∨
      Delivered deviceId w x dst (store.getLastPushedSeq (peerId dst))) :
    NetworkInv peerId deviceId (w.setStore x store) := by
  have grows : w.Grows (w.setStore x store) := grows_setStore extends_
  apply inv.grow grows _ (inv.requests_grow grows) (inv.matched_grow grows)
  · intro src dst
    by_cases same : dst = x
    · subst same
      rw [setStore_self]
      exact (pulled src).imp_right grows.caughtUp
    · rw [setStore_other same]
      exact Or.inl rfl
  · intro src dst
    by_cases same : src = x
    · subst same
      rw [setStore_self]
      exact (pushed dst).imp_right grows.delivered
    · rw [setStore_other same]
      exact Or.inl rfl
  · exact fun i client running => Or.inl running
  · exact inv.mesh.setStore x (List.map_subset Numbered.val extends_.kept) known

theorem NetworkInv.insert (inv : NetworkInv peerId deviceId w) (x : σ) {entries : List Entry} (faults : TxFaults)
    (made : w.Made entries) :
    NetworkInv peerId deviceId (w.setStore x ((w.stores x).insertEntriesWithStats entries faults).2) := by
  apply inv.setStore x (insertEntriesWithStats_extends _ entries faults)
  · intro value member
    rcases values_insert member with old | ⟨e, listed, rfl⟩
    · exact inv.mesh.rows x value old
    · exact made e listed
  · intro src
    simp [getLastCursor, getLastCursorOpt]
  · intro dst
    simp [getLastPushedSeq, getLastPushedSeqOpt]

theorem getLastCursor_setLastCursor_ne {store : LocalStore} {key other : String} (different : other ≠ key)
    (cursor : Int) : (store.setLastCursor key cursor).getLastCursor other = store.getLastCursor other := by
  unfold getLastCursor getLastCursorOpt setLastCursor
  rw [AList.lookup_insert_ne different]

theorem NetworkInv.setCursor (keys : Function.Injective peerId) (inv : NetworkInv peerId deviceId w) (src dst : σ)
    {cursor : Int} (caught : CaughtUp (w.pull src dst) cursor) :
    NetworkInv peerId deviceId (w.setStore dst ((w.stores dst).setLastCursor (peerId src) cursor)) := by
  have kept : (w.stores dst).entries.Extends ((w.stores dst).setLastCursor (peerId src) cursor).entries := .refl _
  apply inv.setStore dst kept (inv.mesh.rows dst)
  · intro other
    by_cases same : other = src
    · subst same
      rw [getLastCursor_setLastCursor]
      exact Or.inr caught
    · exact Or.inl (getLastCursor_setLastCursor_ne (fun equal => same (keys equal)) cursor)
  · exact fun other => Or.inl rfl

theorem NetworkInv.setSeq (keys : Function.Injective peerId) (inv : NetworkInv peerId deviceId w) (src dst : σ)
    {seq : Int} (delivered : Delivered deviceId w src dst seq) :
    NetworkInv peerId deviceId (w.setStore src ((w.stores src).setLastPushedSeq (peerId dst) seq)) := by
  have kept : (w.stores src).entries.Extends ((w.stores src).setLastPushedSeq (peerId dst) seq).entries := .refl _
  apply inv.setStore src kept (inv.mesh.rows src)
  · exact fun other => Or.inl rfl
  · intro other
    rw [getLastPushedSeq_setLastPushedSeq]
    by_cases same : other = dst
    · subst same
      rw [if_pos rfl]
      exact Or.inr delivered
    · rw [if_neg fun equal => same (keys equal)]
      exact Or.inl rfl

theorem NetworkInv.recorded (inv : NetworkInv peerId deviceId w) {x : σ} {e : Entry} (faults : TxFaults)
    (fresh : ∀ made ∈ w.created, made.2.entryId ≠ e.entryId) (readable : e.toRow.Readable) :
    NetworkInv peerId deviceId (w.recorded x e faults) ∧ w.Grows (w.recorded x e faults) := by
  have mesh := inv.mesh.recorded (x := x) faults fresh readable
  have store : (w.recorded x e faults).stores =
      Function.update w.stores x ((w.stores x).insertEntriesWithStats [e] faults).2 := rfl
  have created : w.created ⊆ (w.recorded x e faults).created := by
    simp only [NetworkWorld.recorded, MeshWorld.recorded, NetworkWorld.mesh]
    split
    · exact List.subset_cons_self _ _
    · exact List.Subset.refl _
  have tables := @grows_setStore _ _ w _ x _ (insertEntriesWithStats_extends (w.stores x) [e] faults)
  have grows : w.Grows (w.recorded x e faults) := ⟨tables.tables, created, List.Subset.refl _⟩
  apply And.intro _ grows
  apply inv.grow grows mesh (inv.requests_grow grows) (inv.matched_grow grows)
  · intro src dst
    rw [store]
    by_cases same : dst = x
    · subst same
      simp [Function.update_self, getLastCursor, getLastCursorOpt]
    · rw [Function.update_of_ne same]
      exact Or.inl rfl
  · intro src dst
    rw [store]
    by_cases same : src = x
    · subst same
      simp [Function.update_self, getLastPushedSeq, getLastPushedSeqOpt]
    · rw [Function.update_of_ne same]
      exact Or.inl rfl
  · exact fun i client running => Or.inl running

/-- A reply says of the store of the peer, right after it was made, what `Answered` asks for. -/
theorem NetworkInv.serves (inv : NetworkInv peerId deviceId w) {key : RequestKey} {sent : SentRequest σ}
    {faults : TxFaults} {reply : ServeReply} {store : LocalStore} (listed : (key, sent) ∈ w.wire.requests)
    (served : serveFaulty (w.stores sent.peer) faults sent.request = .ok (reply, store)) :
    NetworkInv peerId deviceId (w.setStore sent.peer store) ∧ w.Grows (w.setStore sent.peer store) ∧
      Answered (w.setStore sent.peer store) sent reply := by
  obtain ⟨peer, request, atSend⟩ := sent
  obtain ⟨made, since⟩ := inv.requests _ listed
  cases request with
  | sync request =>
    simp only [serveFaulty] at served
    split at served
    · cases served
    rename_i response answer
    cases served
    have same : w.setStore peer (w.stores peer) = w := by simp [NetworkWorld.setStore]
    rw [same]
    have page := pullSinceCursor_of (serveSync_ok.mp answer)
    refine ⟨inv, .refl w, inv.made_of_values (x := peer) fun e member => ?_, _, since, .refl _, page⟩
    obtain ⟨row, read, value⟩ := page.entry_mem member
    rw [← value]
    exact mem_values.mpr ⟨row, (NumberedTable.mem_page read).1, rfl⟩
  | push request =>
    have stored : NetworkInv peerId deviceId
        (w.setStore peer ((w.stores peer).insertEntriesWithStats request.entries faults).2) :=
      inv.insert peer faults made
    have grows := @grows_setStore _ _ w _ peer _
      (insertEntriesWithStats_extends (w.stores peer) request.entries faults)
    simp only [serveFaulty] at served
    split at served
    · rename_i stats store' committed
      cases served
      rw [committed] at stored grows
      obtain ⟨rfl, rfl⟩ := insertEntriesWithStats_ok committed
      refine ⟨stored, grows, fun _ => ⟨fun row member => ?_, _, _, rfl, rfl, insertedStats_total _ _⟩⟩
      obtain ⟨e, pushed, rfl⟩ := List.mem_map.mp member
      apply stored.held (made e pushed)
      rw [setStore_self, inserted_holds]
      exact Or.inr ⟨e, pushed, rfl⟩
    · rename_i err store' failed
      cases served
      rw [failed] at stored grows
      exact ⟨stored, grows, fun ok => by cases ok⟩

variable [DecidableEq ι]

theorem NetworkStep.keeps (keys : Function.Injective peerId) {action : NetworkAction σ ι}
    (inv : NetworkInv peerId deviceId w) (step : NetworkStep peerId deviceId w action after) :
    NetworkInv peerId deviceId after ∧ w.Grows after := by
  cases step with
  | record x e faults fresh readable => exact inv.recorded faults fresh readable
  | new i device peer swarm policy free =>
    have fine : ClientInv deviceId w (.new device peer swarm policy) := .connecting rfl made_nil trivial
    exact ⟨inv.setSome i fine, grows_setClient w i _⟩
  | startPull i client limit lastCursor running rest positive read =>
    refine ⟨inv.setSome i (.connecting rfl ?_ ⟨.refl _, ?_⟩), grows_setClient w i _⟩
    · simp only [NetworkClient.entries, NetworkClient.startPull]
      cases state : PullState.start limit lastCursor with
      | inserting vars batch => exact absurd state PullState.start_inserting
      | pulling | advancing | returned => exact made_nil
    · unfold PullState.start
      rw [if_neg (limit_ne_zero positive)]
      split
      · exact trivial
      · rename_i cursor
        exact ⟨positive, by rw [read cursor rfl]; exact inv.pulled client.peer client.device⟩
  | startPush i client limit lastPushedSeq running rest positive read =>
    have started : ClientInv deviceId w (client.startPush limit lastPushedSeq) := by
      cases lastPushedSeq with
      | error err =>
        refine .connecting rfl ?_ ?_ <;>
          simp only [NetworkClient.entries, NetworkClient.startPush, PushState.start,
            if_neg (limit_ne_zero positive)]
        · exact made_nil
        · exact ⟨trivial, trivial⟩
      | ok seq =>
        refine .connecting rfl ?_ ?_ <;>
          simp only [NetworkClient.entries, NetworkClient.startPush, PushState.start_reading positive]
        · exact made_nil
        · refine ⟨⟨positive, ?_⟩, PushAckStats.counts_reset⟩
          rw [read seq rfl]
          exact inv.pushed client.device client.peer
    exact ⟨inv.setSome i started, grows_setClient w i _⟩
  | send i client attempt id behaviour request running free asked fresh =>
    have known := inv.clients i client running
    obtain ⟨sent, grows⟩ := @NetworkInv.send _ _ _ _ w inv _ client.peer request fresh (known.request_made asked)
    have kept := grows.client known
    refine ⟨sent.setSome i ⟨?_, kept.made, kept.session⟩, grows.trans (grows_setClient _ i _)⟩
    intro attempt id waiting
    cases waiting
    refine ⟨behaviour, request, _, asked, List.mem_cons_self, fun atStart state same => ?_⟩
    have session := known.session
    simp only at same
    rw [same] at session
    exact session.1
  | pullAttempt i client atStart vars attempt outcome running state ended =>
    exact ⟨inv.setSome i ((inv.clients i client running).afterPull inv.matched state ended), grows_setClient w i _⟩
  | insert i client atStart vars batch faults result store running state committed =>
    have known := inv.clients i client running
    have stored : store = ((w.stores client.device).insertEntriesWithStats batch.entries faults).2 := by
      rw [committed]
    have made := known.made
    simp only [NetworkClient.entries, state] at made
    have session := known.session
    rw [state] at session
    have grows : w.Grows (w.setStore client.device store) := by
      rw [stored]
      exact grows_setStore (insertEntriesWithStats_extends _ _ _)
    have kept : NetworkInv peerId deviceId (w.setStore client.device store) := by
      rw [stored]
      exact inv.insert client.device faults made
    have fine : ClientInv deviceId (w.setStore client.device store)
        { client with session := .pull atStart (.onInserted vars batch result) } := by
      refine (grows.client known).next (by simp only [NetworkClient.request, state]) _ ?_ ⟨?_, ?_⟩
      · simp only [NetworkClient.entries]
        cases next : PullState.onInserted vars batch result with
        | inserting vars again => exact absurd next PullState.onInserted_inserting
        | pulling | advancing | returned => exact made_nil
      · exact session.1.trans (grows.tables client.peer)
      · let arrived : PullWorld Unit := { w.pull client.peer client.device with localStore := store }
        have remote : arrived.remote.entries.Evolves
            ((w.setStore client.device store).pull client.peer client.device).remote.entries :=
          (grows.tables client.peer).toEvolves
        apply (session.2.onInserted committed).frame remote
        intro id held
        simp only [NetworkWorld.pull, setStore_self]
        exact held
    exact ⟨kept.setSome i fine, grows.trans (grows_setClient _ i _)⟩
  | setCursor i client atStart vars nextCursor running state =>
    have known := inv.clients i client running
    have session := known.session
    rw [state] at session
    obtain ⟨since, limit, caught⟩ := session
    have kept := inv.setCursor keys client.peer client.device caught
    have grows := @grows_setStore _ _ w _ client.device
      ((w.stores client.device).setLastCursor (peerId client.peer) nextCursor) (.refl _)
    have fine := (grows.client known).next (by simp only [NetworkClient.request, state])
      (.pull atStart (.onCursorSet vars nextCursor (.ok ()))) made_nil
      ⟨since.trans (grows.tables client.peer), limit, grows.caughtUp caught⟩
    exact ⟨kept.setSome i fine, grows.trans (grows_setClient _ i _)⟩
  | setCursorFails i client atStart vars nextCursor err running state =>
    have known := inv.clients i client running
    have session := known.session
    rw [state] at session
    have fine := known.next (by simp only [NetworkClient.request, state])
      (.pull atStart (.onCursorSet vars nextCursor (.error err))) made_nil ⟨session.1, trivial⟩
    exact ⟨inv.setSome i fine, grows_setClient w i _⟩
  | read i client vars result running state answer =>
    have known := inv.clients i client running
    have session := known.session
    rw [state] at session
    refine ⟨inv.setSome i (known.next (by simp only [NetworkClient.request, state]) _ ?_
      ⟨session.1.onRead answer, session.2.onRead result⟩), grows_setClient w i _⟩
    simp only [NetworkClient.entries]
    rcases PushState.onRead_cases vars result with ⟨err, next⟩ | ⟨batch, rfl, ⟨-, next⟩ | ⟨-, next⟩⟩
    · rw [next]
      exact made_nil
    · rw [next]
      exact made_nil
    · rw [next]
      apply inv.made_of_values (x := client.device)
      intro e member
      obtain ⟨row, read, value⟩ := (pullSinceCursorForDevice_of (answer batch rfl)).entry_mem member
      rw [← value]
      exact mem_values.mpr ⟨row, (NumberedTable.mem_page read).1, rfl⟩
  | pushAttempt i client vars batch attempt outcome stats running state ended =>
    exact ⟨inv.setSome i ((inv.clients i client running).afterPush inv.matched state ended), grows_setClient w i _⟩
  | setSeq i client vars running state =>
    have known := inv.clients i client running
    have session := known.session
    rw [state] at session
    obtain ⟨⟨limit, delivered⟩, counts⟩ := session
    have kept := inv.setSeq keys client.device client.peer delivered
    have grows := @grows_setStore _ _ w _ client.device
      ((w.stores client.device).setLastPushedSeq (peerId client.peer) vars.cursor) (.refl _)
    have fine := (grows.client known).next (by simp only [NetworkClient.request, state])
      (.push (.onSeqSet vars (.ok ()))) made_nil ⟨⟨limit, grows.delivered delivered⟩, counts⟩
    exact ⟨kept.setSome i fine, grows.trans (grows_setClient _ i _)⟩
  | setSeqFails i client vars err running state =>
    have known := inv.clients i client running
    have fine := known.next (by simp only [NetworkClient.request, state]) (.push (.onSeqSet vars (.error err)))
      made_nil ⟨trivial, trivial⟩
    exact ⟨inv.setSome i fine, grows_setClient w i _⟩
  | serve key sent faults reply store listed served =>
    obtain ⟨stored, grows, answer⟩ := inv.serves listed served
    have there : (key, sent) ∈ (w.setStore sent.peer store).wire.requests := listed
    exact ⟨stored.reply there answer, grows.tables, grows.created, grows.requests⟩
  | crash i =>
    refine ⟨inv.setClient i none ?_, grows_setClient w i _⟩
    intro client none
    cases none

end

end

end Rustory
