import Rustory.Foundations.Exchange
import Rustory.P2p.Request
import Rustory.Sync.Convergence
import Rustory.Sync.Push

namespace Rustory

open Foundations LocalStore

/-! Devices that serve their stores and synchronise over `P2pClient`, with every request and
    every answer in between. -/

/-- The session a client runs; `atStart` is the table of the peer when a pull session began. -/
inductive ClientSession
  | idle
  | pull (atStart : EntriesTable) (state : PullState)
  | push (state : PushState)

/-- One `P2pClient` of `sync_async`, with the store it works on and the peer it was made for. -/
structure NetworkClient (σ : Type*) where
  device : σ
  peer : σ
  swarm : Nat
  policy : RequestRetryPolicy
  stats : PushAckStats
  session : ClientSession
  call : RequestCall

namespace NetworkClient

variable {σ : Type*}

/-- `P2pClient::new` -/
def new (device peer : σ) (swarm : Nat) (policy : RequestRetryPolicy) : NetworkClient σ :=
  ⟨device, peer, swarm, policy, .reset, .idle, .connecting 0⟩

/-- The request of the call that the session waits for. -/
def request (client : NetworkClient σ) : Option (Behaviour × ServeRequest) :=
  match client.session with
  | .pull _ (.pulling vars) => some (.sync, .sync ⟨vars.cursor, vars.batchLimit⟩)
  | .push (.pushing _ batch) => some (.push, .push ⟨batch.entries⟩)
  | _ => none

/-- No session is under way. -/
def AtRest (client : NetworkClient σ) : Prop :=
  match client.session with
  | .idle => True
  | .pull _ (.returned _) => True
  | .push (.returned _) => True
  | _ => False

def startPull (client : NetworkClient σ) (atStart : EntriesTable) (limit : UInt64)
    (lastCursor : Except Error Int) : NetworkClient σ :=
  { client with session := .pull atStart (.start limit lastCursor), call := .connecting 0 }

/-- `sync_async` resets the numbers of the client before each push session. -/
def startPush (client : NetworkClient σ) (limit : UInt64) (lastPushedSeq : Except Error Int) : NetworkClient σ :=
  { client with session := .push (.start limit lastPushedSeq), stats := .reset, call := .connecting 0 }

def afterPull (client : NetworkClient σ) (atStart : EntriesTable) (vars : PullVars) (attempt : Nat)
    (outcome : Except Error PullBatch) : NetworkClient σ :=
  match client.policy.after attempt outcome with
  | .again next => { client with call := .connecting next }
  | .returned result => { client with session := .pull atStart (.onReply vars result), call := .connecting 0 }

def afterPush (client : NetworkClient σ) (vars : PushVars) (batch : PullBatch) (attempt : Nat)
    (outcome : Except Error Unit) : NetworkClient σ :=
  match client.policy.after attempt outcome with
  | .again next => { client with call := .connecting next }
  | .returned result => { client with session := .push (.onPushed vars batch result), call := .connecting 0 }

end NetworkClient

structure RequestKey where
  swarm : Nat
  behaviour : Behaviour
  id : Nat
  deriving DecidableEq

/-- A request with the peer it goes to, and the table of that peer when it was sent. -/
structure SentRequest (σ : Type*) where
  peer : σ
  request : ServeRequest
  atSend : EntriesTable

structure NetworkWorld (σ ι : Type*) where
  stores : σ → LocalStore
  created : List (σ × Entry)
  clients : ι → Option (NetworkClient σ)
  wire : Wire RequestKey (SentRequest σ) ServeReply

inductive NetworkAction (σ ι : Type*)
  | record (store : σ)
  | pullBegins (client : ι) (src dst : σ)
  | pullEnds (client : ι) (src dst : σ)
  | pushBegins (client : ι) (src dst : σ)
  | pushEnds (client : ι) (src dst : σ)
  | progress
  deriving DecidableEq

/-- A session ends when it returns `Ok`. -/
def NetworkAction.ofClient {σ ι : Type*} (i : ι) (client : NetworkClient σ) : NetworkAction σ ι :=
  match client.session with
  | .pull _ (.returned (.ok _)) => .pullEnds i client.peer client.device
  | .push (.returned (.ok _)) => .pushEnds i client.device client.peer
  | _ => .progress

/-- `serve_async` on one request, with a transaction that may fail. -/
def serveFaulty (store : LocalStore) (faults : TxFaults) : ServeRequest → Except Error (ServeReply × LocalStore)
  | .sync request =>
    match serveSync store request with
    | .error err => .error err
    | .ok response => .ok (.sync response, store)
  | .push request =>
    match store.insertEntriesWithStats request.entries faults with
    | (.ok stats, store) => .ok (.push ⟨true, some stats.inserted, some stats.ignored⟩, store)
    | (.error _, store) => .ok (.push ⟨false, none, none⟩, store)

theorem serveFaulty_noFaults (store : LocalStore) (request : ServeRequest) :
    serveFaulty store noFaults request = serveRequest store request := by
  cases request with
  | sync request => rfl
  | push request => simp only [serveFaulty, serveRequest, servePush, insertEntriesWithStats_noFaults]

section

variable {σ ι : Type*}

/-- What the swarm of a client may report. A response is one that the peer has sent under that id; anything
    else may come at any time. -/
def NetworkWorld.Reports (w : NetworkWorld σ ι) (client : NetworkClient σ) : SwarmEvent → Prop
  | .sync (.response id response) => (⟨client.swarm, .sync, id⟩, .sync response) ∈ w.wire.replies
  | .push (.response id response) => (⟨client.swarm, .push, id⟩, .push response) ∈ w.wire.replies
  | _ => True

/-- How an attempt of `pull_batch_once` can end. -/
inductive PullAttempt (w : NetworkWorld σ ι) (client : NetworkClient σ) (attempt : Nat) :
    Except Error PullBatch → Prop
  | connect (err : Error) : client.call = .connecting attempt → PullAttempt w client attempt (.error err)
  | event (id : Nat) (event : SwarmEvent) (outcome : Except Error PullBatch) :
      client.call = .waiting attempt id → w.Reports client event → pullEvent id event = some outcome →
      PullAttempt w client attempt outcome
  | deadline (id : Nat) (timeout : String) :
      client.call = .waiting attempt id → PullAttempt w client attempt (.error (requestTimeout timeout))

/-- How an attempt of `push_batch_once` can end, with the numbers that the client then has. -/
inductive PushAttempt (w : NetworkWorld σ ι) (client : NetworkClient σ) (attempt : Nat) :
    Except Error Unit → PushAckStats → Prop
  | connect (err : Error) :
      client.call = .connecting attempt → PushAttempt w client attempt (.error err) client.stats
  | event (id : Nat) (event : SwarmEvent) (outcome : Except Error Unit) (stats : PushAckStats) :
      client.call = .waiting attempt id → w.Reports client event →
      pushEvent id client.stats event = (some outcome, stats) → PushAttempt w client attempt outcome stats
  | deadline (id : Nat) (timeout : String) :
      client.call = .waiting attempt id →
      PushAttempt w client attempt (.error (requestTimeout timeout)) client.stats

def NetworkWorld.send (w : NetworkWorld σ ι) (key : RequestKey) (peer : σ) (request : ServeRequest) :
    NetworkWorld σ ι :=
  { w with wire := w.wire.send key ⟨peer, request, (w.stores peer).entries⟩ }

def NetworkWorld.reply (w : NetworkWorld σ ι) (key : RequestKey) (reply : ServeReply) : NetworkWorld σ ι :=
  { w with wire := w.wire.reply key reply }

/-- The stores with what was recorded in them. -/
def NetworkWorld.mesh (w : NetworkWorld σ ι) : MeshWorld σ Unit := ⟨w.stores, w.created, fun _ => none⟩

variable [DecidableEq σ] [DecidableEq ι]

def NetworkWorld.setClient (w : NetworkWorld σ ι) (i : ι) (client : Option (NetworkClient σ)) :
    NetworkWorld σ ι :=
  { w with clients := Function.update w.clients i client }

def NetworkWorld.setStore (w : NetworkWorld σ ι) (x : σ) (store : LocalStore) : NetworkWorld σ ι :=
  { w with stores := Function.update w.stores x store }

def NetworkWorld.recorded (w : NetworkWorld σ ι) (x : σ) (e : Entry) (faults : TxFaults) : NetworkWorld σ ι :=
  let mesh := w.mesh.recorded x e faults
  { w with stores := mesh.stores, created := mesh.created }

/-- Single steps. `peerId` is the id under which a device is known, `deviceId` the one in its configuration.
    A request that was sent may reach its peer at any time and any number of times. -/
inductive NetworkStep (peerId deviceId : σ → String) :
    NetworkWorld σ ι → NetworkAction σ ι → NetworkWorld σ ι → Prop
  | record (w : NetworkWorld σ ι) (x : σ) (e : Entry) (faults : TxFaults) :
      (∀ made ∈ w.created, made.2.entryId ≠ e.entryId) → e.toRow.Readable →
      NetworkStep peerId deviceId w (.record x) (w.recorded x e faults)
  | new (w : NetworkWorld σ ι) (i : ι) (device peer : σ) (swarm : Nat) (policy : RequestRetryPolicy) :
      w.clients i = none →
      NetworkStep peerId deviceId w .progress (w.setClient i (some (.new device peer swarm policy)))
  | startPull (w : NetworkWorld σ ι) (i : ι) (client : NetworkClient σ) (limit : UInt64)
      (lastCursor : Except Error Int) :
      w.clients i = some client → client.AtRest → 1 ≤ limit →
      (∀ cursor, lastCursor = .ok cursor → cursor = (w.stores client.device).getLastCursor (peerId client.peer)) →
      NetworkStep peerId deviceId w (.pullBegins i client.peer client.device)
        (w.setClient i (some (client.startPull (w.stores client.peer).entries limit lastCursor)))
  | startPush (w : NetworkWorld σ ι) (i : ι) (client : NetworkClient σ) (limit : UInt64)
      (lastPushedSeq : Except Error Int) :
      w.clients i = some client → client.AtRest → 1 ≤ limit →
      (∀ seq, lastPushedSeq = .ok seq → seq = (w.stores client.device).getLastPushedSeq (peerId client.peer)) →
      NetworkStep peerId deviceId w (.pushBegins i client.device client.peer)
        (w.setClient i (some (client.startPush limit lastPushedSeq)))
  | send (w : NetworkWorld σ ι) (i : ι) (client : NetworkClient σ) (attempt id : Nat) (behaviour : Behaviour)
      (request : ServeRequest) :
      w.clients i = some client → client.call = .connecting attempt →
      client.request = some (behaviour, request) → w.wire.Fresh ⟨client.swarm, behaviour, id⟩ →
      NetworkStep peerId deviceId w .progress
        ((w.send ⟨client.swarm, behaviour, id⟩ client.peer request).setClient i
          (some { client with call := .waiting attempt id }))
  | pullAttempt (w : NetworkWorld σ ι) (i : ι) (client : NetworkClient σ) (atStart : EntriesTable)
      (vars : PullVars) (attempt : Nat) (outcome : Except Error PullBatch) :
      w.clients i = some client → client.session = .pull atStart (.pulling vars) →
      PullAttempt w client attempt outcome →
      NetworkStep peerId deviceId w (.ofClient i (client.afterPull atStart vars attempt outcome))
        (w.setClient i (some (client.afterPull atStart vars attempt outcome)))
  | insert (w : NetworkWorld σ ι) (i : ι) (client : NetworkClient σ) (atStart : EntriesTable) (vars : PullVars)
      (batch : PullBatch) (faults : TxFaults) (result : Except Error InsertStats) (store : LocalStore) :
      w.clients i = some client → client.session = .pull atStart (.inserting vars batch) →
      (w.stores client.device).insertEntriesWithStats batch.entries faults = (result, store) →
      NetworkStep peerId deviceId w .progress
        ((w.setStore client.device store).setClient i
          (some { client with session := .pull atStart (.onInserted vars batch result) }))
  | setCursor (w : NetworkWorld σ ι) (i : ι) (client : NetworkClient σ) (atStart : EntriesTable)
      (vars : PullVars) (nextCursor : Int) :
      w.clients i = some client → client.session = .pull atStart (.advancing vars nextCursor) →
      NetworkStep peerId deviceId w .progress
        ((w.setStore client.device
            ((w.stores client.device).setLastCursor (peerId client.peer) nextCursor)).setClient i
          (some { client with session := .pull atStart (.onCursorSet vars nextCursor (.ok ())) }))
  | setCursorFails (w : NetworkWorld σ ι) (i : ι) (client : NetworkClient σ) (atStart : EntriesTable)
      (vars : PullVars) (nextCursor : Int) (err : Error) :
      w.clients i = some client → client.session = .pull atStart (.advancing vars nextCursor) →
      NetworkStep peerId deviceId w .progress
        (w.setClient i (some { client with session := .pull atStart (.onCursorSet vars nextCursor (.error err)) }))
  | read (w : NetworkWorld σ ι) (i : ι) (client : NetworkClient σ) (vars : PushVars)
      (result : Except Error PullBatch) :
      w.clients i = some client → client.session = .push (.reading vars) →
      (∀ batch, result = .ok batch → readPushBatch (w.stores client.device) (some (deviceId client.device))
        vars.cursor vars.batchLimit = .ok batch) →
      NetworkStep peerId deviceId w (.ofClient i { client with session := .push (.onRead vars result) })
        (w.setClient i (some { client with session := .push (.onRead vars result) }))
  | pushAttempt (w : NetworkWorld σ ι) (i : ι) (client : NetworkClient σ) (vars : PushVars) (batch : PullBatch)
      (attempt : Nat) (outcome : Except Error Unit) (stats : PushAckStats) :
      w.clients i = some client → client.session = .push (.pushing vars batch) →
      PushAttempt w client attempt outcome stats →
      NetworkStep peerId deviceId w .progress
        (w.setClient i (some ({ client with stats := stats }.afterPush vars batch attempt outcome)))
  | setSeq (w : NetworkWorld σ ι) (i : ι) (client : NetworkClient σ) (vars : PushVars) :
      w.clients i = some client → client.session = .push (.advancing vars) →
      NetworkStep peerId deviceId w .progress
        ((w.setStore client.device
            ((w.stores client.device).setLastPushedSeq (peerId client.peer) vars.cursor)).setClient i
          (some { client with session := .push (.onSeqSet vars (.ok ())) }))
  | setSeqFails (w : NetworkWorld σ ι) (i : ι) (client : NetworkClient σ) (vars : PushVars) (err : Error) :
      w.clients i = some client → client.session = .push (.advancing vars) →
      NetworkStep peerId deviceId w .progress
        (w.setClient i (some { client with session := .push (.onSeqSet vars (.error err)) }))
  | serve (w : NetworkWorld σ ι) (key : RequestKey) (sent : SentRequest σ) (faults : TxFaults)
      (reply : ServeReply) (store : LocalStore) :
      (key, sent) ∈ w.wire.requests → serveFaulty (w.stores sent.peer) faults sent.request = .ok (reply, store) →
      NetworkStep peerId deviceId w .progress ((w.setStore sent.peer store).reply key reply)
  | crash (w : NetworkWorld σ ι) (i : ι) : NetworkStep peerId deviceId w .progress (w.setClient i none)

end

end Rustory
