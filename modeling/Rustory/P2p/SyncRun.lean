import Rustory.P2p.Fallback
import Rustory.Sync.Pull

namespace Rustory

open Foundations LocalStore

structure SyncRunProgress where
  pullOk : Bool
  pushRequested : Bool
  pushNeeded : Bool
  pushOk : Bool
  deriving DecidableEq, Repr

namespace SyncRunProgress

def new (pushRequested : Bool) : SyncRunProgress := ⟨false, pushRequested, false, false⟩

def markPullOk (progress : SyncRunProgress) : SyncRunProgress := { progress with pullOk := true }

def notePushNeeded (progress : SyncRunProgress) (needed : Bool) : SyncRunProgress :=
  { progress with pushNeeded := progress.pushNeeded || needed }

def markPushOk (progress : SyncRunProgress) (needed : Bool) : SyncRunProgress :=
  if needed then { progress with pushOk := true } else progress

def isSuccess (progress : SyncRunProgress) : Bool :=
  progress.pullOk && (!progress.pushRequested || !progress.pushNeeded || progress.pushOk)

end SyncRunProgress

/-- What the calls for one peer return: `P2pClient::new`, the pull session, the count of pending
    entries and the push session. -/
structure PeerCalls where
  client : Except Error Unit
  pull : Except Error PullStats
  pending : Except Error Nat
  push : Except Error Nat

/-- The variables of the loop over the peers. -/
structure SyncVars where
  progress : SyncRunProgress
  lastErr : Option Error

/-! The body of the loop, which both transports share but for the client; `label` is how their errors
    begin. -/

def pullPeer (label peerKey : String) (calls : PeerCalls) (vars : SyncVars) : SyncVars :=
  match calls.pull with
  | .ok _ => { vars with progress := vars.progress.markPullOk }
  | .error err => { vars with lastErr := some (err.context (label ++ "pull peer: " ++ peerKey)) }

def pushPeer (label peerKey : String) (calls : PeerCalls) (vars : SyncVars) : SyncVars :=
  match calls.pending with
  | .error err => { vars with lastErr := some err }
  | .ok pendingPush =>
    let pushNeeded := decide (0 < pendingPush)
    let vars := { vars with progress := vars.progress.notePushNeeded pushNeeded }
    match calls.push with
    | .ok _ => { vars with progress := vars.progress.markPushOk pushNeeded }
    | .error err => { vars with lastErr := some (err.context (label ++ "push peer: " ++ peerKey)) }

def syncPeer (label : String) (push : Bool) (vars : SyncVars) (peer : String × PeerCalls) : SyncVars :=
  match peer.2.client with
  | .error err => { vars with lastErr := some err }
  | .ok () =>
    let vars := pullPeer label peer.1 peer.2 vars
    if push then pushPeer label peer.1 peer.2 vars else vars

/-- `last_err.unwrap_or_else(|| anyhow!("..."))` unless the run was a success. -/
def syncResult (failure : String) (vars : SyncVars) : Except Error Unit :=
  if vars.progress.isSuccess then .ok () else .error (vars.lastErr.getD (bail failure))

def syncPeers (label failure : String) (push : Bool) (peers : List (String × PeerCalls)) : Except Error Unit :=
  syncResult failure (peers.foldl (syncPeer label push) ⟨.new push, none⟩)

section

variable {PeerId : Type} (libs : P2pLibs PeerId)

/-- The targets of `sync_async`. -/
def syncTargets (trackers : TrackerCalls) (clock : Nat → OffsetDateTime) (store : LocalStore)
    (peers : List String) (cfg : SyncConfig PeerId) : Except Error (List (SyncTarget PeerId)) :=
  if !peers.isEmpty then
    (buildManualTargets libs store peers cfg.relayAddr clock).1
  else
    (discoverTargets libs trackers store cfg (clock 0)).1

/-- Each target with what its calls return, by its place. -/
def targetCalls (calls : Nat → PeerCalls) (targets : List (SyncTarget PeerId)) : List (String × PeerCalls) :=
  targets.zipIdx.map fun (t, index) => (t.peerKey, calls index)

def syncAsync (trackers : TrackerCalls) (clock : Nat → OffsetDateTime) (opened : Except Error LocalStore)
    (calls : Nat → PeerCalls) (peers : List String) (limit : UInt64) (cfg : SyncConfig PeerId) (push : Bool) :
    Except Error Unit :=
  if limit = 0 then
    .ok ()
  else do
    let store ← opened
    let targets ← syncTargets libs trackers clock store peers cfg
    if targets.isEmpty then
      .error (bail "no peers found")
    else if push && cfg.deviceId.isNone then
      .error (bail "device_id required for push")
    else
      syncPeers "p2p " "p2p sync failed" push (targetCalls calls targets)

end

/-- An HTTP peer needs no client. -/
def httpCalls (calls : Nat → PeerCalls) (peers : List String) : List (String × PeerCalls) :=
  peers.zipIdx.map fun (peer, index) => (peer, { calls index with client := .ok () })

/-- `transport::sync` -/
def httpSync (opened : Except Error LocalStore) (calls : Nat → PeerCalls) (peers : List String) (push : Bool)
    (localDeviceId : Option String) : Except Error Unit :=
  if peers.isEmpty then
    .error (bail "no peers provided")
  else if push && localDeviceId.isNone then
    .error (bail "local_device_id required for push")
  else do
    let _ ← opened
    syncPeers "" "http sync failed" push (httpCalls calls peers)

/-! What the loop finds out. -/

/-- The pull session of the peer completed. -/
def PeerCalls.pulled (calls : PeerCalls) : Bool := calls.client.isOk && calls.pull.isOk

/-- The peer was found to have entries to receive. -/
def PeerCalls.awaits (calls : PeerCalls) : Bool :=
  calls.client.isOk &&
    match calls.pending with
    | .ok pendingPush => decide (0 < pendingPush)
    | .error _ => false

/-- It received them. -/
def PeerCalls.pushed (calls : PeerCalls) : Bool := calls.awaits && calls.push.isOk

theorem pullPeer_progress (label peerKey : String) (calls : PeerCalls) (vars : SyncVars) :
    (pullPeer label peerKey calls vars).progress =
      { vars.progress with pullOk := vars.progress.pullOk || calls.pull.isOk } := by
  unfold pullPeer
  cases calls.pull with
  | ok _ => simp [SyncRunProgress.markPullOk, Except.isOk, Except.toBool]
  | error err => simp [Except.isOk, Except.toBool]

theorem pushPeer_progress (label peerKey : String) {calls : PeerCalls} (client : calls.client = .ok ())
    (vars : SyncVars) :
    (pushPeer label peerKey calls vars).progress =
      { vars.progress with
        pushNeeded := vars.progress.pushNeeded || calls.awaits
        pushOk := vars.progress.pushOk || calls.pushed } := by
  unfold pushPeer PeerCalls.pushed PeerCalls.awaits
  rw [client]
  cases calls.pending with
  | error err => simp
  | ok pendingPush =>
    cases calls.push with
    | error err => simp [SyncRunProgress.notePushNeeded, Except.isOk, Except.toBool]
    | ok _ =>
      by_cases needed : 0 < pendingPush
      · simp [SyncRunProgress.notePushNeeded, SyncRunProgress.markPushOk, needed, Except.isOk, Except.toBool]
      · simp [SyncRunProgress.notePushNeeded, SyncRunProgress.markPushOk, needed]

theorem syncPeer_progress (label : String) (push : Bool) (vars : SyncVars) (peer : String × PeerCalls) :
    (syncPeer label push vars peer).progress =
      ⟨vars.progress.pullOk || peer.2.pulled, vars.progress.pushRequested,
        vars.progress.pushNeeded || (push && peer.2.awaits), vars.progress.pushOk || (push && peer.2.pushed)⟩ := by
  unfold syncPeer
  cases client : peer.2.client with
  | error err => simp [PeerCalls.pulled, PeerCalls.awaits, PeerCalls.pushed, client, Except.isOk, Except.toBool]
  | ok _ =>
    have pulled : peer.2.pulled = peer.2.pull.isOk := by
      rw [PeerCalls.pulled, client]
      rfl
    cases push with
    | false => simp [pullPeer_progress, pulled]
    | true => simp [pushPeer_progress label peer.1 client, pullPeer_progress, pulled]

theorem syncPeers_progress (label : String) (push : Bool) (peers : List (String × PeerCalls)) (vars : SyncVars) :
    (peers.foldl (syncPeer label push) vars).progress =
      ⟨vars.progress.pullOk || peers.any fun peer => peer.2.pulled, vars.progress.pushRequested,
        vars.progress.pushNeeded || (push && peers.any fun peer => peer.2.awaits),
        vars.progress.pushOk || (push && peers.any fun peer => peer.2.pushed)⟩ := by
  induction peers generalizing vars with
  | nil => simp
  | cons peer rest ih =>
    rw [List.foldl_cons, ih, syncPeer_progress]
    simp [List.any_cons, Bool.or_assoc, Bool.and_or_distrib_left]

/-- Some peer's pull session completed, and so did the push session of a peer with entries to
    receive, if any peer was found to have some. -/
structure SyncedSome (push : Bool) (peers : List (String × PeerCalls)) : Prop where
  pulled : ∃ peer ∈ peers, peer.2.pulled = true
  pushed : push = true → (∃ peer ∈ peers, peer.2.awaits = true) → ∃ peer ∈ peers, peer.2.pushed = true

theorem flags_success (push pulled awaits pushed : Bool) :
    SyncRunProgress.isSuccess ⟨false || pulled, push, false || (push && awaits), false || (push && pushed)⟩ = true ↔
      pulled = true ∧ (push = true → awaits = true → pushed = true) := by
  revert push pulled awaits pushed
  decide

theorem syncPeers_ok_iff (label failure : String) (push : Bool) (peers : List (String × PeerCalls)) :
    syncPeers label failure push peers = .ok () ↔ SyncedSome push peers := by
  have success : syncPeers label failure push peers = .ok () ↔
      (peers.foldl (syncPeer label push) ⟨.new push, none⟩).progress.isSuccess = true := by
    unfold syncPeers syncResult
    split <;> simp_all
  have flags : (peers.foldl (syncPeer label push) ⟨.new push, none⟩).progress.isSuccess = true ↔
      (∃ peer ∈ peers, peer.2.pulled = true) ∧ (push = true →
        (∃ peer ∈ peers, peer.2.awaits = true) → ∃ peer ∈ peers, peer.2.pushed = true) := by
    rw [syncPeers_progress, ← List.any_eq_true, ← List.any_eq_true, ← List.any_eq_true]
    exact flags_success _ _ _ _
  rw [success, flags]
  constructor
  · intro ⟨pulled, pushed⟩
    exact ⟨pulled, pushed⟩
  · intro synced
    exact ⟨synced.pulled, synced.pushed⟩

section

variable {PeerId : Type} {libs : P2pLibs PeerId} {trackers : TrackerCalls} {clock : Nat → OffsetDateTime}
  {opened : Except Error LocalStore} {calls : Nat → PeerCalls} {peers : List String} {limit : UInt64}
  {cfg : SyncConfig PeerId} {push : Bool}

theorem syncAsync_ok (positive : 1 ≤ limit)
    (ok : syncAsync libs trackers clock opened calls peers limit cfg push = .ok ()) :
    ∃ store targets, opened = .ok store ∧ syncTargets libs trackers clock store peers cfg = .ok targets ∧
      SyncedSome push (targetCalls calls targets) := by
  unfold syncAsync at ok
  rw [if_neg (limit_ne_zero positive)] at ok
  obtain ⟨store, open_, ok⟩ := bind_ok.mp ok
  obtain ⟨targets, found, ok⟩ := bind_ok.mp ok
  refine ⟨store, targets, open_, found, ?_⟩
  split at ok
  · cases ok
  · split at ok
    · cases ok
    · exact (syncPeers_ok_iff _ _ push _).mp ok

theorem httpSync_ok {localDeviceId : Option String}
    (ok : httpSync opened calls peers push localDeviceId = .ok ()) : SyncedSome push (httpCalls calls peers) := by
  unfold httpSync at ok
  split at ok
  · cases ok
  · split at ok
    · cases ok
    · obtain ⟨-, -, ok⟩ := bind_ok.mp ok
      exact (syncPeers_ok_iff _ _ push _).mp ok

end

/-- A run that reports success has pulled from some peer, and if it found that some peer has entries
    to receive, a push session has taken a peer its entries. -/
theorem sync_ok_synced_some {PeerId : Type} (libs : P2pLibs PeerId) (trackers : TrackerCalls)
    (clock : Nat → OffsetDateTime) (opened : Except Error LocalStore) (calls : Nat → PeerCalls)
    (peers : List String) {limit : UInt64} (positive : 1 ≤ limit) (cfg : SyncConfig PeerId)
    (localDeviceId : Option String) :
    (syncAsync libs trackers clock opened calls peers limit cfg true = .ok () →
      ∃ store targets, opened = .ok store ∧ syncTargets libs trackers clock store peers cfg = .ok targets ∧
        SyncedSome true (targetCalls calls targets)) ∧
      (httpSync opened calls peers true localDeviceId = .ok () → SyncedSome true (httpCalls calls peers)) :=
  ⟨syncAsync_ok positive, httpSync_ok⟩

def uploadedCalls : PeerCalls := ⟨.ok (), .ok ⟨0, 0, 0⟩, .ok 2, .ok 2⟩

theorem sync_ok_synced_some_echo :
    ∃ targets, syncTargets echoLibs refusedCalls (fun _ => .atSecond 2) opened [remoteAddr] echoConfig =
        .ok targets ∧
      SyncedSome true (targetCalls (fun _ => uploadedCalls) targets) ∧
      SyncedSome true (httpCalls (fun _ => uploadedCalls) ["http://127.0.0.1:1"]) := by
  have p2p : syncAsync echoLibs refusedCalls (fun _ => .atSecond 2) (.ok opened) (fun _ => uploadedCalls)
      [remoteAddr] 1 echoConfig true = .ok () := by
    rfl
  have http : httpSync (.ok opened) (fun _ => uploadedCalls) ["http://127.0.0.1:1"] true (some "dev-local") =
      .ok () := rfl
  have first := (sync_ok_synced_some echoLibs refusedCalls (fun _ => .atSecond 2) (.ok opened)
    (fun _ => uploadedCalls) [remoteAddr] (by decide : (1 : UInt64) ≤ 1) echoConfig none).1 p2p
  have second := (sync_ok_synced_some echoLibs refusedCalls (fun _ => .atSecond 2) (.ok opened)
    (fun _ => uploadedCalls) ["http://127.0.0.1:1"] (by decide : (1 : UInt64) ≤ 1) echoConfig
    (some "dev-local")).2 http
  obtain ⟨store, targets, same, found, synced⟩ := first
  cases same
  exact ⟨targets, found, synced, second⟩

/-- The pull completes, nothing is pending, and the push fails. -/
def caughtUpCalls : PeerCalls := ⟨.ok (), .ok ⟨0, 0, 0⟩, .ok 0, .error (bail "connection reset")⟩

/-- With nothing to upload both report success after a push session that failed. -/
theorem sync_ok_without_push :
    (¬ ∀ (calls : Nat → PeerCalls) (peers : List String),
      syncAsync echoLibs refusedCalls (fun _ => .atSecond 2) (.ok opened) calls peers 1 echoConfig true = .ok () →
      (∃ index, (calls index).pull.isOk = true) ∧ ∃ index, (calls index).push.isOk = true) ∧
      ¬ ∀ (calls : Nat → PeerCalls) (peers : List String),
        httpSync (.ok opened) calls peers true (some "dev-local") = .ok () →
        (∃ index, (calls index).pull.isOk = true) ∧ ∃ index, (calls index).push.isOk = true := by
  constructor
  · intro pushed
    obtain ⟨-, _, ok⟩ := pushed (fun _ => caughtUpCalls) [remoteAddr] rfl
    cases ok
  · intro pushed
    obtain ⟨-, _, ok⟩ := pushed (fun _ => caughtUpCalls) ["http://127.0.0.1:1"] rfl
    cases ok

end Rustory
