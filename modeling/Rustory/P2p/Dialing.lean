import Rustory.Foundations.Attempts
import Rustory.P2p.Discovery
import Rustory.P2p.Request
import Rustory.P2p.Timeouts

namespace Rustory

open Foundations

/-! `P2pClient` at its swarm. -/

/-- `SwarmEvent`, as far as the loops of the client look into it. -/
inductive ClientEvent (PeerId : Type)
  | connectionEstablished (peerId : PeerId)
  | connectionClosed (peerId : PeerId) (numEstablished : Nat)
  | outgoingConnectionError (connectionId : Nat) (peerId : Option PeerId) (error : String)
  | swarm (event : SwarmEvent)

/-- What comes next while the client waits: an event, or the end of the wait. -/
inductive Happening (PeerId : Type)
  | event (event : ClientEvent PeerId)
  | elapsed

/-- A request as the client sends it, with what `is_connected` would have said. -/
structure SentBy where
  behaviour : Behaviour
  requestId : Nat
  request : ServeRequest
  connected : Bool

inductive ClientAct (PeerId : Type)
  | dial (connectionId : Nat) (addrs : List (Multiaddr PeerId))
  | timer (duration : Duration)
  | sleep (duration : Duration)
  | disconnect
  | send (sent : SentBy)

/-- `libp2p`, and how a duration is printed. -/
structure SwarmLibs where
  /-- What `Swarm::dial` returns at once for a connection id. -/
  dial : Nat → Except Error Unit
  durationText : Duration → String

structure ClientState (PeerId : Type) where
  stats : PushAckStats
  /-- `Swarm::is_connected` -/
  connected : PeerId → Bool
  nextConnection : Nat
  nextRequest : Behaviour → Nat
  coming : List (Happening PeerId)
  acts : List (ClientAct PeerId)

structure P2pClient (PeerId : Type) where
  peerId : PeerId
  directAddrs : List (Multiaddr PeerId)
  relayAddr : Option (Multiaddr PeerId)
  policy : TimedRetryPolicy

def directBaseTimeout : Duration := .fromSecs 3
def relayBaseTimeout : Duration := .fromSecs 10
def relayTimeoutCap : Duration := .fromSecs 30
def dialAttempts : Nat := 3
def dialBackoffBase : Duration := .fromMillis 200

section

variable {PeerId : Type}

/-- What the loops of the requests see of it. -/
def ClientEvent.request : ClientEvent PeerId → SwarmEvent
  | .swarm event => event
  | _ => .other

namespace ClientState

def act (s : ClientState PeerId) (act : ClientAct PeerId) : ClientState PeerId := { s with acts := s.acts ++ [act] }

/-- `Swarm::dial`, which gives each connection an id. -/
def dial (s : ClientState PeerId) (addrs : List (Multiaddr PeerId)) : ClientState PeerId :=
  { s with nextConnection := s.nextConnection + 1, acts := s.acts ++ [.dial s.nextConnection addrs] }

/-- `send_request`; each behaviour numbers its requests. -/
def send (s : ClientState PeerId) (behaviour : Behaviour) (request : ServeRequest) (connected : Bool) :
    ClientState PeerId :=
  { s with
    nextRequest := Function.update s.nextRequest behaviour (s.nextRequest behaviour + 1)
    acts := s.acts ++ [.send ⟨behaviour, s.nextRequest behaviour, request, connected⟩] }

end ClientState

end

section

variable {PeerId : Type} [DecidableEq PeerId]

/-- The swarm counts its connections as it reports them. -/
def ClientEvent.notes (connected : PeerId → Bool) : ClientEvent PeerId → PeerId → Bool
  | .connectionEstablished peerId => Function.update connected peerId true
  | .connectionClosed peerId numEstablished =>
    Function.update connected peerId (connected peerId && decide (numEstablished ≠ 0))
  | _ => connected

namespace ClientState

/-- `select_next_some` again and again, until an event ends the loop or the time is up. -/
def await {α : Type} (handle : PushAckStats → ClientEvent PeerId → Option α × PushAckStats) :
    List (Happening PeerId) → ClientState PeerId → Option α × ClientState PeerId
  | [], s => (none, { s with coming := [] })
  | .elapsed :: coming, s => (none, { s with coming := coming })
  | .event event :: coming, s =>
    let (outcome, stats) := handle s.stats event
    let s := { s with stats := stats, connected := event.notes s.connected, coming := coming }
    match outcome with
    | some outcome => (some outcome, s)
    | none => await handle coming s

end ClientState

/-- The loop of `dial_once` at one event. -/
def dialEvent (peerId : PeerId) (connectionId : Nat) : ClientEvent PeerId → Option (Except Error Unit)
  | .connectionEstablished other => if other = peerId then some (.ok ()) else none
  | .outgoingConnectionError got other error =>
    if got = connectionId && other.all (· = peerId) then some (.error (bail ("dial failed: " ++ error))) else none
  | _ => none

namespace P2pClient

variable (libs : SwarmLibs) (client : P2pClient PeerId)

def dialOnce (addrs : List (Multiaddr PeerId)) (timeout : Duration) (s : ClientState PeerId) :
    Except Error Unit × ClientState PeerId :=
  if s.connected client.peerId then
    (.ok (), s)
  else
    let connectionId := s.nextConnection
    let s := s.dial addrs
    match libs.dial connectionId with
    | .error err => (.error (Error.context err "dial"), s)
    | .ok () =>
      match ClientState.await (fun stats event => (dialEvent client.peerId connectionId event, stats)) s.coming
        (s.act (.timer timeout)) with
      | (some outcome, s) => (outcome, s)
      | (none, s) => (.error (bail ("dial timeout after " ++ libs.durationText timeout)), s.act .disconnect)

/-- The loop of `dial_with_retries`, with `left` turns to go. -/
def dialLoop (addrs : List (Multiaddr PeerId)) (baseTimeout : Duration) (timeoutCap : Option Duration) :
    Nat → Nat → Option Error → ClientState PeerId → Except Error Unit × ClientState PeerId
  | 0, _, lastErr, s => (.error (lastErr.getD (bail "dial failed")), s)
  | left + 1, attempt, _, s =>
    match client.dialOnce libs addrs (expDuration baseTimeout (.ofNat attempt) timeoutCap) s with
    | (.ok (), s) => (.ok (), s)
    | (.error err, s) =>
      if attempt + 1 < dialAttempts then
        dialLoop addrs baseTimeout timeoutCap left (attempt + 1) (some err)
          (s.act (.sleep (expDuration dialBackoffBase (.ofNat attempt) none)))
      else
        dialLoop addrs baseTimeout timeoutCap left (attempt + 1) (some err) s

def dialWithRetries (addrs : List (Multiaddr PeerId)) (baseTimeout : Duration) (timeoutCap : Option Duration)
    (s : ClientState PeerId) : Except Error Unit × ClientState PeerId :=
  client.dialLoop libs addrs baseTimeout timeoutCap dialAttempts 0 none s

/-- What follows the direct addresses. -/
def dialRelay (s : ClientState PeerId) : Except Error Unit × ClientState PeerId :=
  match client.relayAddr with
  | some relayAddr =>
    client.dialWithRetries libs [relayAddr ++ [.p2pCircuit]] relayBaseTimeout (some relayTimeoutCap) s
  | none => (.error (bail "dial failed: no relay addr and direct dial failed"), s)

def ensureConnected (s : ClientState PeerId) : Except Error Unit × ClientState PeerId :=
  if s.connected client.peerId then
    (.ok (), s)
  else if client.directAddrs.isEmpty then
    client.dialRelay libs s
  else
    match client.dialWithRetries libs client.directAddrs directBaseTimeout none s with
    | (.ok (), s) => (.ok (), s)
    | (.error _, s) => client.dialRelay libs s

end P2pClient

end

section

variable {PeerId : Type}

/-! What the client has done. -/

def ClientAct.dialled : ClientAct PeerId → Option (List (Multiaddr PeerId))
  | .dial _ addrs => some addrs
  | _ => none

def ClientAct.sent : ClientAct PeerId → Option SentBy
  | .send sent => some sent
  | _ => none

/-- A timer counts as if it ran to its end. -/
def ClientAct.waits : ClientAct PeerId → Nat
  | .timer duration => duration.nanos
  | .sleep duration => duration.nanos
  | _ => 0

namespace ClientState

def dialled (s : ClientState PeerId) : List (List (Multiaddr PeerId)) := s.acts.filterMap ClientAct.dialled

def sent (s : ClientState PeerId) : List SentBy := s.acts.filterMap ClientAct.sent

def waited (s : ClientState PeerId) : Nat := (s.acts.map ClientAct.waits).sum

@[simp]
theorem act_connected (s : ClientState PeerId) (a : ClientAct PeerId) : (s.act a).connected = s.connected := rfl

@[simp]
theorem act_nextRequest (s : ClientState PeerId) (a : ClientAct PeerId) : (s.act a).nextRequest = s.nextRequest := rfl

@[simp]
theorem act_coming (s : ClientState PeerId) (a : ClientAct PeerId) : (s.act a).coming = s.coming := rfl

@[simp]
theorem act_dialled (s : ClientState PeerId) (a : ClientAct PeerId) :
    (s.act a).dialled = s.dialled ++ a.dialled.toList := by
  simp only [dialled, act, List.filterMap_append]
  cases h : a.dialled <;> simp [h]

@[simp]
theorem act_sent (s : ClientState PeerId) (a : ClientAct PeerId) : (s.act a).sent = s.sent ++ a.sent.toList := by
  simp only [sent, act, List.filterMap_append]
  cases h : a.sent <;> simp [h]

@[simp]
theorem act_waited (s : ClientState PeerId) (a : ClientAct PeerId) : (s.act a).waited = s.waited + a.waits := by
  simp [waited, act]

@[simp]
theorem dial_connected (s : ClientState PeerId) (addrs : List (Multiaddr PeerId)) :
    (s.dial addrs).connected = s.connected := rfl

@[simp]
theorem dial_nextRequest (s : ClientState PeerId) (addrs : List (Multiaddr PeerId)) :
    (s.dial addrs).nextRequest = s.nextRequest := rfl

@[simp]
theorem dial_coming (s : ClientState PeerId) (addrs : List (Multiaddr PeerId)) :
    (s.dial addrs).coming = s.coming := rfl

@[simp]
theorem dial_dialled (s : ClientState PeerId) (addrs : List (Multiaddr PeerId)) :
    (s.dial addrs).dialled = s.dialled ++ [addrs] := by
  simp [dialled, dial, ClientAct.dialled]

@[simp]
theorem dial_sent (s : ClientState PeerId) (addrs : List (Multiaddr PeerId)) : (s.dial addrs).sent = s.sent := by
  simp [sent, dial, ClientAct.sent]

@[simp]
theorem dial_waited (s : ClientState PeerId) (addrs : List (Multiaddr PeerId)) :
    (s.dial addrs).waited = s.waited := by
  simp [waited, dial, ClientAct.waits]

variable (s : ClientState PeerId) (behaviour : Behaviour) (request : ServeRequest) (connected : Bool)

@[simp]
theorem send_coming : (s.send behaviour request connected).coming = s.coming := rfl

@[simp]
theorem send_nextRequest : (s.send behaviour request connected).nextRequest =
    Function.update s.nextRequest behaviour (s.nextRequest behaviour + 1) := rfl

@[simp]
theorem send_sent : (s.send behaviour request connected).sent =
    s.sent ++ [⟨behaviour, s.nextRequest behaviour, request, connected⟩] := by
  simp [sent, send, ClientAct.sent]

@[simp]
theorem send_waited : (s.send behaviour request connected).waited = s.waited := by
  simp [waited, send, ClientAct.waits]

end ClientState

/-- A wait does nothing and sends nothing. -/
structure ClientState.Quiet (s next : ClientState PeerId) : Prop where
  acts : next.acts = s.acts
  nextRequest : next.nextRequest = s.nextRequest

end

section

variable {PeerId : Type} [DecidableEq PeerId]

theorem await_quiet {α : Type} (handle : PushAckStats → ClientEvent PeerId → Option α × PushAckStats)
    (coming : List (Happening PeerId)) (s : ClientState PeerId) :
    s.Quiet (ClientState.await handle coming s).2 ∧ (ClientState.await handle coming s).2.coming <:+ coming := by
  induction coming generalizing s with
  | nil => exact ⟨⟨rfl, rfl⟩, List.suffix_rfl⟩
  | cons happening coming ih =>
    cases happening with
    | elapsed => exact ⟨⟨rfl, rfl⟩, List.suffix_cons _ _⟩
    | event event =>
      rw [ClientState.await]
      dsimp only
      split
      · exact ⟨⟨rfl, rfl⟩, List.suffix_cons _ _⟩
      · obtain ⟨quiet, suffix⟩ := ih { s with
          stats := (handle s.stats event).2
          connected := event.notes s.connected
          coming := coming }
        exact ⟨⟨quiet.acts, quiet.nextRequest⟩, suffix.trans (List.suffix_cons _ _)⟩

theorem await_some {α : Type} {handle : PushAckStats → ClientEvent PeerId → Option α × PushAckStats}
    {coming : List (Happening PeerId)} {s : ClientState PeerId} {outcome : α}
    (ended : (ClientState.await handle coming s).1 = some outcome) :
    ∃ event stats, .event event ∈ coming ∧ (handle stats event).1 = some outcome := by
  induction coming generalizing s with
  | nil => cases ended
  | cons happening coming ih =>
    cases happening with
    | elapsed => cases ended
    | event event =>
      rw [ClientState.await] at ended
      dsimp only at ended
      split at ended
      · rename_i here
        exact ⟨event, s.stats, List.mem_cons_self, here.trans ended⟩
      · obtain ⟨later, stats, listed, same⟩ := ih ended
        exact ⟨later, stats, List.mem_cons_of_mem _ listed, same⟩

/-- While a peer is dialled, the first connection to it ends the wait. -/
theorem await_dial (peerId : PeerId) (connectionId : Nat) (coming : List (Happening PeerId)) {s : ClientState PeerId}
    (apart : s.connected peerId = false) :
    (ClientState.await (fun stats event => (dialEvent peerId connectionId event, stats)) coming s).2.connected
      peerId = ((ClientState.await (fun stats event => (dialEvent peerId connectionId event, stats)) coming s).1.any
        Except.isOk) := by
  induction coming generalizing s with
  | nil => exact apart
  | cons happening coming ih =>
    cases happening with
    | elapsed => exact apart
    | event event =>
      rw [ClientState.await]
      cases event with
      | connectionEstablished other =>
        by_cases own : other = peerId
        · simp [dialEvent, ClientEvent.notes, own, Except.isOk, Except.toBool]
        · have still : Function.update s.connected other true peerId = false := by
            rw [Function.update_of_ne (Ne.symm own)]
            exact apart
          simpa [dialEvent, ClientEvent.notes, own] using ih still
      | connectionClosed other numEstablished =>
        have still : Function.update s.connected other (s.connected other && decide (numEstablished ≠ 0)) peerId =
            false := by
          by_cases own : peerId = other
          · rw [← own, Function.update_self, apart]
            rfl
          · rw [Function.update_of_ne own]
            exact apart
        exact ih still
      | outgoingConnectionError got other error =>
        by_cases own : (got = connectionId && other.all (· = peerId)) = true
        · simp [dialEvent, ClientEvent.notes, own, apart, Except.isOk, Except.toBool]
        · simp only [dialEvent, own, Bool.false_eq_true, if_false]
          exact ih apart
      | swarm event => exact ih apart

/-! `dial_once` and the loop over it. -/

/-- The client has dialled these addresses, and is then connected or not. -/
structure Dialled (peerId : PeerId) (tried : List (List (Multiaddr PeerId))) (connected : Bool)
    (s next : ClientState PeerId) : Prop where
  connected : next.connected peerId = connected
  dialled : next.dialled = s.dialled ++ tried
  sent : next.sent = s.sent
  nextRequest : next.nextRequest = s.nextRequest
  coming : next.coming <:+ s.coming

section

variable {peerId : PeerId} {s middle next : ClientState PeerId}

omit [DecidableEq PeerId]

theorem Dialled.trans {first second : List (List (Multiaddr PeerId))} {earlier later : Bool}
    (before : Dialled peerId first earlier s middle) (after : Dialled peerId second later middle next) :
    Dialled peerId (first ++ second) later s next where
  connected := after.connected
  dialled := by rw [after.dialled, before.dialled, List.append_assoc]
  sent := after.sent.trans before.sent
  nextRequest := after.nextRequest.trans before.nextRequest
  coming := after.coming.trans before.coming

theorem ClientState.Quiet.dialled (quiet : s.Quiet next) : next.dialled = s.dialled :=
  congrArg (List.filterMap ClientAct.dialled) quiet.acts

theorem ClientState.Quiet.sent (quiet : s.Quiet next) : next.sent = s.sent :=
  congrArg (List.filterMap ClientAct.sent) quiet.acts

theorem ClientState.Quiet.waited (quiet : s.Quiet next) : next.waited = s.waited :=
  congrArg (fun acts => (acts.map ClientAct.waits).sum) quiet.acts

theorem Dialled.refl (peerId : PeerId) (s : ClientState PeerId) : Dialled peerId [] (s.connected peerId) s s :=
  ⟨rfl, (List.append_nil _).symm, rfl, rfl, List.suffix_rfl⟩

/-- A sleep and a disconnect are neither seen nor heard. -/
theorem Dialled.act {tried : List (List (Multiaddr PeerId))} {connected : Bool}
    (before : Dialled peerId tried connected s next) {a : ClientAct PeerId} (quiet : a.dialled = none)
    (silent : a.sent = none) : Dialled peerId tried connected s (next.act a) where
  connected := before.connected
  dialled := by
    rw [ClientState.act_dialled, quiet, before.dialled]
    exact List.append_nil _
  sent := by
    rw [ClientState.act_sent, silent, before.sent]
    exact List.append_nil _
  nextRequest := before.nextRequest
  coming := before.coming

end

namespace P2pClient

variable (libs : SwarmLibs) (client : P2pClient PeerId)

theorem dialOnce_dialled (addrs : List (Multiaddr PeerId)) (timeout : Duration) (s : ClientState PeerId) :
    Dialled client.peerId (if s.connected client.peerId then [] else [addrs])
      (client.dialOnce libs addrs timeout s).1.isOk s (client.dialOnce libs addrs timeout s).2 := by
  unfold dialOnce
  by_cases connected : s.connected client.peerId = true
  · rw [if_pos connected, if_pos connected]
    exact ⟨connected, (List.append_nil _).symm, rfl, rfl, List.suffix_rfl⟩
  · have apart : s.connected client.peerId = false := eq_false_of_ne_true connected
    rw [if_neg connected, if_neg connected]
    dsimp only
    split
    · exact ⟨apart, s.dial_dialled addrs, s.dial_sent addrs, rfl, List.suffix_rfl⟩
    · have ends := await_dial client.peerId s.nextConnection s.coming
        (show ((s.dial addrs).act (.timer timeout)).connected client.peerId = false from apart)
      obtain ⟨quiet, suffix⟩ := await_quiet (fun stats event => (dialEvent client.peerId s.nextConnection event,
        stats)) s.coming ((s.dial addrs).act (.timer timeout))
      have tried : ((s.dial addrs).act (.timer timeout)).dialled = s.dialled ++ [addrs] := by
        simp [ClientAct.dialled]
      have silent : ((s.dial addrs).act (.timer timeout)).sent = s.sent := by simp [ClientAct.sent]
      rw [ClientState.dial_coming]
      cases ended : ClientState.await (fun stats event => (dialEvent client.peerId s.nextConnection event, stats))
        s.coming ((s.dial addrs).act (.timer timeout)) with
      | mk outcome after =>
        rw [ended] at ends quiet suffix
        cases outcome with
        | some outcome => exact ⟨ends, quiet.dialled.trans tried, quiet.sent.trans silent, quiet.nextRequest, suffix⟩
        | none =>
          have missed : Dialled client.peerId [addrs] false s after :=
            ⟨ends, quiet.dialled.trans tried, quiet.sent.trans silent, quiet.nextRequest, suffix⟩
          exact missed.act rfl rfl

theorem dialOnce_costs (addrs : List (Multiaddr PeerId)) (timeout : Duration) :
    Costs ClientState.waited timeout.nanos (client.dialOnce libs addrs timeout) := by
  intro s
  unfold dialOnce
  split
  · exact Nat.le_add_right _ _
  · dsimp only
    split
    · rw [ClientState.dial_waited]
      exact Nat.le_add_right _ _
    · have quiet := (await_quiet (fun stats event => (dialEvent client.peerId s.nextConnection event,
        stats)) s.coming ((s.dial addrs).act (.timer timeout))).1.waited
      rw [ClientState.act_waited, ClientState.dial_waited] at quiet
      rw [ClientState.dial_coming]
      cases ended : ClientState.await (fun stats event => (dialEvent client.peerId s.nextConnection event, stats))
        s.coming ((s.dial addrs).act (.timer timeout)) with
      | mk outcome after =>
        rw [ended] at quiet
        cases outcome with
        | some outcome => exact Nat.le_of_eq quiet
        | none => exact Nat.le_of_eq ((ClientState.act_waited after .disconnect).trans quiet)

def dialSleep (attempt : Nat) (s : ClientState PeerId) : ClientState PeerId :=
  s.act (.sleep (expDuration dialBackoffBase (.ofNat attempt) none))

theorem dialLoop_eq (addrs : List (Multiaddr PeerId)) (baseTimeout : Duration) (timeoutCap : Option Duration)
    {left attempt : Nat} (count : attempt + left + 1 = dialAttempts) (lastErr : Option Error)
    (s : ClientState PeerId) :
    client.dialLoop libs addrs baseTimeout timeoutCap (left + 1) attempt lastErr s =
      retryBetween (fun _ => true)
        (fun attempt => client.dialOnce libs addrs (expDuration baseTimeout (.ofNat attempt) timeoutCap)) dialSleep
        left attempt s := by
  induction left generalizing attempt lastErr s with
  | zero =>
    have last : ¬ attempt + 1 < dialAttempts := by omega
    rw [dialLoop, retryBetween]
    cases ended : client.dialOnce libs addrs (expDuration baseTimeout (.ofNat attempt) timeoutCap) s with
    | mk outcome next =>
      cases outcome with
      | ok value => rfl
      | error err =>
        dsimp only
        rw [if_neg last, dialLoop]
        rfl
  | succ left ih =>
    have more : attempt + 1 < dialAttempts := by omega
    rw [dialLoop, retryBetween]
    cases ended : client.dialOnce libs addrs (expDuration baseTimeout (.ofNat attempt) timeoutCap) s with
    | mk outcome next =>
      cases outcome with
      | ok value => rfl
      | error err =>
        dsimp only
        rw [if_pos more, if_pos rfl]
        exact ih (by omega) (some err) (dialSleep attempt next)

theorem dialWithRetries_eq (addrs : List (Multiaddr PeerId)) (baseTimeout : Duration)
    (timeoutCap : Option Duration) (s : ClientState PeerId) :
    client.dialWithRetries libs addrs baseTimeout timeoutCap s =
      retryBetween (fun _ => true)
        (fun attempt => client.dialOnce libs addrs (expDuration baseTimeout (.ofNat attempt) timeoutCap)) dialSleep
        2 0 s :=
  client.dialLoop_eq libs addrs baseTimeout timeoutCap rfl none s

/-- Without a connection the addresses are dialled until there is one, three times at most. -/
theorem dialWithRetries_dialled (addrs : List (Multiaddr PeerId)) (baseTimeout : Duration)
    (timeoutCap : Option Duration) {s : ClientState PeerId} (apart : s.connected client.peerId = false) :
    ∃ count, 0 < count ∧ count ≤ dialAttempts ∧
      ((client.dialWithRetries libs addrs baseTimeout timeoutCap s).1.isOk = false → count = dialAttempts) ∧
      Dialled client.peerId (List.replicate count addrs)
        (client.dialWithRetries libs addrs baseTimeout timeoutCap s).1.isOk s
        (client.dialWithRetries libs addrs baseTimeout timeoutCap s).2 := by
  let once (attempt : Nat) := client.dialOnce libs addrs (expDuration baseTimeout (.ofNat attempt) timeoutCap)
  have rule : AttemptRule (fun _ => true) once dialSleep 2
      (fun attempt state => Dialled client.peerId (List.replicate attempt addrs) false s state)
      (fun outcome state => ∃ count, 0 < count ∧ count ≤ dialAttempts ∧
        (outcome.isOk = false → count = dialAttempts) ∧
        Dialled client.peerId (List.replicate count addrs) outcome.isOk s state) := by
    have turn : ∀ attempt state outcome next, Dialled client.peerId (List.replicate attempt addrs) false s state →
        once attempt state = (outcome, next) →
        Dialled client.peerId (List.replicate (attempt + 1) addrs) outcome.isOk s next := by
      intro attempt state outcome next before ended
      have missed : state.connected client.peerId = false := before.connected
      have here := client.dialOnce_dialled libs addrs (expDuration baseTimeout (.ofNat attempt) timeoutCap) state
      rw [show client.dialOnce libs addrs (expDuration baseTimeout (.ofNat attempt) timeoutCap) state = _ from ended,
        missed] at here
      rw [List.replicate_succ']
      exact before.trans here
    refine ⟨?_, ?_, ?_⟩
    · intro attempt state value next inside before ended
      refine ⟨attempt + 1, Nat.succ_pos attempt, Nat.succ_le_succ inside, nofun, ?_⟩
      exact turn attempt state _ next before ended
    · intro attempt state err next inside before ended last
      have final : attempt = 2 := by simpa using last
      refine ⟨attempt + 1, Nat.succ_pos attempt, Nat.succ_le_succ inside, fun _ => congrArg Nat.succ final, ?_⟩
      exact turn attempt state _ next before ended
    · intro attempt state err next inside before ended _
      have missed := turn attempt state _ next before ended
      exact missed.act rfl rfl
  have start : Dialled client.peerId [] false s s := by
    rw [← apart]
    exact Dialled.refl client.peerId s
  rw [dialWithRetries_eq]
  exact rule.run (Nat.zero_add 2) start

/-- At the worst every attempt runs into its timeout. -/
def dialBudget (baseTimeout : Duration) (timeoutCap : Option Duration) : Nat :=
  ∑ attempt ∈ Finset.range dialAttempts, (expDuration baseTimeout (.ofNat attempt) timeoutCap).nanos +
    ∑ attempt ∈ Finset.range (dialAttempts - 1), (expDuration dialBackoffBase (.ofNat attempt) none).nanos

theorem dialWithRetries_costs (addrs : List (Multiaddr PeerId)) (baseTimeout : Duration)
    (timeoutCap : Option Duration) :
    Costs ClientState.waited (dialBudget baseTimeout timeoutCap)
      (client.dialWithRetries libs addrs baseTimeout timeoutCap) := by
  intro s
  rw [dialWithRetries_eq]
  apply costs_retryBetween (fun attempt => client.dialOnce_costs libs addrs _)
  intro attempt state
  rw [dialSleep, ClientState.act_waited]
  exact Nat.le_refl _

theorem dialBudget_direct : dialBudget directBaseTimeout none = 21600000000 := by decide

theorem dialBudget_relay : dialBudget relayBaseTimeout (some relayTimeoutCap) = 60600000000 := by decide

/-! `ensure_connected` -/

omit [DecidableEq PeerId] in
/-- The relay is dialled at one address. -/
def relayDial : List (Multiaddr PeerId) :=
  match client.relayAddr with
  | some relayAddr => [relayAddr ++ [.p2pCircuit]]
  | none => []

omit [DecidableEq PeerId] in
def directBudget : Nat := if client.directAddrs.isEmpty then 0 else dialBudget directBaseTimeout none

omit [DecidableEq PeerId] in
def relayBudget : Nat := if client.relayAddr.isNone then 0 else dialBudget relayBaseTimeout (some relayTimeoutCap)

omit [DecidableEq PeerId] in
def connectBudget : Nat := client.directBudget + client.relayBudget

omit [DecidableEq PeerId] in
theorem directBudget_le : client.directBudget ≤ 21600000000 := by
  unfold directBudget
  rw [dialBudget_direct]
  split <;> omega

omit [DecidableEq PeerId] in
theorem relayBudget_le : client.relayBudget ≤ 60600000000 := by
  unfold relayBudget
  rw [dialBudget_relay]
  split <;> omega

theorem dialRelay_dialled {s : ClientState PeerId} (apart : s.connected client.peerId = false) :
    ∃ count ≤ dialAttempts, (client.relayAddr = none → count = 0) ∧
      ((client.dialRelay libs s).1.isOk = false → client.relayAddr = none ∨ count = dialAttempts) ∧
      Dialled client.peerId (List.replicate count client.relayDial) (client.dialRelay libs s).1.isOk s
        (client.dialRelay libs s).2 := by
  unfold dialRelay relayDial
  cases relay : client.relayAddr with
  | none =>
    refine ⟨0, Nat.zero_le _, fun _ => rfl, fun _ => Or.inl rfl, ?_⟩
    have still := Dialled.refl client.peerId s
    rw [apart] at still
    exact still
  | some relayAddr =>
    obtain ⟨count, -, bounded, exhausted, dialled⟩ := client.dialWithRetries_dialled libs
      [relayAddr ++ [.p2pCircuit]] relayBaseTimeout (some relayTimeoutCap) apart
    exact ⟨count, bounded, nofun, fun failed => Or.inr (exhausted failed), dialled⟩

theorem dialRelay_costs : Costs ClientState.waited client.relayBudget (client.dialRelay libs) := by
  intro s
  unfold dialRelay relayBudget
  cases relay : client.relayAddr with
  | none => exact Nat.le_add_right _ _
  | some relayAddr =>
    exact client.dialWithRetries_costs libs [relayAddr ++ [.p2pCircuit]] relayBaseTimeout (some relayTimeoutCap) s

omit [DecidableEq PeerId] in
/-- How often the direct addresses and then the relay were dialled. -/
structure DialOrder (already fine : Bool) (direct relayed : Nat) : Prop where
  directAttempts : direct ≤ dialAttempts
  relayAttempts : relayed ≤ dialAttempts
  connected : already = true → fine = true ∧ direct = 0 ∧ relayed = 0
  noDirect : client.directAddrs = [] → direct = 0
  noRelay : client.relayAddr = none → relayed = 0
  directFirst : 0 < relayed → client.directAddrs = [] ∨ direct = dialAttempts
  exhausted : fine = false → (client.directAddrs = [] ∨ direct = dialAttempts) ∧
    (client.relayAddr = none ∨ relayed = dialAttempts)

theorem ensureConnected_dialled (s : ClientState PeerId) :
    ∃ direct relayed,
      client.DialOrder (s.connected client.peerId) (client.ensureConnected libs s).1.isOk direct relayed ∧
      Dialled client.peerId (List.replicate direct client.directAddrs ++ List.replicate relayed client.relayDial)
        (client.ensureConnected libs s).1.isOk s (client.ensureConnected libs s).2 := by
  unfold ensureConnected
  by_cases connected : s.connected client.peerId = true
  · rw [if_pos connected, connected]
    refine ⟨0, 0, ⟨Nat.zero_le _, Nat.zero_le _, fun _ => ⟨rfl, rfl, rfl⟩, fun _ => rfl, fun _ => rfl, nofun, nofun⟩, ?_⟩
    have still := Dialled.refl client.peerId s
    rw [connected] at still
    exact still
  · have apart : s.connected client.peerId = false := eq_false_of_ne_true connected
    rw [if_neg connected, apart]
    by_cases empty : client.directAddrs.isEmpty = true
    · have noDirect : client.directAddrs = [] := List.isEmpty_iff.mp empty
      obtain ⟨count, bounded, noRelay, exhausted, dialled⟩ := client.dialRelay_dialled libs apart
      rw [if_pos empty]
      refine ⟨0, count, ⟨Nat.zero_le _, bounded, nofun, fun _ => rfl, noRelay, fun _ => Or.inl noDirect, ?_⟩, dialled⟩
      intro failed
      exact ⟨Or.inl noDirect, exhausted failed⟩
    · obtain ⟨direct, positive, directBounded, directExhausted, directDialled⟩ := client.dialWithRetries_dialled libs
        client.directAddrs directBaseTimeout none apart
      rw [if_neg empty]
      have some_direct : client.directAddrs ≠ [] := fun none => empty (List.isEmpty_iff.mpr none)
      cases ended : client.dialWithRetries libs client.directAddrs directBaseTimeout none s with
      | mk outcome middle =>
        rw [ended] at directExhausted directDialled
        cases outcome with
        | ok value =>
          refine ⟨direct, 0, ⟨directBounded, Nat.zero_le _, nofun, fun none => absurd none some_direct, fun _ => rfl,
            nofun, nofun⟩, ?_⟩
          rw [List.replicate_zero, List.append_nil]
          exact directDialled
        | error err =>
          obtain ⟨relayed, bounded, noRelay, exhausted, dialled⟩ := client.dialRelay_dialled libs
            directDialled.connected
          have all := directExhausted rfl
          refine ⟨direct, relayed, ⟨directBounded, bounded, nofun, fun none => absurd none some_direct, noRelay,
            fun _ => Or.inr all, fun failed => ⟨Or.inr all, exhausted failed⟩⟩, ?_⟩
          exact directDialled.trans dialled

theorem ensureConnected_costs : Costs ClientState.waited client.connectBudget (client.ensureConnected libs) := by
  intro s
  unfold ensureConnected connectBudget
  split
  · exact Nat.le_add_right _ _
  · split
    · have relay := client.dialRelay_costs libs s
      omega
    · rename_i some_direct
      have direct := client.dialWithRetries_costs libs client.directAddrs directBaseTimeout none s
      have budget : client.directBudget = dialBudget directBaseTimeout none := if_neg some_direct
      cases ended : client.dialWithRetries libs client.directAddrs directBaseTimeout none s with
      | mk outcome middle =>
        rw [ended] at direct
        dsimp only at direct
        cases outcome with
        | ok value =>
          dsimp only
          omega
        | error err =>
          have relay := client.dialRelay_costs libs middle
          dsimp only
          omega

/-- The client is connected exactly when `ensure_connected` succeeds. It dials its direct addresses first and the
    relay only after all attempts at them, each three times at most, and gives up only after all of these attempts;
    and however the dials end, it waits no longer than 21.6 s for the ones and 60.6 s for the other. -/
theorem ensure_connected_dials (s : ClientState PeerId) :
    (client.ensureConnected libs s).2.connected client.peerId = (client.ensureConnected libs s).1.isOk ∧
    (∃ direct relayed,
      client.DialOrder (s.connected client.peerId) (client.ensureConnected libs s).1.isOk direct relayed ∧
      (client.ensureConnected libs s).2.dialled = s.dialled ++
        (List.replicate direct client.directAddrs ++ List.replicate relayed client.relayDial)) ∧
    (client.ensureConnected libs s).2.sent = s.sent ∧
    (client.ensureConnected libs s).2.waited ≤ s.waited + 82200000000 ∧
    (client.relayAddr = none → (client.ensureConnected libs s).2.waited ≤ s.waited + 21600000000) ∧
    (client.directAddrs = [] → (client.ensureConnected libs s).2.waited ≤ s.waited + 60600000000) := by
  obtain ⟨direct, relayed, order, dialled⟩ := client.ensureConnected_dialled libs s
  have costs := client.ensureConnected_costs libs s
  have directs := client.directBudget_le
  have relays := client.relayBudget_le
  unfold connectBudget at costs
  refine ⟨dialled.connected, ⟨direct, relayed, order, dialled.dialled⟩, dialled.sent, by omega, ?_, ?_⟩
  · intro noRelay
    have free : client.relayBudget = 0 := by simp [relayBudget, noRelay]
    omega
  · intro noDirect
    have free : client.directBudget = 0 := by simp [directBudget, noDirect]
    omega

end P2pClient

end

end Rustory
