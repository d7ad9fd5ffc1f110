import Rustory.P2p.Dialing

namespace Rustory

open Foundations

/-! The calls of `P2pClient`, which connect, ask and wait. -/

section

variable {PeerId : Type} [DecidableEq PeerId]

namespace P2pClient

variable (libs : SwarmLibs) (client : P2pClient PeerId)

/-- `pull_batch_once` and `push_batch_once`, which differ in the behaviour and in what they make of an event. -/
def requestOnce {α : Type} (behaviour : Behaviour) (request : ServeRequest)
    (handle : Nat → PushAckStats → SwarmEvent → Option (Except Error α) × PushAckStats) (timeout : Duration)
    (s : ClientState PeerId) : Except Error α × ClientState PeerId :=
  match client.ensureConnected libs s with
  | (.error err, s) => (.error err, s)
  | (.ok (), s) =>
    let requestId := s.nextRequest behaviour
    let s := s.send behaviour request (s.connected client.peerId)
    match ClientState.await (fun stats event => handle requestId stats event.request) s.coming
      (s.act (.timer timeout)) with
    | (some outcome, s) => (outcome, s)
    | (none, s) => (.error (requestTimeout (libs.durationText timeout)), s)

def pullBatchOnce (cursor : Int) (limit : UInt64) (timeout : Duration) (s : ClientState PeerId) :
    Except Error PullBatch × ClientState PeerId :=
  client.requestOnce libs .sync (.sync ⟨cursor, limit⟩)
    (fun requestId stats event => (pullEvent requestId event, stats)) timeout s

def pushBatchOnce (entries : List Entry) (timeout : Duration) (s : ClientState PeerId) :
    Except Error Unit × ClientState PeerId :=
  client.requestOnce libs .push (.push ⟨entries⟩) pushEvent timeout s

/-- What the client does before it tries again. -/
def recover (attempt : Nat) (s : ClientState PeerId) : ClientState PeerId :=
  let s := s.act .disconnect
  let backoff := expDuration client.policy.backoffBase (.ofNat attempt) none
  if Duration.fromMillis 0 < backoff then s.act (.sleep backoff) else s

/-- The loop of both calls, with `left` turns to go. -/
def requestLoop {α : Type} (once : Duration → ClientState PeerId → Except Error α × ClientState PeerId) :
    Nat → Nat → Option Error → ClientState PeerId → RetryExit Error α × ClientState PeerId
  | 0, _, lastErr, s => (.ranOut lastErr, s)
  | left + 1, attempt, _, s =>
    match once (client.policy.timeout attempt) s with
    | (.ok value, s) => (.returned (.ok value), s)
    | (.error err, s) =>
      if !isRetryableP2pRequestError err || decide (client.policy.attempts ≤ attempt + 1) then
        (.returned (.error err), s)
      else
        requestLoop once left (attempt + 1) (some err) (client.recover attempt s)

def pullBatchWithRetries (cursor : Int) (limit : UInt64) (s : ClientState PeerId) :
    Except Error PullBatch × ClientState PeerId :=
  (client.requestLoop (client.pullBatchOnce libs cursor limit) client.policy.attempts 0 none s).map
    (orFailed "p2p pull failed") id

def pushBatchWithRetries (entries : List Entry) (s : ClientState PeerId) : Except Error Unit × ClientState PeerId :=
  if entries.isEmpty then
    (.ok (), s)
  else
    (client.requestLoop (client.pushBatchOnce libs entries) client.policy.attempts 0 none s).map
      (orFailed "p2p push failed") id

end P2pClient

/-! The requests of one call. -/

section

variable (behaviour : Behaviour) (request : ServeRequest)

/-- The same request again and again, each time under the next id, to a peer that is connected. -/
def requests (first count : Nat) : List SentBy :=
  (List.range' first count).map fun requestId => ⟨behaviour, requestId, request, true⟩

/-- The client has sent this many of them. -/
structure Requested (count : Nat) (s next : ClientState PeerId) : Prop where
  sent : next.sent = s.sent ++ requests behaviour request (s.nextRequest behaviour) count
  nextRequest : next.nextRequest behaviour = s.nextRequest behaviour + count
  coming : next.coming <:+ s.coming

variable {behaviour : Behaviour} {request : ServeRequest} {s middle next : ClientState PeerId}

omit [DecidableEq PeerId]

theorem requests_append (first count more : Nat) :
    requests behaviour request first (count + more) =
      requests behaviour request first count ++ requests behaviour request (first + count) more := by
  have split : List.range' first (count + more) = List.range' first count ++ List.range' (first + count) more := by
    rw [List.range'_append_1]
  rw [requests, split, List.map_append]
  rfl

theorem Requested.refl (s : ClientState PeerId) : Requested behaviour request 0 s s :=
  ⟨(List.append_nil _).symm, rfl, List.suffix_rfl⟩

theorem Requested.trans {first second : Nat} (before : Requested behaviour request first s middle)
    (after : Requested behaviour request second middle next) :
    Requested behaviour request (first + second) s next where
  sent := by rw [after.sent, before.sent, before.nextRequest, List.append_assoc, requests_append]
  nextRequest := by rw [after.nextRequest, before.nextRequest, Nat.add_assoc]
  coming := after.coming.trans before.coming

theorem Requested.act {count : Nat} (before : Requested behaviour request count s next) {a : ClientAct PeerId}
    (silent : a.sent = none) : Requested behaviour request count s (next.act a) where
  sent := by
    rw [ClientState.act_sent, silent, before.sent]
    exact List.append_nil _
  nextRequest := before.nextRequest
  coming := before.coming

end

/-- What a call has done by its end: at most `attempts` requests, and a value only as the answer to the last of
    them. -/
def CallEnds {α : Type} (behaviour : Behaviour) (request : ServeRequest)
    (answers : Nat → List (Happening PeerId) → α → Prop) (attempts : Nat) (s : ClientState PeerId)
    (outcome : Except Error α) (next : ClientState PeerId) : Prop :=
  ∃ count ≤ attempts, Requested behaviour request count s next ∧ ∀ value, outcome = .ok value →
    ∃ last, count = last + 1 ∧ answers (s.nextRequest behaviour + last) s.coming value

/-- The loop at the events returns a value for one request, and only for an answer to it. -/
structure AnswersOwn {α : Type} (handle : Nat → PushAckStats → SwarmEvent → Option (Except Error α) × PushAckStats)
    (answers : Nat → List (Happening PeerId) → α → Prop) : Prop where
  ok : ∀ requestId stats event coming value, .event event ∈ coming →
    (handle requestId stats event.request).1 = some (.ok value) → answers requestId coming value
  mono : ∀ requestId coming later value, later <:+ coming → answers requestId later value →
    answers requestId coming value

def PullAnswered (requestId : Nat) (coming : List (Happening PeerId)) (batch : PullBatch) : Prop :=
  ∃ response, .event (.swarm (.sync (.response requestId response))) ∈ coming ∧
    batch = ⟨response.entries, response.nextCursor⟩

def PushAnswered (requestId : Nat) (coming : List (Happening PeerId)) (_ : Unit) : Prop :=
  ∃ response, .event (.swarm (.push (.response requestId response))) ∈ coming ∧ response.ok = true

omit [DecidableEq PeerId] in
theorem ClientEvent.request_swarm {event : ClientEvent PeerId} {seen : SwarmEvent} (request : event.request = seen)
    (some_request : seen ≠ .other) : event = .swarm seen := by
  cases event with
  | swarm seen' =>
    rw [← request]
    rfl
  | connectionEstablished | connectionClosed | outgoingConnectionError => exact absurd request.symm some_request

omit [DecidableEq PeerId] in
theorem pullEvent_answers : AnswersOwn (fun requestId stats event => (pullEvent requestId event, stats))
    (PullAnswered : Nat → List (Happening PeerId) → PullBatch → Prop) where
  ok := by
    intro requestId stats event coming batch listed answer
    obtain ⟨response, seen, same⟩ := pullEvent_ok answer
    have own := ClientEvent.request_swarm seen nofun
    exact ⟨response, own ▸ listed, same⟩
  mono := fun _ _ _ _ suffix ⟨response, listed, same⟩ => ⟨response, suffix.subset listed, same⟩

omit [DecidableEq PeerId] in
theorem pushEvent_answers : AnswersOwn pushEvent (PushAnswered : Nat → List (Happening PeerId) → Unit → Prop) where
  ok := by
    intro requestId stats event coming done listed answer
    rcases @pushEvent_some requestId stats _ event.request (.ok done) (Prod.ext answer rfl) with
      ⟨err, wrong, -⟩ | ⟨response, seen, accepted, -⟩
    · cases wrong
    · have own := ClientEvent.request_swarm seen nofun
      exact ⟨response, own ▸ listed, accepted⟩
  mono := fun _ _ _ _ suffix ⟨response, listed, accepted⟩ => ⟨response, suffix.subset listed, accepted⟩

namespace P2pClient

variable (libs : SwarmLibs) (client : P2pClient PeerId) {α : Type} (behaviour : Behaviour) (request : ServeRequest)
  {handle : Nat → PushAckStats → SwarmEvent → Option (Except Error α) × PushAckStats}
  {answers : Nat → List (Happening PeerId) → α → Prop}

theorem requestOnce_ends (own : AnswersOwn handle answers) (timeout : Duration) (s : ClientState PeerId) :
    CallEnds behaviour request answers 1 s (client.requestOnce libs behaviour request handle timeout s).1
      (client.requestOnce libs behaviour request handle timeout s).2 := by
  obtain ⟨direct, relayed, -, dialled⟩ := client.ensureConnected_dialled libs s
  unfold requestOnce
  cases ended : client.ensureConnected libs s with
  | mk outcome middle =>
    rw [ended] at dialled
    cases outcome with
    | error err =>
      refine ⟨0, Nat.zero_le 1, ⟨?_, ?_, dialled.coming⟩, ?_⟩
      · exact dialled.sent.trans (List.append_nil _).symm
      · exact congrFun dialled.nextRequest behaviour
      · intro value succeeds
        cases succeeds
    | ok value =>
      have connected : middle.connected client.peerId = true := dialled.connected
      have first : middle.nextRequest behaviour = s.nextRequest behaviour := congrFun dialled.nextRequest behaviour
      let asked := (middle.send behaviour request true).act (.timer timeout)
      have sent : Requested behaviour request 1 s asked := by
        refine ⟨?_, ?_, dialled.coming⟩
        · simp [asked, ClientAct.sent, requests, dialled.sent, first]
        · simp [asked, first]
      obtain ⟨quiet, suffix⟩ := await_quiet (fun stats event => handle (middle.nextRequest behaviour) stats
        event.request) middle.coming asked
      have answered := @await_some _ _ _ (fun stats event => handle (middle.nextRequest behaviour) stats event.request)
        middle.coming asked
      dsimp only
      rw [connected, ClientState.send_coming]
      cases waited : ClientState.await (fun stats event => handle (middle.nextRequest behaviour) stats event.request)
        middle.coming asked with
      | mk outcome after =>
        rw [waited] at quiet suffix answered
        have done : Requested behaviour request 1 s after :=
          ⟨quiet.sent.trans sent.sent, (congrFun quiet.nextRequest behaviour).trans sent.nextRequest,
            suffix.trans dialled.coming⟩
        cases outcome with
        | none =>
          refine ⟨1, Nat.le_refl 1, done, ?_⟩
          intro value succeeds
          cases succeeds
        | some outcome =>
          refine ⟨1, Nat.le_refl 1, done, ?_⟩
          rintro value rfl
          obtain ⟨event, stats, listed, answer⟩ := answered rfl
          rw [first] at answer
          exact ⟨0, rfl, own.ok _ stats event _ value (dialled.coming.subset listed) answer⟩

theorem requestOnce_costs (timeout : Duration) :
    Costs ClientState.waited (client.connectBudget + timeout.nanos)
      (client.requestOnce libs behaviour request handle timeout) := by
  intro s
  have connects := client.ensureConnected_costs libs s
  unfold requestOnce
  cases ended : client.ensureConnected libs s with
  | mk outcome middle =>
    rw [ended] at connects
    dsimp only at connects ⊢
    cases outcome with
    | error err =>
      dsimp only
      omega
    | ok value =>
      dsimp only
      have quiet := (await_quiet (fun stats event => handle (middle.nextRequest behaviour) stats event.request)
        middle.coming ((middle.send behaviour request (middle.connected client.peerId)).act
        (.timer timeout))).1.waited
      have timer : ClientAct.waits (.timer timeout : ClientAct PeerId) = timeout.nanos := rfl
      rw [ClientState.act_waited, ClientState.send_waited, timer] at quiet
      rw [ClientState.send_coming]
      cases waited : ClientState.await (fun stats event => handle (middle.nextRequest behaviour) stats event.request)
        middle.coming ((middle.send behaviour request (middle.connected client.peerId)).act (.timer timeout)) with
      | mk outcome after =>
        rw [waited] at quiet
        dsimp only at quiet
        cases outcome <;> dsimp only <;> omega

/-! The loop over the attempts. -/

omit [DecidableEq PeerId] in
theorem requestLoop_eq (once : Duration → ClientState PeerId → Except Error α × ClientState PeerId) (text : String)
    {left attempt : Nat} (count : attempt + left + 1 = client.policy.attempts) (lastErr : Option Error)
    (s : ClientState PeerId) :
    (client.requestLoop once (left + 1) attempt lastErr s).map (orFailed text) id =
      retryBetween isRetryableP2pRequestError (fun attempt => once (client.policy.timeout attempt)) client.recover
        left attempt s := by
  induction left generalizing attempt lastErr s with
  | zero =>
    have last : client.policy.attempts ≤ attempt + 1 := by omega
    rw [requestLoop, retryBetween]
    cases ended : once (client.policy.timeout attempt) s with
    | mk outcome next =>
      cases outcome with
      | ok value => rfl
      | error err =>
        dsimp only
        rw [decide_eq_true last, Bool.or_true, if_pos rfl]
        rfl
  | succ left ih =>
    have more : ¬ client.policy.attempts ≤ attempt + 1 := by omega
    rw [requestLoop, retryBetween]
    cases ended : once (client.policy.timeout attempt) s with
    | mk outcome next =>
      cases outcome with
      | ok value => rfl
      | error err =>
        dsimp only
        rw [decide_eq_false more, Bool.or_false]
        by_cases worth : isRetryableP2pRequestError err = true
        · rw [worth, Bool.not_true, if_neg Bool.false_ne_true, if_pos rfl]
          exact ih (by omega) (some err) (client.recover attempt next)
        · rw [eq_false_of_ne_true worth, Bool.not_false, if_pos rfl, if_neg Bool.false_ne_true]
          rfl

omit [DecidableEq PeerId] in
theorem requestLoop_attempts (once : Duration → ClientState PeerId → Except Error α × ClientState PeerId)
    (text : String) (s : ClientState PeerId) :
    (client.requestLoop once client.policy.attempts 0 none s).map (orFailed text) id =
      retryBetween isRetryableP2pRequestError (fun attempt => once (client.policy.timeout attempt)) client.recover
        (client.policy.attempts - 1) 0 s := by
  have positive := client.policy.positive
  have run := client.requestLoop_eq once text (show 0 + (client.policy.attempts - 1) + 1 = client.policy.attempts by
    omega) none s
  have all : client.policy.attempts - 1 + 1 = client.policy.attempts := by omega
  rw [all] at run
  exact run

omit [DecidableEq PeerId] in
theorem Requested.recover {count : Nat} {s next : ClientState PeerId}
    (before : Requested behaviour request count s next) (attempt : Nat) :
    Requested behaviour request count s (client.recover attempt next) := by
  have disconnected : Requested behaviour request count s (next.act .disconnect) := before.act rfl
  unfold P2pClient.recover
  dsimp only
  split
  · exact disconnected.act rfl
  · exact disconnected

omit [DecidableEq PeerId] in
theorem recover_waited (attempt : Nat) (s : ClientState PeerId) :
    (client.recover attempt s).waited ≤
      s.waited + (expDuration client.policy.backoffBase (.ofNat attempt) none).nanos := by
  unfold recover
  dsimp only
  split
  · rw [ClientState.act_waited, ClientState.act_waited]
    exact Nat.le_refl _
  · rw [ClientState.act_waited]
    exact Nat.le_add_right _ _

/-- At the worst every attempt connects anew and runs into its timeout. -/
def callBudget : Nat :=
  ∑ attempt ∈ Finset.range client.policy.attempts, (client.connectBudget + (client.policy.timeout attempt).nanos) +
    ∑ attempt ∈ Finset.range (client.policy.attempts - 1),
      (expDuration client.policy.backoffBase (.ofNat attempt) none).nanos

/-- What both calls promise, of which `operation` is one attempt. -/
structure CallContract (answers : Nat → List (Happening PeerId) → α → Prop)
    (operation : Nat → ClientState PeerId → Except Error α × ClientState PeerId)
    (s : ClientState PeerId) (out : Except Error α × ClientState PeerId) : Prop where
  ends : CallEnds behaviour request answers client.policy.attempts s out.1 out.2
  result : out.1 = retry isRetryableP2pRequestError
    (fun attempt => (operation attempt (stateBefore operation client.recover s attempt)).1)
    (client.policy.attempts - 1) 0
  waits : out.2.waited ≤ s.waited + client.callBudget

theorem requestLoop_contract (own : AnswersOwn handle answers) (text : String) (s : ClientState PeerId) :
    client.CallContract behaviour request answers
      (fun attempt => client.requestOnce libs behaviour request handle (client.policy.timeout attempt)) s
      ((client.requestLoop (client.requestOnce libs behaviour request handle) client.policy.attempts 0 none s).map
        (orFailed text) id) := by
  let operation (attempt : Nat) := client.requestOnce libs behaviour request handle (client.policy.timeout attempt)
  have positive := client.policy.positive
  rw [requestLoop_attempts]
  constructor
  · have rule : AttemptRule isRetryableP2pRequestError operation client.recover (client.policy.attempts - 1)
        (fun attempt state => ∃ count ≤ attempt, Requested behaviour request count s state)
        (CallEnds behaviour request answers client.policy.attempts s) := by
      have turn : ∀ attempt state outcome next, (∃ count ≤ attempt, Requested behaviour request count s state) →
          operation attempt state = (outcome, next) →
          CallEnds behaviour request answers (attempt + 1) s outcome next := by
        intro attempt state outcome next ⟨earlier, few, before⟩ ended
        obtain ⟨count, one, asked, answered⟩ := client.requestOnce_ends libs behaviour request own
          (client.policy.timeout attempt) state
        rw [show client.requestOnce libs behaviour request handle (client.policy.timeout attempt) state = _ from
          ended] at asked answered
        refine ⟨earlier + count, Nat.add_le_add few one, before.trans asked, ?_⟩
        intro value succeeds
        obtain ⟨last, rfl, answer⟩ := answered value succeeds
        rw [before.nextRequest, Nat.add_assoc] at answer
        exact ⟨earlier + last, rfl, own.mono _ _ _ value before.coming answer⟩
      have within : ∀ attempt outcome next, attempt ≤ client.policy.attempts - 1 →
          CallEnds behaviour request answers (attempt + 1) s outcome next →
          CallEnds behaviour request answers client.policy.attempts s outcome next := by
        intro attempt outcome next inside ⟨count, few, ends⟩
        exact ⟨count, by omega, ends⟩
      refine ⟨?_, ?_, ?_⟩
      · intro attempt state value next inside before ended
        exact within attempt _ next inside (turn attempt state _ next before ended)
      · intro attempt state err next inside before ended _
        exact within attempt _ next inside (turn attempt state _ next before ended)
      · intro attempt state err next inside before ended _
        obtain ⟨count, few, asked, -⟩ := turn attempt state _ next before ended
        exact ⟨count, few, Requested.recover client behaviour request asked attempt⟩
    exact rule.run (Nat.zero_add _) ⟨0, Nat.le_refl 0, .refl s⟩
  · exact retryBetween_fst s (client.policy.attempts - 1) 0
  · have each : ∀ attempt, Costs ClientState.waited (client.connectBudget + (client.policy.timeout attempt).nanos)
        (operation attempt) :=
      fun attempt => client.requestOnce_costs libs behaviour request (client.policy.timeout attempt)
    have costs := @costs_retryBetween _ _ _ isRetryableP2pRequestError _ _ _ _ _ each
      (fun attempt state => client.recover_waited attempt state) (client.policy.attempts - 1)
    have all : client.policy.attempts - 1 + 1 = client.policy.attempts := by omega
    rw [all] at costs
    exact costs s

/-- A pull and a push with retries send their one request again at most as often as they are allowed to, under ids
    that follow each other and only to a peer that is connected. They return a value only as the answer to the
    last of these requests, and end like the loop over the outcomes of their attempts; and however the events come,
    they wait no longer than their budget. -/
theorem calls_keep_contract (s : ClientState PeerId) :
    (∀ cursor limit, client.CallContract .sync (.sync ⟨cursor, limit⟩) PullAnswered
      (fun attempt => client.pullBatchOnce libs cursor limit (client.policy.timeout attempt)) s
      (client.pullBatchWithRetries libs cursor limit s)) ∧
    (∀ e rest, client.CallContract .push (.push ⟨e :: rest⟩) PushAnswered
      (fun attempt => client.pushBatchOnce libs (e :: rest) (client.policy.timeout attempt)) s
      (client.pushBatchWithRetries libs (e :: rest) s)) ∧
    client.pushBatchWithRetries libs [] s = (.ok (), s) := by
  refine ⟨fun cursor limit => ?_, fun e rest => ?_, rfl⟩
  · exact client.requestLoop_contract libs .sync (.sync ⟨cursor, limit⟩) pullEvent_answers "p2p pull failed" s
  · exact client.requestLoop_contract libs .push (.push ⟨e :: rest⟩) pushEvent_answers "p2p push failed" s

end P2pClient

end

end Rustory
