import Rustory.P2p.Retries

namespace Rustory

open Foundations

/-! The calls of `P2pClient`, event by event. -/

/-- The behaviours of the swarm that carry requests. Each gives its requests their ids. -/
inductive Behaviour
  | sync
  | push
  deriving DecidableEq

/-- `libp2p_request_response::Event`, as far as the loops look into it. -/
inductive RequestEvent (Resp : Type)
  | request
  | response (requestId : Nat) (response : Resp)
  | outboundFailure (requestId : Nat) (error : OutboundFailure)
  | inboundFailure
  | responseSent

inductive SwarmEvent
  | sync (event : RequestEvent SyncBatch)
  | push (event : RequestEvent PushAck)
  | other

/-- `push_ack_stats_known`, `push_ack_inserted_total` and `push_ack_ignored_total` -/
structure PushAckStats where
  known : Bool
  insertedTotal : Nat
  ignoredTotal : Nat
  deriving DecidableEq

namespace PushAckStats

/-- `reset_push_ack_stats`, and the values that `new` starts with. -/
def reset : PushAckStats := ⟨false, 0, 0⟩

/-- `take_push_ack_stats` -/
def take (stats : PushAckStats) : Option (Nat × Nat) × PushAckStats :=
  if !stats.known then
    (none, stats)
  else
    (some (stats.insertedTotal, stats.ignoredTotal), reset)

/-- Both branches of `push_batch_once` that see two numbers add them; one of them also prints. -/
def add (stats : PushAckStats) (response : PushAck) : PushAckStats :=
  match response.inserted, response.ignored with
  | some inserted, some ignored => ⟨true, stats.insertedTotal + inserted, stats.ignoredTotal + ignored⟩
  | _, _ => stats

/-- The numbers are those of `total` entries that were acknowledged. -/
structure Counts (stats : PushAckStats) (total : Nat) : Prop where
  sum : stats.insertedTotal + stats.ignoredTotal = total
  known : stats.known = true ↔ 0 < total

theorem counts_reset : reset.Counts 0 := ⟨rfl, by simp [reset]⟩

theorem Counts.add {stats : PushAckStats} {total count inserted ignored : Nat} {response : PushAck}
    (counts : stats.Counts total) (first : response.inserted = some inserted)
    (second : response.ignored = some ignored) (sum : inserted + ignored = count) (positive : 0 < count) :
    (stats.add response).Counts (total + count) := by
  have before := counts.sum
  constructor
  · simp only [PushAckStats.add, first, second]
    omega
  · simp only [PushAckStats.add, first, second, true_iff]
    omega

theorem Counts.take {stats : PushAckStats} {total : Nat} (counts : stats.Counts total) :
    (total = 0 ∧ stats.take.1 = none) ∨
      ∃ inserted ignored, stats.take.1 = some (inserted, ignored) ∧ inserted + ignored = total := by
  unfold PushAckStats.take
  by_cases known : stats.known = true
  · exact Or.inr ⟨stats.insertedTotal, stats.ignoredTotal, by simp [known], counts.sum⟩
  · have none_sent : ¬ 0 < total := fun positive => known (counts.known.mpr positive)
    exact Or.inl ⟨by omega, by simp [known]⟩

end PushAckStats

def outboundRequestFailed (error : OutboundFailure) : Error :=
  Error.context [.outbound error] "p2p outbound request failed"

/-- The error of an attempt whose deadline has passed; `timeout` is the duration as it is printed. -/
def requestTimeout (timeout : String) : Error := bail ("p2p request timeout after " ++ timeout)

/-- The loop of `pull_batch_once` at one event: what it returns, if it does. -/
def pullEvent (requestId : Nat) : SwarmEvent → Option (Except Error PullBatch)
  | .sync (.response gotId response) =>
    if gotId = requestId then some (.ok ⟨response.entries, response.nextCursor⟩) else none
  | .sync (.outboundFailure gotId error) =>
    if gotId = requestId then some (.error (outboundRequestFailed error)) else none
  | _ => none

/-- The loop of `push_batch_once` at one event, with the numbers it has added up. -/
def pushEvent (requestId : Nat) (stats : PushAckStats) : SwarmEvent → Option (Except Error Unit) × PushAckStats
  | .push (.response gotId response) =>
    if gotId = requestId then
      if response.ok then
        (some (.ok ()), stats.add response)
      else
        (some (.error (bail "p2p push rejected")), stats)
    else
      (none, stats)
  | .push (.outboundFailure gotId error) =>
    if gotId = requestId then (some (.error (outboundRequestFailed error)), stats) else (none, stats)
  | _ => (none, stats)

/-- Only the answer to the request of the attempt makes it succeed. -/
theorem pullEvent_ok {requestId : Nat} {event : SwarmEvent} {batch : PullBatch}
    (h : pullEvent requestId event = some (.ok batch)) :
    ∃ response, event = .sync (.response requestId response) ∧ batch = ⟨response.entries, response.nextCursor⟩ := by
  unfold pullEvent at h
  split at h
  · split at h
    · rename_i own
      cases h
      exact ⟨_, by rw [own], rfl⟩
    · cases h
  · split at h <;> cases h
  · cases h

theorem pushEvent_some {requestId : Nat} {stats after : PushAckStats} {event : SwarmEvent}
    {outcome : Except Error Unit} (h : pushEvent requestId stats event = (some outcome, after)) :
    (∃ err, outcome = .error err ∧ after = stats) ∨
      ∃ response, event = .push (.response requestId response) ∧ response.ok = true ∧ outcome = .ok () ∧
        after = stats.add response := by
  unfold pushEvent at h
  split at h
  · split at h
    · rename_i own
      split at h
      · rename_i accepted
        cases h
        exact Or.inr ⟨_, by rw [own], accepted, rfl, rfl⟩
      · cases h
        exact Or.inl ⟨_, rfl, rfl⟩
    · cases h
  · split at h
    · cases h
      exact Or.inl ⟨_, rfl, rfl⟩
    · cases h
  · cases h

/-- Where a call with retries stands: before `ensure_connected` of an attempt, or in its event loop. -/
inductive RequestCall
  | connecting (attempt : Nat)
  | waiting (attempt requestId : Nat)
  deriving DecidableEq

/-- What `pull_batch_with_retries` and `push_batch_with_retries` do after an attempt. -/
inductive AfterAttempt (α : Type)
  | again (attempt : Nat)
  | returned (result : Except Error α)

def RequestRetryPolicy.after {α : Type} (policy : RequestRetryPolicy) (attempt : Nat) :
    Except Error α → AfterAttempt α
  | .ok value => .returned (.ok value)
  | .error err =>
    if !isRetryableP2pRequestError err || decide (policy.attempts ≤ attempt + 1) then
      .returned (.error err)
    else
      .again (attempt + 1)

/-- A call, attempt after attempt, over the outcomes that its attempts have. -/
def followAttempts {α : Type} (policy : RequestRetryPolicy) (outcomes : Nat → Except Error α) :
    Nat → Nat → Option (Except Error α)
  | 0, _ => none
  | left + 1, attempt =>
    match policy.after attempt (outcomes attempt) with
    | .returned result => some result
    | .again next => followAttempts policy outcomes left next

section

variable {α : Type} {policy : RequestRetryPolicy} {attempt : Nat}

theorem after_cases (policy : RequestRetryPolicy) (attempt : Nat) (outcome : Except Error α) :
    (∃ next, policy.after attempt outcome = .again next) ∨ policy.after attempt outcome = .returned outcome := by
  unfold RequestRetryPolicy.after
  split
  · exact Or.inr rfl
  · split
    · exact Or.inr rfl
    · exact Or.inl ⟨_, rfl⟩

/-- Step by step the decisions are those of the loop. -/
theorem followAttempts_eq {outcomes : Nat → Except Error α} {left : Nat}
    (count : attempt + left + 1 = policy.attempts) (lastErr : Option Error) :
    ∃ result, followAttempts policy outcomes (left + 1) attempt = some result ∧
      (retryLoop isRetryableP2pRequestError outcomes policy.attempts (left + 1) attempt lastErr).1 =
        .returned result := by
  induction left generalizing attempt lastErr with
  | zero =>
    have last : policy.attempts ≤ attempt + 1 := by omega
    cases outcome : outcomes attempt with
    | ok value => simp [followAttempts, retryLoop, RequestRetryPolicy.after, outcome]
    | error err => simp [followAttempts, retryLoop, RequestRetryPolicy.after, outcome, last]
  | succ left ih =>
    cases outcome : outcomes attempt with
    | ok value => simp [followAttempts, retryLoop, RequestRetryPolicy.after, outcome]
    | error err =>
      have more : ¬ policy.attempts ≤ attempt + 1 := by omega
      by_cases again : isRetryableP2pRequestError err = true
      · have rest : attempt + 1 + left + 1 = policy.attempts := by omega
        obtain ⟨result, followed, looped⟩ := ih rest (some err)
        refine ⟨result, ?_, ?_⟩
        · rw [followAttempts, outcome]
          simp only [RequestRetryPolicy.after, again, more, Bool.not_true, decide_false, Bool.or_self,
            Bool.false_eq_true, if_false]
          exact followed
        · rw [retryLoop, outcome]
          simp only [again, more, Bool.not_true, decide_false, Bool.or_self, Bool.false_eq_true, if_false]
          exact looped
      · have stops : isRetryableP2pRequestError err = false := by simpa using again
        refine ⟨.error err, ?_, ?_⟩
        · rw [followAttempts, outcome]
          simp [RequestRetryPolicy.after, stops]
        · rw [retryLoop, outcome]
          simp [stops]

theorem followAttempts_pull (policy : RequestRetryPolicy) (outcomes : Nat → Except Error PullBatch) :
    followAttempts policy outcomes policy.attempts 0 = some (pullBatchWithRetries policy outcomes) := by
  have positive := policy.positive
  have left : policy.attempts - 1 + 1 = policy.attempts := by omega
  obtain ⟨result, followed, looped⟩ := @followAttempts_eq _ policy 0 outcomes (policy.attempts - 1) (by omega) none
  rw [left] at followed looped
  rw [followed, ← pullBatchWithRetriesRun_eq, pullBatchWithRetriesRun, looped]
  rfl

end

end Rustory
