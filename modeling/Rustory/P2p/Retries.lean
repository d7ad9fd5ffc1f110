import Rustory.Http.Transport
import Rustory.P2p.Client

namespace Rustory

open Foundations LocalStore

/-! `request_with_retry` -/

/-- What `anyhow!(err)` has as its chain; the sources of an error of `ureq` are known by their texts. -/
def ureqChain (sources : UreqError → List String) (err : UreqError) : Error :=
  err.cause :: (sources err).map Cause.message

/-- The trailing `expect` is the exit `ranOut`. -/
def requestWithRetryRun {α : Type} (sources : UreqError → List String) (attempts : Nat)
    (f : Nat → Except UreqError α) : RetryExit Error α × Nat :=
  let attempts := max attempts 1
  let (exit, calls) := retryLoop isRetryableError f attempts attempts 0 none
  (exit.mapError (ureqChain sources), calls)

/-! The loops of `P2pClient` -/

def pullBatchWithRetriesRun (policy : RequestRetryPolicy) (pullBatchOnce : Nat → Except Error PullBatch) :
    RetryExit Error PullBatch × Nat :=
  retryLoop isRetryableP2pRequestError pullBatchOnce policy.attempts policy.attempts 0 none

def pushBatchWithRetriesRun (policy : RequestRetryPolicy) (pushBatchOnce : Nat → List Entry → Except Error Unit)
    (entries : List Entry) : RetryExit Error Unit × Nat :=
  if entries.isEmpty then
    (.returned (.ok ()), 0)
  else
    retryLoop isRetryableP2pRequestError (fun attempt => pushBatchOnce attempt entries) policy.attempts
      policy.attempts 0 none

/-- `Err(last_err.unwrap_or_else(..))` after the loop. -/
def orFailed {α : Type} (text : String) : RetryExit Error α → Except Error α
  | .returned result => result
  | .ranOut lastErr => .error (lastErr.getD (bail text))

/-! What the loops return is what the rest of the model uses. -/

theorem requestWithRetryRun_eq {α : Type} (attempts : Nat) (f : Nat → Except UreqError α) :
    (requestWithRetryRun (fun _ => []) attempts f).1 = .returned (requestWithRetry attempts f) := by
  have run := @retryLoop_retry _ _ isRetryableError f (max attempts 1) (max attempts 1 - 1) 0 (by omega) none
  have left : max attempts 1 - 1 + 1 = max attempts 1 := by omega
  rw [left] at run
  unfold requestWithRetryRun requestWithRetry
  dsimp only
  rw [run]
  rfl

theorem pullBatchWithRetriesRun_eq (policy : RequestRetryPolicy) (pullBatchOnce : Nat → Except Error PullBatch) :
    orFailed "p2p pull failed" (pullBatchWithRetriesRun policy pullBatchOnce).1 =
      pullBatchWithRetries policy pullBatchOnce := by
  have positive := policy.positive
  have run := @retryLoop_retry _ _ isRetryableP2pRequestError pullBatchOnce policy.attempts (policy.attempts - 1) 0
    (by omega) none
  have left : policy.attempts - 1 + 1 = policy.attempts := by omega
  rw [left] at run
  unfold pullBatchWithRetriesRun pullBatchWithRetries
  rw [run]
  rfl

/-! The contract of the three loops. -/

/-- The operation is called up to the first outcome that settles, and that outcome is returned: the loop is
    never left at its end, and nothing is called again after an error that asks for a smaller batch. -/
structure RetryContract {α : Type} (settled : Nat → Bool) (outcomes : Nat → Except Error α) (attempts : Nat)
    (run : RetryExit Error α × Nat) : Prop where
  calls : run.2 = settledAt settled (max attempts 1)
  result : run.1 = .returned (outcomes (run.2 - 1))
  tooLarge : ∀ attempt err, attempt + 1 < run.2 → outcomes attempt = .error err →
    isPayloadTooLargeError err = false

/-- No source of a transport error speaks of a message that is too large. -/
def SilentSources (sources : UreqError → List String) : Prop :=
  ∀ err, isPayloadTooLargeError ((sources err).map Cause.message) = false

theorem ureqChain_retryable {sources : UreqError → List String} (silent : SilentSources sources) {err : UreqError}
    (again : isRetryableError err = true) : isPayloadTooLargeError (ureqChain sources err) = false := by
  have cause : err.cause.payloadTooLarge = false := by
    cases err with
    | transport text => rfl
    | status code url =>
      unfold UreqError.cause Cause.payloadTooLarge
      rw [beq_eq_false_iff_ne]
      rintro rfl
      cases again
  have rest := silent err
  unfold isPayloadTooLargeError at rest ⊢
  rw [ureqChain, List.any_cons, cause, rest]
  rfl

theorem isRetryableP2pRequestError_tooLarge {err : Error} (again : isRetryableP2pRequestError err = true) :
    isPayloadTooLargeError err = false := by
  unfold isRetryableP2pRequestError at again
  split at again
  · cases again
  · rename_i fits
    simpa using fits

/-- Both loops of the client run the same way. -/
theorem p2pLoop_contract {α : Type} (policy : RequestRetryPolicy) (operation : Nat → Except Error α) :
    RetryContract (fun attempt => settles isRetryableP2pRequestError (operation attempt)) operation policy.attempts
      (retryLoop isRetryableP2pRequestError operation policy.attempts policy.attempts 0 none) := by
  have bound : max policy.attempts 1 = policy.attempts := Nat.max_eq_left policy.positive
  rw [retryLoop_eq policy.positive]
  refine ⟨by rw [bound], rfl, ?_⟩
  intro attempt err before failed
  have unsettled := before_settledAt before
  rw [failed] at unsettled
  exact isRetryableP2pRequestError_tooLarge (by simpa [settles] using unsettled)

theorem requestWithRetry_contract {sources : UreqError → List String} (silent : SilentSources sources) {α : Type}
    (attempts : Nat) (f : Nat → Except UreqError α) :
    RetryContract (fun attempt => settles isRetryableError (f attempt))
      (fun attempt => (f attempt).mapError (ureqChain sources)) attempts
      (requestWithRetryRun sources attempts f) := by
  have positive : 1 ≤ max attempts 1 := Nat.le_max_right attempts 1
  unfold requestWithRetryRun
  dsimp only
  rw [retryLoop_eq positive]
  refine ⟨rfl, rfl, ?_⟩
  intro attempt err before failed
  have unsettled := before_settledAt before
  cases outcome : f attempt with
  | ok value =>
    rw [outcome] at failed
    cases failed
  | error cause =>
    rw [outcome] at failed unsettled
    cases failed
    exact ureqChain_retryable silent (by simpa [settles] using unsettled)

/-- `request_with_retry`, `pull_batch_with_retries` and `push_batch_with_retries` keep the contract. -/
theorem retries_keep_contract {sources : UreqError → List String} (silent : SilentSources sources) :
    (∀ (α : Type) (attempts : Nat) (f : Nat → Except UreqError α),
      RetryContract (fun attempt => settles isRetryableError (f attempt))
        (fun attempt => (f attempt).mapError (ureqChain sources)) attempts
        (requestWithRetryRun sources attempts f)) ∧
    (∀ (policy : RequestRetryPolicy) (pullBatchOnce : Nat → Except Error PullBatch),
      RetryContract (fun attempt => settles isRetryableP2pRequestError (pullBatchOnce attempt)) pullBatchOnce
        policy.attempts (pullBatchWithRetriesRun policy pullBatchOnce)) ∧
    (∀ (policy : RequestRetryPolicy) (pushBatchOnce : Nat → List Entry → Except Error Unit)
      (entries : List Entry), entries ≠ [] →
      RetryContract (fun attempt => settles isRetryableP2pRequestError (pushBatchOnce attempt entries))
        (fun attempt => pushBatchOnce attempt entries) policy.attempts
        (pushBatchWithRetriesRun policy pushBatchOnce entries)) := by
  refine ⟨fun α => requestWithRetry_contract silent, fun policy => p2pLoop_contract policy, ?_⟩
  intro policy pushBatchOnce entries nonempty
  have some_entry : entries.isEmpty = false := by simpa using nonempty
  unfold pushBatchWithRetriesRun
  rw [some_entry, if_neg (by simp)]
  exact p2pLoop_contract policy _

def refusedSources : UreqError → List String
  | .transport _ => ["Connection refused (os error 111)"]
  | .status _ _ => []

/-- A connection that is refused once and then answered with a status that is not retried. -/
theorem retries_keep_contract_refused :
    (requestWithRetryRun refusedSources transportAttempts fun attempt =>
      (if attempt = 0 then .error (.transport "Connection refused") else .error (.status 413 "http://a") :
        Except UreqError Unit)).2 = 2 := by
  have silent : SilentSources refusedSources := by
    intro err
    cases err with
    | transport text => show isPayloadTooLargeError [.message "Connection refused (os error 111)"] = false; decide
    | status code url => rfl
  have contract := (retries_keep_contract silent).1 Unit transportAttempts fun attempt =>
    if attempt = 0 then .error (.transport "Connection refused") else .error (.status 413 "http://a")
  rw [contract.calls]
  decide

end Rustory
