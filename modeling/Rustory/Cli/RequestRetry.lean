import Rustory.Config.ReadBack
import Rustory.P2p.Timeouts

namespace Rustory

open Config

/-! `str::parse::<u64>` -/

/-- The digits are read until one of them does not fit or is none. -/
def parseDigit (value : Nat) (c : Char) : Except String Nat :=
  if !c.isDigit then
    .error "invalid digit found in string"
  else
    let next := value * 10 + (c.toNat - '0'.toNat)
    if next < 2 ^ 64 then .ok next else .error "number too large to fit in target type"

def parseU64 (text : String) : Except String UInt64 :=
  match text.toList with
  | [] => .error "cannot parse integer from empty string"
  | ['+'] => .error "invalid digit found in string"
  | '+' :: digits => (digits.foldlM parseDigit 0).map UInt64.ofNat
  | digits => (digits.foldlM parseDigit 0).map UInt64.ofNat

/-! `resolve_p2p_request_retry_policy` -/

def parseAttempts (value : UInt64) (label : String) : Except Error RequestRetryPolicy :=
  if zero : value = 0 then
    .error (bail (label ++ " must be >= 1"))
  else
    .ok {
      attempts := value.toNat
      positive := Nat.one_le_iff_ne_zero.mpr fun none => zero (UInt64.toNat_inj.mp none)
    }

section

variable (libs : InitLibs) (env : String → Option String)

def parseSetting (key v : String) : Except Error UInt64 :=
  (parseU64 v).mapError fun e => bail ("invalid " ++ key ++ "=" ++ debug libs (trim v) ++ ": " ++ e)

def resolveAttempts (cli cfg : Option UInt64) : Except Error RequestRetryPolicy :=
  match cli, envNonempty env "RUSTORY_P2P_REQUEST_ATTEMPTS", cfg with
  | some v, _, _ => parseAttempts v "req-attempts"
  | none, some v, _ => do
    let parsed ← parseSetting libs "RUSTORY_P2P_REQUEST_ATTEMPTS" v
    parseAttempts parsed "RUSTORY_P2P_REQUEST_ATTEMPTS"
  | none, none, some v => parseAttempts v "p2p_request_attempts"
  | none, none, none => .ok .default

/-- One of the durations, in the unit that `read` is for. -/
def resolveDuration (read : UInt64 → Duration) (key : String) (cli cfg : Option UInt64) (otherwise : Duration) :
    Except Error Duration :=
  match cli, envNonempty env key, cfg with
  | some v, _, _ => .ok (read v)
  | none, some v, _ => do
    let parsed ← parseSetting libs key v
    return read parsed
  | none, none, some v => .ok (read v)
  | none, none, none => .ok otherwise

/-- A cap under the base is raised to it. -/
def raisedCap (timeoutBase timeoutCap : Duration) : Duration :=
  if timeoutCap < timeoutBase then timeoutBase else timeoutCap

theorem le_raisedCap (timeoutBase timeoutCap : Duration) : timeoutBase ≤ raisedCap timeoutBase timeoutCap := by
  unfold raisedCap
  split
  · exact Nat.le_refl timeoutBase.nanos
  · rename_i above
    exact Nat.le_of_not_lt above

def resolveP2pRequestRetryPolicy (cliAttempts cliTimeoutBaseSec cliTimeoutCapSec cliBackoffBaseMs : Option UInt64)
    (cfg : Config.FileConfig) : Except Error TimedRetryPolicy := do
  let attempts ← resolveAttempts libs env cliAttempts cfg.p2pRequestAttempts
  let timeoutBase ← resolveDuration libs env .fromSecs "RUSTORY_P2P_REQUEST_TIMEOUT_BASE_SEC" cliTimeoutBaseSec
    cfg.p2pRequestTimeoutBaseSec TimedRetryPolicy.default.timeoutBase
  let timeoutCap ← resolveDuration libs env .fromSecs "RUSTORY_P2P_REQUEST_TIMEOUT_CAP_SEC" cliTimeoutCapSec
    cfg.p2pRequestTimeoutCapSec TimedRetryPolicy.default.timeoutCap
  let backoffBase ← resolveDuration libs env .fromMillis "RUSTORY_P2P_REQUEST_BACKOFF_BASE_MS" cliBackoffBaseMs
    cfg.p2pRequestBackoffBaseMs TimedRetryPolicy.default.backoffBase
  return {
    toRequestRetryPolicy := attempts
    timeoutBase := timeoutBase
    timeoutCap := raisedCap timeoutBase timeoutCap
    backoffBase := backoffBase
    ordered := le_raisedCap timeoutBase timeoutCap
  }

end

/-! The timeouts that it can produce. -/

section

variable {libs : InitLibs} {env : String → Option String}

theorem resolveDuration_read {read : UInt64 → Duration} {key : String} {cli cfg : Option UInt64}
    {otherwise duration : Duration} (default : ∃ v, otherwise = read v)
    (resolved : resolveDuration libs env read key cli cfg otherwise = .ok duration) : ∃ v, duration = read v := by
  unfold resolveDuration at resolved
  split at resolved
  · cases resolved
    exact ⟨_, rfl⟩
  · rw [bind_ok] at resolved
    obtain ⟨v, _, produced⟩ := resolved
    cases produced
    exact ⟨v, rfl⟩
  · cases resolved
    exact ⟨_, rfl⟩
  · cases resolved
    exact default

theorem raisedCap_fromSecs (base cap : UInt64) :
    raisedCap (.fromSecs base) (.fromSecs cap) = .fromSecs base ∨
      raisedCap (.fromSecs base) (.fromSecs cap) = .fromSecs cap := by
  unfold raisedCap
  split
  · exact Or.inl rfl
  · exact Or.inr rfl

/-- Timeouts are whole seconds. -/
theorem resolveP2pRequestRetryPolicy_secs
    {cliAttempts cliTimeoutBaseSec cliTimeoutCapSec cliBackoffBaseMs : Option UInt64} {cfg : Config.FileConfig}
    {policy : TimedRetryPolicy} (resolved : resolveP2pRequestRetryPolicy libs env cliAttempts cliTimeoutBaseSec
      cliTimeoutCapSec cliBackoffBaseMs cfg = .ok policy) :
    (∃ secs, policy.timeoutBase = .fromSecs secs) ∧ ∃ secs, policy.timeoutCap = .fromSecs secs := by
  unfold resolveP2pRequestRetryPolicy at resolved
  simp only [bind_ok] at resolved
  obtain ⟨attempts, _, timeoutBase, baseResolved, timeoutCap, capResolved, backoffBase, _, produced⟩ := resolved
  obtain ⟨base, rfl⟩ := resolveDuration_read ⟨5, rfl⟩ baseResolved
  obtain ⟨cap, rfl⟩ := resolveDuration_read ⟨30, rfl⟩ capResolved
  cases produced
  refine ⟨⟨base, rfl⟩, ?_⟩
  rcases raisedCap_fromSecs base cap with raised | kept
  · exact ⟨base, raised⟩
  · exact ⟨cap, kept⟩

/-- The flags produce every pair of a base and a cap that is not under it. -/
theorem resolveP2pRequestRetryPolicy_flags (cfg : Config.FileConfig) {base cap : UInt64} (ordered : base ≤ cap) :
    ∃ policy, resolveP2pRequestRetryPolicy libs env (some 3) (some base) (some cap) (some 200) cfg = .ok policy ∧
      policy.timeoutBase = .fromSecs base ∧ policy.timeoutCap = .fromSecs cap := by
  refine ⟨_, rfl, rfl, if_neg ?_⟩
  exact Nat.not_lt.mpr (Duration.fromSecs_le.mpr ordered)

end

theorem fromSecs_fits {secs : UInt64} :
    (Duration.fromSecs secs).nanos * (2 ^ 32 - 1) < durationLimit ↔ secs ≤ 4294967297 := by
  rw [UInt64.le_iff_toNat_le]
  change secs.toNat * 10 ^ 9 * (2 ^ 32 - 1) < 2 ^ 64 * 10 ^ 9 ↔ secs.toNat ≤ 4294967297
  omega

theorem timeouts_escalate_iff {libs : InitLibs} {env : String → Option String}
    {cliAttempts cliTimeoutBaseSec cliTimeoutCapSec cliBackoffBaseMs : Option UInt64} {cfg : Config.FileConfig}
    {policy : TimedRetryPolicy} (resolved : resolveP2pRequestRetryPolicy libs env cliAttempts cliTimeoutBaseSec
      cliTimeoutCapSec cliBackoffBaseMs cfg = .ok policy) :
    Escalates policy.timeoutBase policy.timeoutCap ↔
      policy.timeoutBase = policy.timeoutCap ∨ policy.timeoutBase ≤ .fromSecs 4294967297 := by
  obtain ⟨⟨secs, base⟩, _⟩ := resolveP2pRequestRetryPolicy_secs resolved
  rw [escalates_iff policy.ordered, base, fromSecs_fits, Duration.fromSecs_le]

/-- Without any setting. -/
theorem timeouts_escalate_default : Escalates (.fromSecs 5) (.fromSecs 30) :=
  (@timeouts_escalate_iff asciiLibs (fun _ => none) none none none none .unset .default rfl).mpr (Or.inr (by decide))

/-- A base of 2^62 seconds under the largest cap: attempt 2 waits half as long as attempt 1. -/
theorem timeout_shrinks :
    ∃ policy, resolveP2pRequestRetryPolicy asciiLibs (fun _ => none) none (some 4611686018427387904)
        (some 18446744073709551615) none .unset = .ok policy ∧
      policy.timeoutBase ≤ policy.timeoutCap ∧ policy.attempts = 3 ∧
      policy.timeout 1 = .fromSecs 9223372036854775808 ∧ policy.timeout 2 = .fromSecs 4611686018427387904 ∧
      ¬ Escalates policy.timeoutBase policy.timeoutCap := by
  refine ⟨_, rfl, by decide +kernel, rfl, by decide +kernel, by decide +kernel, ?_⟩
  intro escalates
  have grown := escalates.grows 1 2 (by decide)
  revert grown
  decide +kernel

end Rustory
