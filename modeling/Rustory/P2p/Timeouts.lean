import Rustory.P2p.Client

namespace Rustory

/-! `std::time::Duration`, in nanoseconds. -/

/-- The seconds are a `u64`. -/
def durationLimit : Nat := 2 ^ 64 * 10 ^ 9

@[ext]
structure Duration where
  nanos : Nat
  fits : nanos < durationLimit
  deriving DecidableEq

namespace Duration

instance : LE Duration := ⟨fun a b => a.nanos ≤ b.nanos⟩

instance : LT Duration := ⟨fun a b => a.nanos < b.nanos⟩

instance (a b : Duration) : Decidable (a ≤ b) := inferInstanceAs (Decidable (a.nanos ≤ b.nanos))

instance (a b : Duration) : Decidable (a < b) := inferInstanceAs (Decidable (a.nanos < b.nanos))

theorem le_iff {a b : Duration} : a ≤ b ↔ a.nanos ≤ b.nanos := Iff.rfl

theorem lt_iff {a b : Duration} : a < b ↔ a.nanos < b.nanos := Iff.rfl

def fromSecs (secs : UInt64) : Duration where
  nanos := secs.toNat * 10 ^ 9
  fits := Nat.mul_lt_mul_of_pos_right secs.toNat_lt (by decide)

def fromMillis (millis : UInt64) : Duration where
  nanos := millis.toNat * 10 ^ 6
  fits := by
    have small := millis.toNat_lt
    unfold durationLimit
    omega

theorem fromSecs_le {a b : UInt64} : fromSecs a ≤ fromSecs b ↔ a ≤ b := by
  rw [le_iff, UInt64.le_iff_toNat_le]
  exact Nat.mul_le_mul_right_iff (by decide)

def checkedMul (duration : Duration) (rhs : UInt32) : Option Duration :=
  if fits : duration.nanos * rhs.toNat < durationLimit then some ⟨duration.nanos * rhs.toNat, fits⟩ else none

end Duration

/-- `u32::checked_shl` -/
def checkedShl (value bits : UInt32) : Option UInt32 := if bits < 32 then some (value <<< bits) else none

def expFactor (attempt : UInt32) : UInt32 := (checkedShl 1 attempt).getD 4294967295

/-- `exp_duration`, the same for requests over HTTP and between peers. -/
def expDuration (base : Duration) (attempt : UInt32) (cap : Option Duration) : Duration :=
  let got := (base.checkedMul (expFactor attempt)).getD base
  match cap with
  | some cap => if cap < got then cap else got
  | none => got

/-! The factor of an attempt. -/

theorem expFactor_low {attempt : UInt32} (low : attempt ≤ 31) : (expFactor attempt).toNat = 2 ^ attempt.toNat := by
  have bound : attempt.toNat < 32 := Nat.lt_succ_of_le (UInt32.le_iff_toNat_le.mp low)
  have inside : attempt < 32 := UInt32.lt_iff_toNat_lt.mpr bound
  have power : 2 ^ attempt.toNat < 2 ^ 32 := Nat.pow_lt_pow_right (by decide) bound
  rw [expFactor, checkedShl, if_pos inside, Option.getD_some, UInt32.toNat_shiftLeft]
  change 1 <<< (attempt.toNat % 32) % 2 ^ 32 = 2 ^ attempt.toNat
  rw [Nat.mod_eq_of_lt bound, Nat.one_shiftLeft, Nat.mod_eq_of_lt power]

theorem expFactor_high {attempt : UInt32} (high : 31 < attempt) : (expFactor attempt).toNat = 2 ^ 32 - 1 := by
  have bound : 31 < attempt.toNat := UInt32.lt_iff_toNat_lt.mp high
  have outside : ¬ attempt < 32 := fun inside => Nat.not_lt.mpr bound (UInt32.lt_iff_toNat_lt.mp inside)
  rw [expFactor, checkedShl, if_neg outside]
  rfl

theorem expFactor_le (attempt : UInt32) : (expFactor attempt).toNat ≤ 2 ^ 32 - 1 := by
  have small := (expFactor attempt).toNat_lt
  omega

theorem expFactor_pos (attempt : UInt32) : 1 ≤ (expFactor attempt).toNat := by
  by_cases low : attempt ≤ 31
  · rw [expFactor_low low]
    exact Nat.one_le_two_pow
  · rw [expFactor_high (UInt32.not_le.mp low)]
    decide

theorem expFactor_mono {a b : UInt32} (order : a ≤ b) : (expFactor a).toNat ≤ (expFactor b).toNat := by
  by_cases low : b ≤ 31
  · rw [expFactor_low low, expFactor_low (UInt32.le_trans order low)]
    exact Nat.pow_le_pow_right (by decide) (UInt32.le_iff_toNat_le.mp order)
  · rw [expFactor_high (UInt32.not_le.mp low)]
    exact expFactor_le a

/-! What an attempt waits for. -/

section

variable {base cap : Duration} {attempt : UInt32}

theorem expDuration_le_cap : expDuration base attempt (some cap) ≤ cap := by
  unfold expDuration
  dsimp only
  split
  · exact Nat.le_refl cap.nanos
  · rename_i below
    exact Nat.le_of_not_lt below

theorem expDuration_fits (fits : base.nanos * (expFactor attempt).toNat < durationLimit) :
    (expDuration base attempt (some cap)).nanos = min (base.nanos * (expFactor attempt).toNat) cap.nanos := by
  unfold expDuration Duration.checkedMul
  rw [dif_pos fits, Option.getD_some]
  dsimp only
  split
  · rename_i above
    rw [Duration.lt_iff] at above
    exact (Nat.min_eq_right (Nat.le_of_lt above)).symm
  · rename_i below
    rw [Duration.lt_iff] at below
    exact (Nat.min_eq_left (Nat.le_of_not_lt below)).symm

/-- A product that does not fit is replaced by the base, not by the cap. -/
theorem expDuration_overflows (ordered : base ≤ cap)
    (overflows : durationLimit ≤ base.nanos * (expFactor attempt).toNat) :
    expDuration base attempt (some cap) = base := by
  unfold expDuration Duration.checkedMul
  rw [dif_neg (Nat.not_lt.mpr overflows), Option.getD_none]
  dsimp only
  exact if_neg (Nat.not_lt.mpr ordered)

theorem expDuration_level : expDuration base attempt (some base) = base := by
  have positive := expFactor_pos attempt
  by_cases fits : base.nanos * (expFactor attempt).toNat < durationLimit
  · apply Duration.ext
    rw [expDuration_fits fits]
    exact Nat.min_eq_right (Nat.le_mul_of_pos_right base.nanos positive)
  · exact expDuration_overflows (Nat.le_refl base.nanos) (Nat.le_of_not_lt fits)

end

/-- Timeouts never shrink and stay under the cap; up to attempt 31 they double. -/
structure Escalates (base cap : Duration) : Prop where
  grows : ∀ a b : UInt32, a ≤ b → expDuration base a (some cap) ≤ expDuration base b (some cap)
  capped : ∀ attempt, expDuration base attempt (some cap) ≤ cap
  doubles : ∀ attempt ≤ 31,
    (expDuration base attempt (some cap)).nanos = min (base.nanos * 2 ^ attempt.toNat) cap.nanos

theorem Escalates.level (base : Duration) : Escalates base base where
  grows := by
    intro a b order
    rw [expDuration_level, expDuration_level]
    exact Nat.le_refl base.nanos
  capped attempt := expDuration_le_cap
  doubles := by
    intro attempt low
    rw [expDuration_level]
    exact (Nat.min_eq_right (Nat.le_mul_of_pos_right base.nanos (Nat.two_pow_pos _))).symm

/-- Where the largest factor fits, so does every other. -/
theorem Escalates.of_fits {base : Duration} (fits : base.nanos * (2 ^ 32 - 1) < durationLimit) (cap : Duration) :
    Escalates base cap := by
  have all : ∀ attempt, base.nanos * (expFactor attempt).toNat < durationLimit := by
    intro attempt
    exact Nat.lt_of_le_of_lt (Nat.mul_le_mul_left base.nanos (expFactor_le attempt)) fits
  refine ⟨?_, fun attempt => expDuration_le_cap, ?_⟩
  · intro a b order
    have factors := Nat.mul_le_mul_left base.nanos (expFactor_mono order)
    rw [Duration.le_iff, expDuration_fits (all a), expDuration_fits (all b)]
    omega
  · intro attempt low
    rw [expDuration_fits (all attempt), expFactor_low low]

/-- Attempt 32 falls back to the base, under attempt 31 unless that fell back itself. -/
theorem Escalates.fits {base cap : Duration} (below : base < cap) (escalates : Escalates base cap) :
    base.nanos * (2 ^ 32 - 1) < durationLimit := by
  by_contra overflows
  have fallback : expDuration base 32 (some cap) = base := by
    apply expDuration_overflows (Nat.le_of_lt below)
    rw [expFactor_high (by decide)]
    exact Nat.le_of_not_lt overflows
  have grown := escalates.grows 31 32 (by decide)
  rw [fallback, Duration.le_iff, escalates.doubles 31 (by decide)] at grown
  have power : 2 ^ (31 : UInt32).toNat = 2147483648 := by decide
  rw [power] at grown
  rw [Duration.lt_iff] at below
  unfold durationLimit at overflows
  omega

theorem escalates_iff {base cap : Duration} (ordered : base ≤ cap) :
    Escalates base cap ↔ base = cap ∨ base.nanos * (2 ^ 32 - 1) < durationLimit := by
  constructor
  · intro escalates
    by_cases below : base < cap
    · exact Or.inr (escalates.fits below)
    · exact Or.inl (Duration.ext (Nat.le_antisymm ordered (Nat.le_of_not_lt below)))
  · rintro (rfl | fits)
    · exact Escalates.level base
    · exact Escalates.of_fits fits cap

/-! The policy of a client, with its durations. -/

structure TimedRetryPolicy extends RequestRetryPolicy where
  timeoutBase : Duration
  timeoutCap : Duration
  backoffBase : Duration
  ordered : timeoutBase ≤ timeoutCap

def TimedRetryPolicy.default : TimedRetryPolicy where
  toRequestRetryPolicy := .default
  timeoutBase := .fromSecs 5
  timeoutCap := .fromSecs 30
  backoffBase := .fromMillis 200
  ordered := by decide

/-- The timeout in `pull_batch_with_retries` and `push_batch_with_retries`, with `attempt as u32`. -/
def TimedRetryPolicy.timeout (policy : TimedRetryPolicy) (attempt : Nat) : Duration :=
  expDuration policy.timeoutBase (.ofNat attempt) (some policy.timeoutCap)

theorem TimedRetryPolicy.timeout_mono {policy : TimedRetryPolicy}
    (escalates : Escalates policy.timeoutBase policy.timeoutCap) {earlier later : Nat} (order : earlier ≤ later)
    (counted : later < 2 ^ 32) : policy.timeout earlier ≤ policy.timeout later := by
  apply escalates.grows
  rw [UInt32.le_iff_toNat_le, UInt32.toNat_ofNat_of_lt' counted,
    UInt32.toNat_ofNat_of_lt' (Nat.lt_of_le_of_lt order counted)]
  exact order

end Rustory
