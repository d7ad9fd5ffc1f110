import Rustory.Cli.AsyncUpload

namespace Rustory

def computeNextDueInSec (nowUnix : Int) (lastTriggerUnix : Option Int) (intervalSec : UInt64) : UInt64 :=
  match lastTriggerUnix with
  | none => 0
  | some last =>
    -- i64::try_from(interval_sec).unwrap_or(i64::MAX)
    let interval : Int := min intervalSec.toNat maxI64
    let elapsed := max (saturatingSub nowUnix last) 0
    let remaining := max (saturatingSub interval elapsed) 0
    .ofNat remaining.toNat

/-- How far the marker lies in the future. -/
def aheadSec (nowUnix : Int) : Option Int → Nat
  | none => 0
  | some last => (last - nowUnix).toNat

theorem shouldTriggerInterval_some (nowUnix last : Int) (minIntervalSec : UInt64) :
    shouldTriggerInterval nowUnix (some last) minIntervalSec = true ↔
      min (minIntervalSec.toNat : Int) maxI64 ≤ nowUnix - last := by
  simp only [shouldTriggerInterval, decide_eq_true_iff]
  unfold saturatingSub minI64 maxI64
  omega

theorem computeNextDueInSec_some (nowUnix last : Int) (intervalSec : UInt64) :
    ((computeNextDueInSec nowUnix (some last) intervalSec).toNat : Int) =
      max (min (intervalSec.toNat : Int) maxI64 - max (nowUnix - last) 0) 0 := by
  have range : (max (saturatingSub (min (intervalSec.toNat : Int) maxI64) (max (saturatingSub nowUnix last) 0))
      0).toNat < 2 ^ 64 := by
    unfold saturatingSub minI64 maxI64
    omega
  simp only [computeNextDueInSec, UInt64.toNat_ofNat_of_lt' range]
  unfold saturatingSub minI64 maxI64
  omega

/-- The scheduler triggers from the time that the doctor shows on, or later by as much as the marker lies ahead. -/
theorem shouldTriggerInterval_from {nowUnix later : Int} (lastTriggerUnix : Option Int) (intervalSec : UInt64)
    (after : nowUnix ≤ later) :
    shouldTriggerInterval later lastTriggerUnix intervalSec = true ↔
      nowUnix + (computeNextDueInSec nowUnix lastTriggerUnix intervalSec).toNat +
        aheadSec nowUnix lastTriggerUnix ≤ later := by
  cases lastTriggerUnix with
  | none =>
    have due : computeNextDueInSec nowUnix none intervalSec = 0 := rfl
    have here : aheadSec nowUnix none = 0 := rfl
    rw [due, here]
    simp [shouldTriggerInterval, after]
  | some last =>
    have capped : 0 ≤ min (intervalSec.toNat : Int) maxI64 := by
      unfold maxI64
      omega
    have ahead : aheadSec nowUnix (some last) = (last - nowUnix).toNat := rfl
    rw [shouldTriggerInterval_some, computeNextDueInSec_some, ahead]
    omega

/-- Nothing is due before the time that the doctor shows; at that time a trigger is due unless its marker
    lies in the future. -/
theorem next_due_agrees (nowUnix : Int) (lastTriggerUnix : Option Int) (intervalSec : UInt64) :
    (∀ k < (computeNextDueInSec nowUnix lastTriggerUnix intervalSec).toNat,
      shouldTriggerInterval (nowUnix + k) lastTriggerUnix intervalSec = false) ∧
    (shouldTriggerInterval (nowUnix + (computeNextDueInSec nowUnix lastTriggerUnix intervalSec).toNat)
      lastTriggerUnix intervalSec = true ↔ ∀ last, lastTriggerUnix = some last → last ≤ nowUnix) := by
  constructor
  · intro k before
    have after : nowUnix ≤ nowUnix + k := by omega
    rw [← Bool.not_eq_true, shouldTriggerInterval_from lastTriggerUnix intervalSec after]
    omega
  · have after : nowUnix ≤ nowUnix + (computeNextDueInSec nowUnix lastTriggerUnix intervalSec).toNat := by omega
    rw [shouldTriggerInterval_from lastTriggerUnix intervalSec after]
    cases lastTriggerUnix with
    | none => simp [aheadSec]
    | some last =>
      simp only [aheadSec, Option.some.injEq, forall_eq']
      omega

/-- A marker ten seconds ahead: the doctor promises a time at which nothing is due. -/
theorem next_due_too_early :
    computeNextDueInSec 100 (some 110) 15 = 15 ∧ shouldTriggerInterval (100 + 15) (some 110) 15 = false := by
  decide

end Rustory
