import Mathlib.Data.List.Range
import Mathlib.Tactic.TypeStar

namespace Foundations

variable {ε α : Type*}

/-- Attempts numbered from `attempt`, with `left` more of them allowed. -/
def retry (retryable : ε → Bool) (operation : Nat → Except ε α) : Nat → Nat → Except ε α
  | 0, attempt => operation attempt
  | left + 1, attempt =>
    match operation attempt with
    | .ok value => .ok value
    | .error err => if retryable err then retry retryable operation left (attempt + 1) else .error err

theorem retry_const (retryable : ε → Bool) (outcome : Except ε α) (left attempt : Nat) :
    retry retryable (fun _ => outcome) left attempt = outcome := by
  induction left generalizing attempt with
  | zero => rfl
  | succ left ih =>
    cases outcome with
    | ok value => rfl
    | error err =>
      simp only [retry, ih]
      exact ite_self _

/-- The same loop over an operation that changes a state. -/
def retryOn {σ : Type*} (retryable : ε → Bool) (operation : Nat → σ → Except ε α × σ) :
    Nat → Nat → σ → Except ε α × σ
  | 0, attempt, state => operation attempt state
  | left + 1, attempt, state =>
    match operation attempt state with
    | (.ok value, state) => (.ok value, state)
    | (.error err, state) =>
      if retryable err then retryOn retryable operation left (attempt + 1) state else (.error err, state)

/-- An operation that always ends the same way, and that changes nothing when it fails, is as good as done once. -/
theorem retryOn_const {σ : Type*} (retryable : ε → Bool) {operation : Nat → σ → Except ε α × σ}
    {outcome : Except ε α} (same : ∀ attempt state, (operation attempt state).1 = outcome)
    (still : ∀ err, outcome = .error err → ∀ attempt state, (operation attempt state).2 = state)
    (left attempt : Nat) (state : σ) :
    retryOn retryable operation left attempt state = (outcome, (operation attempt state).2) := by
  induction left generalizing attempt with
  | zero => exact Prod.ext (same attempt state) rfl
  | succ left ih =>
    cases outcome with
    | ok value =>
      have here : operation attempt state = (.ok value, (operation attempt state).2) :=
        Prod.ext (same attempt state) rfl
      rw [retryOn, here]
    | error err =>
      have unchanged := still err rfl
      have here : operation attempt state = (.error err, state) :=
        Prod.ext (same attempt state) (unchanged attempt state)
      rw [retryOn, here]
      dsimp only
      split
      · rw [ih, unchanged]
      · rfl

/-! The loop that keeps the last error, with the number of its calls. -/

/-- How a retry loop ends: a `return` in its body, or its last turn. -/
inductive RetryExit (ε α : Type*)
  | returned (result : Except ε α)
  | ranOut (lastErr : Option ε)

def RetryExit.mapError {ε' : Type*} (f : ε → ε') : RetryExit ε α → RetryExit ε' α
  | .returned result => .returned (result.mapError f)
  | .ranOut lastErr => .ranOut (lastErr.map f)

def retryLoop (retryable : ε → Bool) (operation : Nat → Except ε α) (attempts : Nat) :
    Nat → Nat → Option ε → RetryExit ε α × Nat
  | 0, _, lastErr => (.ranOut lastErr, 0)
  | left + 1, attempt, _ =>
    match operation attempt with
    | .ok value => (.returned (.ok value), 1)
    | .error err =>
      if !retryable err || decide (attempts ≤ attempt + 1) then
        (.returned (.error err), 1)
      else
        let (exit, calls) := retryLoop retryable operation attempts left (attempt + 1) (some err)
        (exit, calls + 1)

/-- The outcome is not worth another attempt. -/
def settles (retryable : ε → Bool) : Except ε α → Bool
  | .ok _ => true
  | .error err => !retryable err

/-- The position of the first attempt that settles, counted from 1, or the last one that is allowed. -/
def settledAt (settled : Nat → Bool) (attempts : Nat) : Nat :=
  match (List.range attempts).find? settled with
  | some attempt => attempt + 1
  | none => attempts

variable {retryable : ε → Bool} {operation : Nat → Except ε α} {settled : Nat → Bool} {attempts : Nat}

/-- Whatever settles comes after all that does not. -/
theorem le_of_open {first count : Nat} (settles : settled first = true) (open_ : ∀ i < count, settled i = false) :
    count ≤ first := by
  by_contra early
  have unsettled := open_ first (by omega)
  rw [settles] at unsettled
  cases unsettled

theorem settledAt_cases (settled : Nat → Bool) (attempts : Nat) :
    (∃ first < attempts, settled first = true ∧ (∀ i < first, settled i = false) ∧
      settledAt settled attempts = first + 1) ∨
    (∀ i < attempts, settled i = false) ∧ settledAt settled attempts = attempts := by
  unfold settledAt
  split
  · rename_i first found
    rw [List.find?_range_eq_some] at found
    obtain ⟨settles, inside, earlier⟩ := found
    exact Or.inl ⟨first, List.mem_range.mp inside, settles, fun i before => by simpa using earlier i before, rfl⟩
  · rename_i none
    rw [List.find?_range_eq_none] at none
    exact Or.inr ⟨fun i inside => by simpa using none i inside, rfl⟩

theorem before_settledAt {attempt : Nat} (before : attempt + 1 < settledAt settled attempts) :
    settled attempt = false := by
  rcases settledAt_cases settled attempts with ⟨first, -, -, earlier, position⟩ | ⟨none, position⟩
  · exact earlier attempt (by omega)
  · exact none attempt (by omega)

theorem le_settledAt {attempt : Nat} (inside : attempt ≤ attempts) (open_ : ∀ i < attempt, settled i = false) :
    attempt ≤ settledAt settled attempts := by
  rcases settledAt_cases settled attempts with ⟨first, -, settles, -, position⟩ | ⟨-, position⟩
  · have late := le_of_open settles open_
    omega
  · omega

theorem settledAt_here {attempt : Nat} (inside : attempt < attempts) (open_ : ∀ i < attempt, settled i = false)
    (here : settled attempt = true ∨ attempts ≤ attempt + 1) : settledAt settled attempts = attempt + 1 := by
  rcases settledAt_cases settled attempts with ⟨first, allowed, settles, earlier, position⟩ | ⟨none, position⟩
  · have late := le_of_open settles open_
    rcases here with settled_here | last
    · have soon := le_of_open settled_here earlier
      omega
    · omega
  · rcases here with settled_here | last
    · have late := le_of_open settled_here none
      omega
    · omega

/-- From the attempt at which all before it did not settle, the loop goes on to the one that settles. -/
theorem retryLoop_from {left attempt : Nat} (count : attempt + left = attempts) (some_left : 1 ≤ left)
    (open_ : ∀ i < attempt, settles retryable (operation i) = false) (lastErr : Option ε) :
    retryLoop retryable operation attempts left attempt lastErr =
      (.returned (operation (settledAt (fun i => settles retryable (operation i)) attempts - 1)),
        settledAt (fun i => settles retryable (operation i)) attempts - attempt) := by
  induction left generalizing attempt lastErr with
  | zero => omega
  | succ left ih =>
    have ends : settles retryable (operation attempt) = true ∨ attempts ≤ attempt + 1 →
        settledAt (fun i => settles retryable (operation i)) attempts = attempt + 1 :=
      settledAt_here (by omega) open_
    rw [retryLoop]
    cases outcome : operation attempt with
    | ok value =>
      rw [ends (Or.inl (by rw [outcome]; rfl)), Nat.add_sub_cancel, Nat.add_sub_cancel_left, outcome]
    | error err =>
      dsimp only
      split
      · rename_i stops
        have here : settles retryable (operation attempt) = true ∨ attempts ≤ attempt + 1 := by
          rw [outcome]
          simpa [settles] using stops
        rw [ends here, Nat.add_sub_cancel, Nat.add_sub_cancel_left, outcome]
      · rename_i goes
        rw [Bool.not_eq_true, Bool.or_eq_false_iff, decide_eq_false_iff_not] at goes
        have open_' : ∀ i < attempt + 1, settles retryable (operation i) = false := by
          intro i before
          rcases Nat.lt_succ_iff_lt_or_eq.mp before with earlier | same
          · exact open_ i earlier
          · rw [same, outcome]
            exact goes.1
        have past := @le_settledAt (fun i => settles retryable (operation i)) attempts _ (by omega) open_'
        rw [ih (by omega) (by omega) open_']
        simp only [Prod.mk.injEq, true_and]
        omega

theorem retryLoop_eq (positive : 1 ≤ attempts) :
    retryLoop retryable operation attempts attempts 0 none =
      (.returned (operation (settledAt (fun i => settles retryable (operation i)) attempts - 1)),
        settledAt (fun i => settles retryable (operation i)) attempts) :=
  retryLoop_from (Nat.zero_add attempts) positive (fun i before => absurd before (Nat.not_lt_zero i)) none

/-- The loop returns what `retry` does. -/
theorem retryLoop_retry {left attempt : Nat} (count : attempt + left + 1 = attempts) (lastErr : Option ε) :
    (retryLoop retryable operation attempts (left + 1) attempt lastErr).1 =
      .returned (retry retryable operation left attempt) := by
  induction left generalizing attempt lastErr with
  | zero =>
    rw [retryLoop, retry]
    cases operation attempt with
    | ok value => rfl
    | error err => simp [← count]
  | succ left ih =>
    rw [retryLoop, retry]
    cases operation attempt with
    | ok value => rfl
    | error err =>
      have more : ¬ attempts ≤ attempt + 1 := by omega
      cases again : retryable err with
      | false => simp [again]
      | true =>
        simp only [again, more, Bool.not_true, decide_false, Bool.or_self, Bool.false_eq_true, if_false, if_true]
        exact ih (by omega) (some err)

end Foundations
