import Mathlib.Algebra.Order.BigOperators.Group.Finset
import Rustory.Foundations.Retry

namespace Foundations

variable {σ ε α : Type*}

/-- Attempts that share a state, numbered from `attempt`, with `left` more of them allowed. What lies between
    an attempt and the next one changes the state as well. -/
def retryBetween (retryable : ε → Bool) (operation : Nat → σ → Except ε α × σ) (between : Nat → σ → σ) :
    Nat → Nat → σ → Except ε α × σ
  | 0, attempt, state => operation attempt state
  | left + 1, attempt, state =>
    match operation attempt state with
    | (.ok value, state) => (.ok value, state)
    | (.error err, state) =>
      if retryable err then
        retryBetween retryable operation between left (attempt + 1) (between attempt state)
      else
        (.error err, state)

/-- What an attempt starts from when all attempts before it have failed. -/
def stateBefore (operation : Nat → σ → Except ε α × σ) (between : Nat → σ → σ) (start : σ) : Nat → σ
  | 0 => start
  | attempt + 1 => between attempt (operation attempt (stateBefore operation between start attempt)).2

section

variable {retryable : ε → Bool} {operation : Nat → σ → Except ε α × σ} {between : Nat → σ → σ}

/-- The outcomes of the attempts decide like those of a loop without a state. -/
theorem retryBetween_fst (start : σ) (left attempt : Nat) :
    (retryBetween retryable operation between left attempt (stateBefore operation between start attempt)).1 =
      retry retryable (fun attempt => (operation attempt (stateBefore operation between start attempt)).1) left
        attempt := by
  induction left generalizing attempt with
  | zero => rfl
  | succ left ih =>
    have next := ih (attempt + 1)
    rw [retryBetween, retry]
    rw [stateBefore] at next
    cases ended : operation attempt (stateBefore operation between start attempt) with
    | mk outcome state =>
      rw [ended] at next
      cases outcome with
      | ok value => rfl
      | error err =>
        dsimp only
        split
        · exact next
        · rfl

/-- What holds before each attempt, and what then holds at the end: the attempts up to `last` lead from the one
    to the other. -/
structure AttemptRule (retryable : ε → Bool) (operation : Nat → σ → Except ε α × σ) (between : Nat → σ → σ)
    (last : Nat) (before : Nat → σ → Prop) (after : Except ε α → σ → Prop) : Prop where
  ok : ∀ attempt state value next, attempt ≤ last → before attempt state →
    operation attempt state = (.ok value, next) → after (.ok value) next
  error : ∀ attempt state err next, attempt ≤ last → before attempt state →
    operation attempt state = (.error err, next) → attempt = last ∨ retryable err = false → after (.error err) next
  again : ∀ attempt state err next, attempt < last → before attempt state →
    operation attempt state = (.error err, next) → retryable err = true →
    before (attempt + 1) (between attempt next)

theorem AttemptRule.run {last : Nat} {before : Nat → σ → Prop} {after : Except ε α → σ → Prop}
    (rule : AttemptRule retryable operation between last before after) {left attempt : Nat} {state : σ}
    (count : attempt + left = last) (start : before attempt state) :
    after (retryBetween retryable operation between left attempt state).1
      (retryBetween retryable operation between left attempt state).2 := by
  induction left generalizing attempt state with
  | zero =>
    rw [retryBetween]
    cases ended : operation attempt state with
    | mk outcome next =>
      cases outcome with
      | ok value => exact rule.ok attempt state value next (by omega) start ended
      | error err => exact rule.error attempt state err next (by omega) start ended (Or.inl (by omega))
  | succ left ih =>
    rw [retryBetween]
    cases ended : operation attempt state with
    | mk outcome next =>
      cases outcome with
      | ok value => exact rule.ok attempt state value next (by omega) start ended
      | error err =>
        dsimp only
        split
        · rename_i worth
          exact ih (by omega) (rule.again attempt state err next (by omega) start ended worth)
        · rename_i hopeless
          exact rule.error attempt state err next (by omega) start ended (Or.inr (eq_false_of_ne_true hopeless))

/-- The cost of a state grows by the budget at most. -/
def Costs (cost : σ → Nat) (budget : Nat) (operation : σ → Except ε α × σ) : Prop :=
  ∀ state, cost (operation state).2 ≤ cost state + budget

/-- All attempts and all that lies between them, at the worst. -/
theorem costs_retryBetween {cost : σ → Nat} {budget pause : Nat → Nat}
    (costs : ∀ attempt, Costs cost (budget attempt) (operation attempt))
    (pauses : ∀ attempt state, cost (between attempt state) ≤ cost state + pause attempt) (left : Nat) :
    Costs cost (∑ attempt ∈ Finset.range (left + 1), budget attempt + ∑ attempt ∈ Finset.range left, pause attempt)
      (retryBetween retryable operation between left 0) := by
  intro start
  let spent (attempt : Nat) : Nat :=
    ∑ earlier ∈ Finset.range attempt, budget earlier + ∑ earlier ∈ Finset.range attempt, pause earlier
  have total : ∀ attempt ≤ left, spent attempt + budget attempt ≤
      ∑ attempt ∈ Finset.range (left + 1), budget attempt + ∑ attempt ∈ Finset.range left, pause attempt := by
    intro attempt inside
    have budgets := Finset.sum_range_succ budget attempt
    have attempts : ∑ earlier ∈ Finset.range (attempt + 1), budget earlier ≤
        ∑ earlier ∈ Finset.range (left + 1), budget earlier :=
      Finset.sum_le_sum_of_subset (Finset.range_mono (by omega))
    have between : ∑ earlier ∈ Finset.range attempt, pause earlier ≤ ∑ earlier ∈ Finset.range left, pause earlier :=
      Finset.sum_le_sum_of_subset (Finset.range_mono inside)
    show ∑ earlier ∈ Finset.range attempt, budget earlier + ∑ earlier ∈ Finset.range attempt, pause earlier +
      budget attempt ≤ _
    omega
  have rule : AttemptRule retryable operation between left
      (fun attempt state => cost state ≤ cost start + spent attempt) (fun _ state => cost state ≤ cost start +
        (∑ attempt ∈ Finset.range (left + 1), budget attempt + ∑ attempt ∈ Finset.range left, pause attempt)) := by
    have ends : ∀ attempt state outcome next, attempt ≤ left → cost state ≤ cost start + spent attempt →
        operation attempt state = (outcome, next) → cost next ≤ cost start + spent attempt + budget attempt := by
      intro attempt state outcome next inside before ended
      have here : cost (operation attempt state).2 ≤ cost state + budget attempt := costs attempt state
      rw [ended] at here
      dsimp only at here
      omega
    refine ⟨?_, ?_, ?_⟩
    · intro attempt state value next inside before ended
      have here := ends attempt state _ next inside before ended
      have all := total attempt inside
      omega
    · intro attempt state err next inside before ended _
      have here := ends attempt state _ next inside before ended
      have all := total attempt inside
      omega
    · intro attempt state err next inside before ended _
      have here := ends attempt state _ next (by omega) before ended
      have rest := pauses attempt next
      have budgets := Finset.sum_range_succ budget attempt
      have breaks := Finset.sum_range_succ pause attempt
      show cost (between attempt next) ≤ cost start +
        (∑ earlier ∈ Finset.range (attempt + 1), budget earlier + ∑ earlier ∈ Finset.range (attempt + 1), pause earlier)
      have same : spent attempt = ∑ earlier ∈ Finset.range attempt, budget earlier +
        ∑ earlier ∈ Finset.range attempt, pause earlier := rfl
      omega
  exact rule.run (Nat.zero_add left) (Nat.le_add_right (cost start) _)

end

end Foundations
