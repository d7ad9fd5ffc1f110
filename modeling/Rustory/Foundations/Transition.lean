import Mathlib.Data.List.Basic
import Mathlib.Logic.Function.Iterate
import Mathlib.Order.WellFounded

namespace Foundations

variable {σ Λ : Type*}

inductive Run (step : σ → Λ → σ → Prop) : σ → List Λ → σ → Prop
  | nil (s : σ) : Run step s [] s
  | cons {s t u : σ} {l : Λ} {ls : List Λ} : step s l t → Run step t ls u → Run step s (l :: ls) u

namespace Run

variable {step : σ → Λ → σ → Prop} {s t u : σ} {l : Λ} {ls more : List Λ}

theorem single (taken : step s l t) : Run step s [l] t := .cons taken (.nil t)

theorem of_single (run : Run step s [l] t) : step s l t := by
  cases run with
  | cons taken last =>
    cases last
    exact taken

theorem rest (_run : Run step s ls t) : Run step t [] t := .nil t

theorem append (first : Run step s ls t) (second : Run step t more u) :
    Run step s (ls ++ more) u := by
  induction first with
  | nil => exact second
  | cons taken _ ih => exact .cons taken (ih second)

theorem snoc (run : Run step s ls t) (taken : step t l u) : Run step s (ls ++ [l]) u :=
  run.append (single taken)

/-- The invariant rule: what every step keeps holds at the end of every run. -/
theorem invariant (inv : σ → Prop) (keep : ∀ {s l t}, inv s → step s l t → inv t)
    (run : Run step s ls t) (init : inv s) : inv t := by
  induction run with
  | nil => exact init
  | cons taken _ ih => exact ih (keep init taken)

theorem invariant_of_labels (inv : σ → Prop) (allowed : Λ → Prop)
    (keep : ∀ {s l t}, inv s → allowed l → step s l t → inv t) (run : Run step s ls t)
    (labels : ∀ l ∈ ls, allowed l) (init : inv s) : inv t := by
  induction run with
  | nil => exact init
  | @cons _ _ _ l ls taken _ ih =>
    have first := labels l List.mem_cons_self
    have rest := fun l' member => labels l' (List.mem_cons_of_mem l member)
    exact ih rest (keep init first taken)

theorem relates (rel : σ → σ → Prop) (inv : σ → Prop) (refl : ∀ s, rel s s)
    (trans : ∀ {s t u}, rel s t → rel t u → rel s u)
    (keep : ∀ {s l t}, inv s → step s l t → inv t) (extend : ∀ {s l t}, inv s → step s l t → rel s t)
    (run : Run step s ls t) (init : inv s) : rel s t := by
  induction run with
  | nil => exact refl _
  | cons taken _ ih => exact trans (extend init taken) (ih (keep init taken))

/-- What does not hold at the start of a run and holds at its end has been made to hold by one of its steps. -/
theorem onset (P : σ → Prop) (run : Run step s ls t) (before : ¬ P s) (after : P t) :
    ∃ first l since m n, ls = first ++ l :: since ∧ Run step s first m ∧ ¬ P m ∧ step m l n ∧ P n ∧
      Run step n since t := by
  induction run with
  | nil s => exact absurd after before
  | @cons s m t l ls taken rest ih =>
    by_cases here : P m
    · exact ⟨[], l, ls, s, m, rfl, .nil s, before, taken, here, rest⟩
    · obtain ⟨first, l', since, m', n, split, run, still, step, holds, later⟩ := ih here after
      exact ⟨l :: first, l', since, m', n, congrArg (List.cons l) split, .cons taken run, still, step, holds, later⟩

/-- Where each step is a step of another system or none at all, a run is a run of that system. -/
theorem maps {σ' Λ' : Type*} {step' : σ' → Λ' → σ' → Prop} (f : σ → σ')
    (simulates : ∀ {s l t}, step s l t → f t = f s ∨ ∃ l', step' (f s) l' (f t)) (run : Run step s ls t) :
    ∃ ls', Run step' (f s) ls' (f t) := by
  induction run with
  | nil s => exact ⟨[], .nil (f s)⟩
  | cons taken _ ih =>
    obtain ⟨rest, later⟩ := ih
    rcases simulates taken with same | ⟨l', first⟩
    · rw [← same]
      exact ⟨rest, later⟩
    · exact ⟨l' :: rest, .cons first later⟩

variable {ν : Type*}

/-- The labels of a route through `nodes`, from `start` on. -/
def route (hop : ν → ν → Λ) : ν → List ν → List Λ
  | _, [] => []
  | start, next :: rest => hop start next :: route hop next rest

/-- A property of nodes that steps never take away, and that each hop hands from one node to
    the next, reaches the end of every route whose hops occur in the run in order. -/
theorem route_reaches (P : ν → σ → Prop) (inv : σ → Prop) (hop : ν → ν → Λ)
    (keep : ∀ {s l t}, inv s → step s l t → inv t)
    (stable : ∀ {s l t} (a : ν), inv s → step s l t → P a s → P a t)
    (hand : ∀ {s t} (a b : ν), inv s → step s (hop a b) t → P a s → P b t)
    (run : Run step s ls t) (init : inv s) {start : ν} {nodes : List ν}
    (sub : (route hop start nodes).Sublist ls) (at_start : P start s) :
    P (nodes.getLast?.getD start) t := by
  induction run generalizing start nodes with
  | nil s =>
    cases nodes with
    | nil => exact at_start
    | cons next rest => simp [route] at sub
  | @cons s m u l ls taken _ ih =>
    cases nodes with
    | nil => exact @ih (keep init taken) start [] (List.nil_sublist _) (stable start init taken at_start)
    | cons next rest =>
      cases sub with
      | cons _ later => exact ih (keep init taken) later (stable start init taken at_start)
      | cons_cons _ later =>
        have reached := ih (keep init taken) later (hand start next init taken at_start)
        rw [List.getLast?_cons]
        exact reached

end Run

/-! Hops that take time, with other steps in between. -/

structure Span (ν Λ : Type*) where
  source : ν
  target : ν
  opens : Λ
  closes : Λ

namespace Span

variable {ν : Type*}

def labels (spans : List (Span ν Λ)) : List Λ := spans.flatMap fun span => [span.opens, span.closes]

/-- The spans lead from one node to another, each from where the one before it ended. -/
inductive Leads : ν → List (Span ν Λ) → ν → Prop
  | nil (a : ν) : Leads a [] a
  | cons {b : ν} {rest : List (Span ν Λ)} (span : Span ν Λ) :
      Leads span.target rest b → Leads span.source (span :: rest) b

/-- The span keeps `held` while it is open, and with it the property is at its target when it closes. -/
structure Carries (step : σ → Λ → σ → Prop) (inv : σ → Prop) (P : ν → σ → Prop) (span : Span ν Λ)
    (held : σ → Prop) : Prop where
  opens : ∀ {s t}, inv s → step s span.opens t → P span.source s → held t
  keeps : ∀ {s l t}, inv s → step s l t → P span.source s → held s → held t
  closes : ∀ {s t}, inv s → step s span.closes t → held s → P span.target t

def Carried (step : σ → Λ → σ → Prop) (inv : σ → Prop) (P : ν → σ → Prop) (spans : List (Span ν Λ)) : Prop :=
  ∀ span ∈ spans, ∃ held, span.Carries step inv P held

/-- How far the property has come on its way, with the labels that it still needs. -/
inductive Travels (step : σ → Λ → σ → Prop) (inv : σ → Prop) (P : ν → σ → Prop) (finish : ν) :
    List Λ → σ → Prop
  | between {s : σ} {start : ν} {spans : List (Span ν Λ)} :
      Carried step inv P spans → Leads start spans finish → P start s →
      Travels step inv P finish (labels spans) s
  | inside {s : σ} {span : Span ν Λ} {held : σ → Prop} {spans : List (Span ν Λ)} :
      span.Carries step inv P held → Carried step inv P spans → Leads span.target spans finish →
      P span.source s → held s → Travels step inv P finish (span.closes :: labels spans) s

section

variable {step : σ → Λ → σ → Prop} {inv : σ → Prop} {P : ν → σ → Prop} {finish : ν} {s t : σ} {l : Λ}
  {needed ls : List Λ}

theorem Travels.stay (stable : ∀ {s l t} (a : ν), inv s → step s l t → P a s → P a t)
    (travels : Travels step inv P finish needed s) (init : inv s) (taken : step s l t) :
    Travels step inv P finish needed t := by
  cases travels with
  | between carried leads at_start => exact .between carried leads (stable _ init taken at_start)
  | inside carries carried leads at_source open_ =>
    exact .inside carries carried leads (stable _ init taken at_source) (carries.keeps init taken at_source open_)

theorem Travels.advance (stable : ∀ {s l t} (a : ν), inv s → step s l t → P a s → P a t)
    (travels : Travels step inv P finish (l :: needed) s) (init : inv s) (taken : step s l t) :
    Travels step inv P finish needed t := by
  generalize expected : l :: needed = all at travels
  cases travels with
  | between carried leads at_start =>
    cases leads with
    | nil => cases expected
    | cons span leads =>
      cases expected
      obtain ⟨held, carries⟩ := carried span List.mem_cons_self
      have others : Carried step inv P _ := fun next listed => carried next (List.mem_cons_of_mem span listed)
      exact .inside carries others leads (stable _ init taken at_start) (carries.opens init taken at_start)
  | inside carries carried leads at_source open_ =>
    cases expected
    exact .between carried leads (carries.closes init taken open_)

theorem Travels.arrived (travels : Travels step inv P finish [] s) : P finish s := by
  generalize expected : ([] : List Λ) = all at travels
  cases travels with
  | between carried leads at_start =>
    cases leads with
    | nil => exact at_start
    | cons => cases expected
  | inside => cases expected

/-- `route_reaches` for spans: what is at the start before the first of them opens is at the end once the
    last has closed. -/
theorem Travels.reaches (keep : ∀ {s l t}, inv s → step s l t → inv t)
    (stable : ∀ {s l t} (a : ν), inv s → step s l t → P a s → P a t) (run : Run step s ls t) (init : inv s)
    (travels : Travels step inv P finish needed s) (sub : needed.Sublist ls) : P finish t := by
  induction run generalizing needed with
  | nil s =>
    obtain rfl := List.sublist_nil.mp sub
    exact travels.arrived
  | cons taken _ ih =>
    cases sub with
    | cons _ later => exact ih (keep init taken) (travels.stay stable init taken) later
    | cons_cons _ later => exact ih (keep init taken) (travels.advance stable init taken) later

end

end Span

/-- From one start a deterministic step comes to rest in one state only. -/
theorem iterate_rest_unique {f : σ → σ} {s t u : σ} {n m : Nat} (first : f^[n] s = t)
    (second : f^[m] s = u) (rests : f t = t) (rests' : f u = u) : t = u := by
  have one : f^[m + n] s = t := by
    rw [Function.iterate_add_apply, first, Function.iterate_fixed rests]
  have two : f^[n + m] s = u := by
    rw [Function.iterate_add_apply, second, Function.iterate_fixed rests']
  rw [Nat.add_comm, one] at two
  exact two

/-- What descends with every step until it rests comes to rest. -/
theorem rests_of_descends {α : Type*} [LT α] [WellFoundedLT α] {run : Nat → σ} (rests : σ → Prop)
    (left : σ → α) (descends : ∀ n, ¬ rests (run n) → left (run (n + 1)) < left (run n)) :
    ∃ n, rests (run n) := by
  obtain ⟨n, still⟩ := WellFounded.not_rel_apply_succ (r := (· < ·)) fun n => left (run n)
  exact ⟨n, by_contra fun moving => still (descends n moving)⟩

end Foundations
