import Mathlib.Data.List.AList

namespace Foundations

variable {κ ν : Type*}

/-- What happens to a table of leases at one moment. A renewal and a sweep both drop what has
    expired by then; nothing else does. -/
inductive LeaseOp (κ ν : Type*)
  | renew (key : κ) (lease : ν)
  | sweep
  | idle

section

variable (since : ν → Int) (ttl : Int)

def Alive (now : Int) (lease : ν) : Prop := now - since lease ≤ ttl

instance (now : Int) (lease : ν) : Decidable (Alive since ttl now lease) :=
  inferInstanceAs (Decidable (_ ≤ _))

def expire (now : Int) (table : AList fun _ : κ => ν) : AList fun _ : κ => ν where
  entries := table.entries.filter fun entry => decide (Alive since ttl now entry.snd)
  nodupKeys := table.nodupKeys.sublist List.filter_sublist

variable [DecidableEq κ]

def leaseStep (table : AList fun _ : κ => ν) : Int × LeaseOp κ ν → AList fun _ : κ => ν
  | (now, .renew key lease) => (expire since ttl now table).insert key lease
  | (now, .sweep) => expire since ttl now table
  | (_, .idle) => table

/-- The last lease that `key` was given. -/
def latestStep (key : κ) (last : Option ν) : Int × LeaseOp κ ν → Option ν
  | (_, .renew key' lease) => if key' = key then some lease else last
  | (_, .sweep) => last
  | (_, .idle) => last

def latestLease (key : κ) (events : List (Int × LeaseOp κ ν)) : Option ν := events.foldl (latestStep key) none

theorem lookup_expire (now : Int) (table : AList fun _ : κ => ν) (key : κ) :
    (expire since ttl now table).lookup key =
      (table.lookup key).filter fun lease => decide (Alive since ttl now lease) := by
  ext lease
  rw [← Option.mem_def, ← Option.mem_def, Option.mem_filter_iff, AList.mem_lookup_iff, AList.mem_lookup_iff]
  exact List.mem_filter

/-- What the table knows of a key: its last lease, or nothing where that has expired. -/
def Agrees (clock : Int) (last known : Option ν) : Prop :=
  known = last ∨ (known = none ∧ ∃ lease, last = some lease ∧ ¬ Alive since ttl clock lease)

variable {since ttl} {clock now : Int} {last known : Option ν} {table : AList fun _ : κ => ν} {key : κ}

theorem Alive.earlier {lease : ν} (alive : Alive since ttl now lease) (order : clock ≤ now) :
    Alive since ttl clock lease := by
  unfold Alive at *
  omega

theorem Agrees.later (agrees : Agrees since ttl clock last known) (order : clock ≤ now) :
    Agrees since ttl now last known := by
  rcases agrees with same | ⟨none, lease, given, expired⟩
  · exact Or.inl same
  · exact Or.inr ⟨none, lease, given, fun alive => expired (alive.earlier order)⟩

/-- After a sweep the table holds exactly the leases that are alive. -/
theorem Agrees.expired (agrees : Agrees since ttl clock last known) (order : clock ≤ now) :
    (known.filter fun lease => decide (Alive since ttl now lease)) =
      last.filter fun lease => decide (Alive since ttl now lease) := by
  rcases agrees.later order with same | ⟨none, lease, given, expired⟩
  · rw [same]
  · rw [none, given, Option.filter_none, Option.filter_some, if_neg]
    simpa using expired

theorem Agrees.sweep (agrees : Agrees since ttl clock last (table.lookup key)) (order : clock ≤ now) :
    Agrees since ttl now last ((expire since ttl now table).lookup key) := by
  rw [lookup_expire, agrees.expired order]
  cases last with
  | none => exact Or.inl rfl
  | some lease =>
    by_cases alive : Alive since ttl now lease
    · exact Or.inl (by simp [alive])
    · exact Or.inr ⟨by simp [alive], lease, rfl, alive⟩

theorem Agrees.step (agrees : Agrees since ttl clock last (table.lookup key)) {event : Int × LeaseOp κ ν}
    (order : clock ≤ event.1) :
    Agrees since ttl event.1 (latestStep key last event) ((leaseStep since ttl table event).lookup key) := by
  obtain ⟨now, op⟩ := event
  cases op with
  | renew key' lease =>
    by_cases same : key' = key
    · subst same
      exact Or.inl (by simp [leaseStep, latestStep])
    · have other := agrees.sweep order
      simpa [leaseStep, latestStep, same, AList.lookup_insert_ne (Ne.symm same)] using other
  | sweep => exact agrees.sweep order
  | idle => exact agrees.later order

theorem Agrees.run {events : List (Int × LeaseOp κ ν)} (agrees : Agrees since ttl clock last (table.lookup key))
    (order : ((clock :: events.map Prod.fst) ++ [now]).Pairwise (· ≤ ·)) :
    Agrees since ttl now (events.foldl (latestStep key) last)
      ((events.foldl (leaseStep since ttl) table).lookup key) := by
  induction events generalizing clock last table with
  | nil =>
    apply agrees.later
    simpa using order
  | cons event rest ih =>
    have first : clock ≤ event.1 := (List.pairwise_cons.mp order).1 _ (by simp)
    exact ih (agrees.step first) (List.pairwise_cons.mp order).2

/-- However lazily expired leases are dropped, a sweep leaves exactly the last leases still alive. -/
theorem lookup_run {events : List (Int × LeaseOp κ ν)}
    (order : (events.map Prod.fst ++ [now]).Pairwise (· ≤ ·)) (key : κ) :
    (expire since ttl now (events.foldl (leaseStep since ttl) ∅)).lookup key =
      (latestLease key events).filter fun lease => decide (Alive since ttl now lease) := by
  rw [lookup_expire]
  cases events with
  | nil => rfl
  | cons event rest =>
    have start : Agrees since ttl event.1 none ((∅ : AList fun _ : κ => ν).lookup key) := Or.inl rfl
    have run := (start.step (Int.le_refl _)).run order
    exact run.expired (Int.le_refl _)

/-! Two tables that see the same events, one with the longer leases. -/

/-- What the first table holds the second holds too. -/
def Within (table more : AList fun _ : κ => ν) : Prop :=
  ∀ key lease, table.lookup key = some lease → more.lookup key = some lease

variable {ttl' : Int} {more : AList fun _ : κ => ν}

theorem Within.expire (within : Within table more) (longer : ttl ≤ ttl') (now : Int) :
    Within (expire since ttl now table) (expire since ttl' now more) := by
  intro key lease found
  rw [lookup_expire, Option.filter_eq_some_iff] at found ⊢
  obtain ⟨held, alive⟩ := found
  have stays : Alive since ttl' now lease := by
    have aged := of_decide_eq_true alive
    unfold Alive at *
    omega
  exact ⟨within key lease held, decide_eq_true stays⟩

theorem Within.insert (within : Within table more) (key : κ) (lease : ν) :
    Within (table.insert key lease) (more.insert key lease) := by
  intro other held found
  by_cases same : other = key
  · rw [same, AList.lookup_insert] at found ⊢
    exact found
  · rw [AList.lookup_insert_ne same] at found ⊢
    exact within other held found

theorem Within.step (within : Within table more) (longer : ttl ≤ ttl') (event : Int × LeaseOp κ ν) :
    Within (leaseStep since ttl table event) (leaseStep since ttl' more event) := by
  obtain ⟨now, op⟩ := event
  cases op with
  | renew key lease => exact (within.expire longer now).insert key lease
  | sweep => exact within.expire longer now
  | idle => exact within

/-- The clock may run either way: the longer leases lose nothing that the shorter ones keep. -/
theorem Within.run (within : Within table more) (longer : ttl ≤ ttl') (events : List (Int × LeaseOp κ ν)) :
    Within (events.foldl (leaseStep since ttl) table) (events.foldl (leaseStep since ttl') more) := by
  induction events generalizing table more with
  | nil => exact within
  | cons event rest ih => exact ih (within.step longer event)

end

end Foundations
