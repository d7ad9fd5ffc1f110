import Mathlib.Data.List.Nodup
import Mathlib.Data.Int.Order.Basic
import Mathlib.Order.Basic
import Mathlib.Tactic.Linarith

namespace Foundations

structure Numbered (α : Type*) where
  seq : Int
  val : α
  deriving DecidableEq, Repr

/-- A table that numbers its rows in insertion order, never reuses a number, and
    holds at most one row per key. `sequence` is the largest number ever used. -/
structure NumberedTable {α κ : Type*} (key : α → κ) where
  rows : List (Numbered α)
  sequence : Int
  nonneg : 0 ≤ sequence
  ascending : rows.Pairwise (fun a b => a.seq < b.seq)
  numbered : ∀ row ∈ rows, 0 < row.seq ∧ row.seq ≤ sequence
  unique : rows.Pairwise (fun a b => key a.val ≠ key b.val)

namespace NumberedTable

variable {α κ : Type*} {key : α → κ}

def empty : NumberedTable key where
  rows := []
  sequence := 0
  nonneg := le_rfl
  ascending := .nil
  numbered := by simp
  unique := .nil

instance : Inhabited (NumberedTable key) := ⟨empty⟩

def Holds (table : NumberedTable key) (k : κ) : Prop :=
  ∃ row ∈ table.rows, key row.val = k

theorem keys_nodup (table : NumberedTable key) : (table.rows.map (fun row => key row.val)).Nodup :=
  List.pairwise_map.mpr table.unique

theorem eq_of_key {table : NumberedTable key} {a b : Numbered α} (ha : a ∈ table.rows)
    (hb : b ∈ table.rows) (same : key a.val = key b.val) : a = b := by
  exact List.inj_on_of_nodup_map table.keys_nodup ha hb same

def deleteWhere (table : NumberedTable key) (selects : Numbered α → Bool) : NumberedTable key × Nat :=
  ({ table with
      rows := table.rows.filter (fun row => !selects row)
      ascending := table.ascending.filter _
      numbered := fun row member => table.numbered row (List.mem_filter.mp member).1
      unique := table.unique.filter _ }, (table.rows.filter selects).length)

theorem deleteWhere_rows (table : NumberedTable key) (selects : Numbered α → Bool) :
    (table.deleteWhere selects).1.rows = table.rows.filter (fun row => !selects row) := rfl

theorem mem_deleteWhere {table : NumberedTable key} {selects : Numbered α → Bool} {row : Numbered α} :
    row ∈ (table.deleteWhere selects).1.rows ↔ row ∈ table.rows ∧ selects row = false := by
  rw [deleteWhere_rows, List.mem_filter, Bool.not_eq_true']

theorem length_filter_deleteWhere (table : NumberedTable key) (selects p : Numbered α → Bool) :
    ((table.deleteWhere selects).1.rows.filter p).length +
      (table.rows.filter (fun row => selects row && p row)).length = (table.rows.filter p).length := by
  simp only [deleteWhere_rows, List.filter_filter, ← List.countP_eq_length_filter]
  induction table.rows with
  | nil => rfl
  | cons row rest ih =>
    simp only [List.countP_cons]
    cases selects row <;> cases p row <;> simp <;> omega

/-! What any sequence of insertions and deletions keeps. -/

/-- `after` may come from `before` by insertions and deletions: rows only appear under
    numbers never used before. -/
structure Evolves (before after : NumberedTable key) : Prop where
  sequence : before.sequence ≤ after.sequence
  rows : ∀ row ∈ after.rows, row ∈ before.rows ∨ before.sequence < row.seq

theorem Evolves.refl (table : NumberedTable key) : table.Evolves table :=
  ⟨le_rfl, fun _ member => Or.inl member⟩

theorem Evolves.trans {a b c : NumberedTable key} (first : a.Evolves b) (second : b.Evolves c) :
    a.Evolves c := by
  refine ⟨first.sequence.trans second.sequence, fun row member => ?_⟩
  rcases second.rows row member with member | above
  · exact first.rows row member
  · exact Or.inr (lt_of_le_of_lt first.sequence above)

theorem evolves_deleteWhere (table : NumberedTable key) (selects : Numbered α → Bool) :
    table.Evolves (table.deleteWhere selects).1 :=
  ⟨le_rfl, fun _ member => Or.inl (mem_deleteWhere.mp member).1⟩

theorem Evolves.mem_middle {a b c : NumberedTable key} (first : a.Evolves b) (second : b.Evolves c)
    {row : Numbered α} (early : row ∈ a.rows) (late : row ∈ c.rows) : row ∈ b.rows := by
  rcases second.rows row late with member | above
  · exact member
  · have := (a.numbered row early).2
    have := first.sequence
    omega

/-- `after` comes from `before` by insertions alone. -/
structure Extends (before after : NumberedTable key) : Prop extends before.Evolves after where
  kept : before.rows ⊆ after.rows

theorem Extends.refl (table : NumberedTable key) : table.Extends table :=
  ⟨.refl table, List.Subset.refl _⟩

theorem Extends.trans {a b c : NumberedTable key} (first : a.Extends b) (second : b.Extends c) : a.Extends c :=
  ⟨first.toEvolves.trans second.toEvolves, List.Subset.trans first.kept second.kept⟩

variable [DecidableEq κ]

instance (table : NumberedTable key) (k : κ) : Decidable (table.Holds k) :=
  inferInstanceAs (Decidable (∃ row ∈ table.rows, key row.val = k))

/-- An attempt uses up a number whether or not the key is already there. The
    second component is the number of rows changed. -/
def insertOrIgnore (table : NumberedTable key) (a : α) : NumberedTable key × Nat :=
  if present : table.Holds (key a) then
    ({ table with
        sequence := table.sequence + 1
        nonneg := by have := table.nonneg; omega
        numbered := fun row member => by have := table.numbered row member; omega }, 0)
  else
    ({  rows := table.rows ++ [⟨table.sequence + 1, a⟩]
        sequence := table.sequence + 1
        nonneg := by have := table.nonneg; omega
        ascending := by
          rw [List.pairwise_append]
          refine ⟨table.ascending, List.pairwise_singleton _ _, fun row member last h => ?_⟩
          rw [List.mem_singleton.mp h]
          have := table.numbered row member
          dsimp only
          omega
        numbered := by
          intro row member
          rcases List.mem_append.mp member with member | member
          · have := table.numbered row member
            omega
          · rw [List.mem_singleton.mp member]
            have := table.nonneg
            dsimp only
            omega
        unique := by
          rw [List.pairwise_append]
          refine ⟨table.unique, List.pairwise_singleton _ _, fun row member last h same => ?_⟩
          rw [List.mem_singleton.mp h] at same
          exact present ⟨row, member, same⟩ }, 1)

def insertAll (table : NumberedTable key) : List α → NumberedTable key × Nat
  | [] => (table, 0)
  | a :: rest =>
    let (table, changed) := table.insertOrIgnore a
    let (table, more) := table.insertAll rest
    (table, changed + more)

/-! The rows one insertion adds. -/

theorem insertOrIgnore_rows (table : NumberedTable key) (a : α) :
    (table.insertOrIgnore a).1.rows =
      table.rows ++ if table.Holds (key a) then [] else [⟨table.sequence + 1, a⟩] := by
  unfold insertOrIgnore
  split <;> simp [*]

@[simp] theorem insertOrIgnore_sequence (table : NumberedTable key) (a : α) :
    (table.insertOrIgnore a).1.sequence = table.sequence + 1 := by
  unfold insertOrIgnore
  split <;> rfl

theorem insertOrIgnore_changed (table : NumberedTable key) (a : α) :
    (table.insertOrIgnore a).2 = if table.Holds (key a) then 0 else 1 := by
  unfold insertOrIgnore
  split <;> simp [*]

theorem insertOrIgnore_holds (table : NumberedTable key) (a : α) (k : κ) :
    (table.insertOrIgnore a).1.Holds k ↔ table.Holds k ∨ key a = k := by
  unfold Holds
  rw [insertOrIgnore_rows]
  by_cases present : table.Holds (key a)
  · simp only [present, ite_true, List.append_nil]
    refine ⟨Or.inl, fun h => h.elim id ?_⟩
    rintro rfl
    exact present
  · simp only [present, ite_false, List.mem_append, List.mem_singleton, or_and_right, exists_or,
      exists_eq_left]

/-! The rows a batch adds: the first occurrences of the keys not yet present. -/

def firstNew (table : NumberedTable key) (batch : List α) : List α :=
  (batch.filter (fun a => ¬ table.Holds (key a))).eraseDupsBy (fun a b => decide (key a = key b))

theorem firstNew_cons (table : NumberedTable key) (a : α) (rest : List α) :
    table.firstNew (a :: rest) =
      (if table.Holds (key a) then [] else [a]) ++ (table.insertOrIgnore a).1.firstNew rest := by
  unfold firstNew
  by_cases present : table.Holds (key a)
  · have same : ∀ b, (table.insertOrIgnore a).1.Holds (key b) ↔ table.Holds (key b) := by
      intro b
      rw [insertOrIgnore_holds]
      refine ⟨fun h => h.elim id ?_, Or.inl⟩
      intro same
      rw [← same]
      exact present
    simp [present, same]
  · simp only [present, not_false_eq_true, decide_true, List.filter_cons_of_pos, ite_false,
      List.eraseDupsBy_cons, List.filter_filter, List.cons_append, List.nil_append]
    congr 2
    apply List.filter_congr
    intro b _
    simp only [insertOrIgnore_holds, not_or, eq_comm (a := key b), Bool.decide_and, decide_not,
      Bool.and_comm]
    cases decide (key a = key b) <;> simp

theorem firstNew_subset (table : NumberedTable key) (batch : List α) :
    table.firstNew batch ⊆ batch := by
  induction batch generalizing table with
  | nil => simp [firstNew]
  | cons a rest ih =>
    rw [firstNew_cons]
    refine List.append_subset.mpr ⟨?_, fun b member => List.mem_cons_of_mem a (ih _ member)⟩
    split <;> simp

theorem firstNew_of_nodup (table : NumberedTable key) {batch : List α} (nodup : (batch.map key).Nodup) :
    table.firstNew batch = batch.filter (fun a => ¬ table.Holds (key a)) := by
  induction batch generalizing table with
  | nil => simp [firstNew]
  | cons a rest ih =>
    rw [List.map_cons, List.nodup_cons] at nodup
    obtain ⟨fresh, others⟩ := nodup
    have same : rest.filter (fun b => ¬ (table.insertOrIgnore a).1.Holds (key b)) =
        rest.filter (fun b => ¬ table.Holds (key b)) := by
      apply List.filter_congr
      intro b member
      have different : key a ≠ key b := fun equal => fresh (equal ▸ List.mem_map_of_mem member)
      simp [insertOrIgnore_holds, different]
    rw [firstNew_cons, ih (table.insertOrIgnore a).1 others, same]
    by_cases present : table.Holds (key a) <;> simp [present]

theorem mem_firstNew {table : NumberedTable key} {batch : List α} {a : α} :
    a ∈ table.firstNew batch ↔ ¬ table.Holds (key a) ∧
      ∃ before after, batch = before ++ a :: after ∧ ∀ b ∈ before, key b ≠ key a := by
  induction batch generalizing table with
  | nil => simp [firstNew]
  | cons b rest ih =>
    rw [firstNew_cons, List.mem_append, ih, insertOrIgnore_holds, not_or]
    constructor
    · rintro (first | ⟨⟨absent, different⟩, before, after, rfl, earlier⟩)
      · split at first
        · simp at first
        · rename_i absent
          obtain rfl := List.mem_singleton.mp first
          exact ⟨absent, [], rest, rfl, by simp⟩
      · exact ⟨absent, b :: before, after, rfl, List.forall_mem_cons.mpr ⟨different, earlier⟩⟩
    · intro ⟨absent, before, after, split, earlier⟩
      cases before with
      | nil =>
        obtain ⟨rfl, rfl⟩ := List.cons.inj split
        exact Or.inl (by simp [absent])
      | cons c before =>
        obtain ⟨rfl, rfl⟩ := List.cons.inj split
        obtain ⟨different, earlier⟩ := List.forall_mem_cons.mp earlier
        exact Or.inr ⟨⟨absent, different⟩, before, after, rfl, earlier⟩

theorem insertAll_append (table : NumberedTable key) (first second : List α) :
    (table.insertAll (first ++ second)).1 = ((table.insertAll first).1.insertAll second).1 := by
  induction first generalizing table with
  | nil => rfl
  | cons a rest ih => simp only [List.cons_append, insertAll, ih]

theorem insertAll_append_changed (table : NumberedTable key) (first second : List α) :
    (table.insertAll (first ++ second)).2 =
      (table.insertAll first).2 + ((table.insertAll first).1.insertAll second).2 := by
  induction first generalizing table with
  | nil => simp [insertAll]
  | cons a rest ih => simp only [List.cons_append, insertAll, ih, Nat.add_assoc]

theorem insertAll_rows (table : NumberedTable key) (batch : List α) :
    ∃ added, (table.insertAll batch).1.rows = table.rows ++ added ∧
      added.map Numbered.val = table.firstNew batch ∧
      (table.insertAll batch).2 = added.length ∧ ∀ row ∈ added, table.sequence < row.seq := by
  induction batch generalizing table with
  | nil => exact ⟨[], by simp [insertAll, firstNew]⟩
  | cons a rest ih =>
    obtain ⟨added, rows, vals, changed, above⟩ := ih (table.insertOrIgnore a).1
    rw [insertOrIgnore_rows] at rows
    rw [insertOrIgnore_sequence] at above
    refine ⟨(if table.Holds (key a) then [] else [⟨table.sequence + 1, a⟩]) ++ added, ?_, ?_, ?_, ?_⟩
    · rw [← List.append_assoc]
      exact rows
    · rw [firstNew_cons, List.map_append, vals]
      split <;> rfl
    · simp only [insertAll, changed, insertOrIgnore_changed]
      split <;> simp [Nat.add_comm]
    · intro row member
      rcases List.mem_append.mp member with member | member
      · split at member
        · simp at member
        · rw [List.mem_singleton.mp member]
          dsimp only
          omega
      · have := above row member
        omega

theorem insertAll_changed_of_nodup (table : NumberedTable key) {batch : List α}
    (nodup : (batch.map key).Nodup) :
    (table.insertAll batch).2 = (batch.filter (fun a => ¬ table.Holds (key a))).length := by
  obtain ⟨added, -, vals, changed, -⟩ := table.insertAll_rows batch
  rw [changed, ← table.firstNew_of_nodup nodup, ← vals, List.length_map]

theorem insertAll_sequence (table : NumberedTable key) (batch : List α) :
    (table.insertAll batch).1.sequence = table.sequence + batch.length := by
  induction batch generalizing table with
  | nil => simp [insertAll]
  | cons a rest ih =>
    simp only [insertAll, ih, insertOrIgnore_sequence, List.length_cons, Nat.cast_add, Nat.cast_one]
    omega

theorem insertAll_holds (table : NumberedTable key) (batch : List α) (k : κ) :
    (table.insertAll batch).1.Holds k ↔ table.Holds k ∨ ∃ a ∈ batch, key a = k := by
  induction batch generalizing table with
  | nil => simp [insertAll]
  | cons a rest ih =>
    simp only [insertAll, ih, insertOrIgnore_holds, List.mem_cons, exists_eq_or_imp, or_assoc]

theorem insertAll_changed_le (table : NumberedTable key) (batch : List α) :
    (table.insertAll batch).2 ≤ batch.length := by
  induction batch generalizing table with
  | nil => simp [insertAll]
  | cons a rest ih =>
    have := ih (table.insertOrIgnore a).1
    have : (table.insertOrIgnore a).2 ≤ 1 := by
      rw [insertOrIgnore_changed]
      split <;> omega
    simp only [insertAll, List.length_cons]
    omega

theorem insertAll_present (table : NumberedTable key) (batch : List α)
    (present : ∀ a ∈ batch, table.Holds (key a)) :
    (table.insertAll batch).1.rows = table.rows ∧ (table.insertAll batch).2 = 0 := by
  obtain ⟨added, rows, vals, changed, -⟩ := table.insertAll_rows batch
  have none : table.firstNew batch = [] := by
    have filtered : batch.filter (fun a => ¬ table.Holds (key a)) = [] := by
      rw [List.filter_eq_nil_iff]
      intro a member
      simp [present a member]
    rw [firstNew, filtered, List.eraseDupsBy_nil]
  have nothing : added = [] := List.map_eq_nil_iff.mp (vals.trans none)
  subst nothing
  exact ⟨by simpa using rows, by simpa using changed⟩

theorem evolves_insertAll (table : NumberedTable key) (batch : List α) :
    table.Evolves (table.insertAll batch).1 := by
  obtain ⟨added, rows, -, -, above⟩ := table.insertAll_rows batch
  refine ⟨by rw [insertAll_sequence]; omega, fun row member => ?_⟩
  rw [rows] at member
  exact (List.mem_append.mp member).imp_right (above row)

theorem extends_insertAll (table : NumberedTable key) (batch : List α) :
    table.Extends (table.insertAll batch).1 := by
  obtain ⟨added, rows, -⟩ := table.insertAll_rows batch
  apply Extends.mk (table.evolves_insertAll batch)
  rw [rows]
  exact List.subset_append_left _ _

end NumberedTable

end Foundations
