import Rustory.Foundations.Sorted
import Rustory.Storage.Insert

namespace Rustory.LocalStore

open Foundations

/-! The order of `list_recent`. -/

theorem recentFirst_total (a b : EntryRow) : recentFirst a b ∨ recentFirst b a := by
  unfold recentFirst
  rcases lt_trichotomy a.ts b.ts with earlier | same | later
  · exact Or.inr (Or.inl earlier)
  · rcases lt_trichotomy a.deviceId b.deviceId with before | equal | after
    · exact Or.inl (Or.inr ⟨same, Or.inl before⟩)
    · rcases le_total a.entryId b.entryId with le | ge
      · exact Or.inl (Or.inr ⟨same, Or.inr ⟨equal, le⟩⟩)
      · exact Or.inr (Or.inr ⟨same.symm, Or.inr ⟨equal.symm, ge⟩⟩)
    · exact Or.inr (Or.inr ⟨same.symm, Or.inl after⟩)
  · exact Or.inl (Or.inl later)

theorem recentFirst_trans {a b c : EntryRow} (first : recentFirst a b) (second : recentFirst b c) :
    recentFirst a c := by
  unfold recentFirst at *
  rcases first with later | ⟨same, tie⟩
  · rcases second with later' | ⟨same', _⟩
    · exact Or.inl (later'.trans later)
    · exact Or.inl (same' ▸ later)
  · rcases second with later' | ⟨same', tie'⟩
    · exact Or.inl (same ▸ later')
    · apply Or.inr
      apply And.intro (same.trans same')
      rcases tie with before | ⟨equal, le⟩
      · rcases tie' with before' | ⟨equal', _⟩
        · exact Or.inl (before.trans before')
        · exact Or.inl (equal' ▸ before)
      · rcases tie' with before' | ⟨equal', le'⟩
        · exact Or.inl (equal ▸ before')
        · exact Or.inr ⟨equal.trans equal', le.trans le'⟩

theorem recentFirst_antisymm {a b : EntryRow} (first : recentFirst a b) (second : recentFirst b a) :
    a.entryId = b.entryId := by
  unfold recentFirst at *
  rcases first with later | ⟨same, tie⟩
  · rcases second with later' | ⟨same', _⟩ <;> omega
  · rcases second with later' | ⟨_, tie'⟩
    · omega
    · rcases tie with before | ⟨equal, le⟩
      · rcases tie' with before' | ⟨equal', _⟩
        · exact absurd before' (lt_asymm before)
        · exact absurd equal'.symm before.ne
      · rcases tie' with before' | ⟨_, le'⟩
        · exact absurd equal.symm before'.ne
        · exact le_antisymm le le'

instance : Std.Total recentFirst := ⟨recentFirst_total⟩
instance : IsTrans EntryRow recentFirst := ⟨fun _ _ _ => recentFirst_trans⟩

/-- The rows that a store still has are listed in the order they had. -/
theorem recentRows_kept {store after : LocalStore} {keep : EntryRow → Bool} (limit : UInt64)
    (kept : ∀ value, value ∈ after.values ↔ value ∈ store.values ∧ keep value = true) :
    after.recentRows limit =
      limitRows (asI64 limit) ((store.values.insertionSort recentFirst).filter keep) := by
  show limitRows _ (after.values.insertionSort recentFirst) = _
  rw [insertionSort_filter store.values_ids_nodup (fun _ _ => recentFirst_antisymm) after.values_nodup kept]

/-- Stores with the same rows list them in the same order, whatever order they came in. -/
theorem recentRows_eq {a b : LocalStore} (same : ∀ value, value ∈ a.values ↔ value ∈ b.values)
    (limit : UInt64) : a.recentRows limit = b.recentRows limit := by
  have kept : ∀ value, value ∈ a.values ↔ value ∈ b.values ∧ true = true := by simpa using same
  rw [recentRows_kept limit kept, List.filter_true]
  rfl

theorem listRecent_eq {a b : LocalStore} (same : ∀ value, value ∈ a.values ↔ value ∈ b.values)
    (limit : UInt64) : a.listRecent limit = b.listRecent limit := by
  unfold listRecent
  rw [recentRows_eq same]

theorem mem_recentRows {store : LocalStore} {limit : UInt64} {value : EntryRow}
    (listed : value ∈ store.recentRows limit) : value ∈ store.values := by
  have sorted := (limitRows_initial _ _).subset listed
  exact (List.mem_insertionSort _).mp sorted

theorem mapM_rowToEntry_readable {rows : List EntryRow} :
    (∃ entries, rows.mapM rowToEntry = Except.ok entries) ↔ ∀ row ∈ rows, row.Readable := by
  induction rows with
  | nil => simp [pure, Except.pure]
  | cons row rest ih =>
    rw [List.forall_mem_cons, ← ih, ← @rowToEntry_readable row 0, List.mapM_cons]
    show (∃ entries, _ = Except.ok entries) ↔ (∃ e, rowToEntry row = .ok e) ∧ _
    cases rowToEntry row with
    | error err => simp [bind, Except.bind]
    | ok e => cases rest.mapM rowToEntry <;> simp [bind, Except.bind, pure, Except.pure]

theorem mapM_rowToEntry_rows {rows : List EntryRow} {entries : List Entry}
    (listed : rows.mapM rowToEntry = Except.ok entries) : rowsOf entries = rows := by
  induction rows generalizing entries with
  | nil =>
    cases listed
    rfl
  | cons row rest ih =>
    rw [List.mapM_cons] at listed
    obtain ⟨e, read, listed⟩ := bind_ok.mp listed
    obtain ⟨later, others, listed⟩ := bind_ok.mp listed
    cases listed
    show e.toRow :: rowsOf later = row :: rest
    rw [toRow_of_rowToEntry read, ih others]

theorem listRecent_ok {store : LocalStore} (readable : ∀ value ∈ store.values, value.Readable)
    (limit : UInt64) : ∃ entries, store.listRecent limit = .ok entries :=
  mapM_rowToEntry_readable.mpr fun value listed => readable value (mem_recentRows listed)

end Rustory.LocalStore
