import Mathlib.Data.List.AList

namespace Foundations

/-! Copying the rows of a table from old keys to new ones. -/

section

variable {κ ν : Type*}

/-- No key is a new key and an old one. -/
def Apart (renames : List (κ × κ)) : Prop := ∀ new ∈ renames, ∀ old ∈ renames, new.1 ≠ old.2

theorem Apart.tail {renames : List (κ × κ)} {rename : κ × κ} (apart : Apart (rename :: renames)) : Apart renames :=
  fun new isNew old isOld => apart new (List.mem_cons_of_mem _ isNew) old (List.mem_cons_of_mem _ isOld)

theorem findSome?_congr {f g : κ → Option ν} {keys : List κ} (same : ∀ key ∈ keys, f key = g key) :
    keys.findSome? f = keys.findSome? g := by
  induction keys with
  | nil => rfl
  | cons key rest ih =>
    rw [List.findSome?_cons, List.findSome?_cons, same key List.mem_cons_self,
      ih fun other member => same other (List.mem_cons_of_mem key member)]

variable [DecidableEq κ]

/-- The row under `old` is copied to `key` where that has none. -/
def copyKey (table : AList fun _ : κ => ν) (key old : κ) : AList fun _ : κ => ν :=
  match table.lookup key, table.lookup old with
  | none, some row => table.insert key row
  | _, _ => table

def copyKeys (table : AList fun _ : κ => ν) (renames : List (κ × κ)) : AList fun _ : κ => ν :=
  renames.foldl (fun table rename => copyKey table rename.1 rename.2) table

/-- The old keys of `key`, in order. -/
def oldKeys (renames : List (κ × κ)) (key : κ) : List κ :=
  (renames.filter fun rename => decide (rename.1 = key)).map Prod.snd

variable {table : AList fun _ : κ => ν} {renames : List (κ × κ)} {key old other : κ}

theorem lookup_copyKey (table : AList fun _ : κ => ν) (key old other : κ) :
    (copyKey table key old).lookup other =
      if other = key then (table.lookup key).or (table.lookup old) else table.lookup other := by
  unfold copyKey
  by_cases same : other = key
  · rw [if_pos same, same]
    cases found : table.lookup key with
    | some row => exact found
    | none =>
      cases copied : table.lookup old with
      | none => exact found
      | some row => exact AList.lookup_insert table
  · rw [if_neg same]
    cases table.lookup key with
    | some row => rfl
    | none =>
      cases table.lookup old with
      | none => rfl
      | some row => exact AList.lookup_insert_ne same

theorem lookup_copyKeys_other (untouched : ∀ rename ∈ renames, rename.1 ≠ other) :
    (copyKeys table renames).lookup other = table.lookup other := by
  induction renames generalizing table with
  | nil => rfl
  | cons rename rest ih =>
    have different : other ≠ rename.1 := (untouched rename List.mem_cons_self).symm
    have later := @ih (copyKey table rename.1 rename.2) fun r member => untouched r (List.mem_cons_of_mem _ member)
    rw [lookup_copyKey, if_neg different] at later
    exact later

theorem mem_oldKeys : old ∈ oldKeys renames key ↔ (key, old) ∈ renames := by
  unfold oldKeys
  rw [List.mem_map]
  constructor
  · intro ⟨rename, listed, same⟩
    obtain ⟨member, new⟩ := List.mem_filter.mp listed
    rw [← of_decide_eq_true new, ← same]
    exact member
  · intro member
    exact ⟨(key, old), List.mem_filter.mpr ⟨member, decide_eq_true rfl⟩, rfl⟩

/-- A key keeps its row, or gets the first one that an old key of it has. -/
theorem lookup_copyKeys (apart : Apart renames) (table : AList fun _ : κ => ν) (key : κ) :
    (copyKeys table renames).lookup key = (table.lookup key).or ((oldKeys renames key).findSome? table.lookup) := by
  induction renames generalizing table with
  | nil => exact (Option.or_none).symm
  | cons rename rest ih =>
    -- The first copy changes no row under an old key of the later ones.
    have kept : ∀ old ∈ oldKeys rest key, (copyKey table rename.1 rename.2).lookup old = table.lookup old := by
      intro old member
      rw [lookup_copyKey, if_neg]
      exact (apart rename List.mem_cons_self _ (List.mem_cons_of_mem _ (mem_oldKeys.mp member))).symm
    have later := ih apart.tail (copyKey table rename.1 rename.2)
    rw [findSome?_congr kept, lookup_copyKey] at later
    refine later.trans ?_
    by_cases same : rename.1 = key
    · have first : oldKeys (rename :: rest) key = rename.2 :: oldKeys rest key := by simp [oldKeys, same]
      rw [first, if_pos same.symm, same, Option.or_assoc]
      cases found : table.lookup rename.2 <;> simp [found]
    · have first : oldKeys (rename :: rest) key = oldKeys rest key := by simp [oldKeys, same]
      rw [first, if_neg fun equal => same equal.symm]

/-- Copying a second time changes nothing. -/
theorem lookup_copyKeys_again (apart : Apart renames) (table : AList fun _ : κ => ν) (key : κ) :
    (copyKeys (copyKeys table renames) renames).lookup key = (copyKeys table renames).lookup key := by
  have kept : ∀ old ∈ oldKeys renames key, (copyKeys table renames).lookup old = table.lookup old := by
    intro old member
    apply lookup_copyKeys_other
    intro rename isNew
    exact apart rename isNew _ (mem_oldKeys.mp member)
  rw [lookup_copyKeys apart, findSome?_congr kept, lookup_copyKeys apart table, Option.or_assoc, Option.or_self]

end

end Foundations
