import Mathlib.Data.List.Sort
import Rustory.Foundations.Cursor

namespace Foundations

variable {β κ : Type*} {r : β → β → Prop} [DecidableRel r] [Std.Total r] [IsTrans β r]
  {key : β → κ} {rows kept : List β} {keep : β → Bool}

/-- Where `r` orders rows by a key and no key is used twice, the rows that are kept are listed
    in the order they had. -/
theorem insertionSort_filter (keys : (rows.map key).Nodup)
    (antisymm : ∀ a b, r a b → r b a → key a = key b) (nodup : kept.Nodup)
    (members : ∀ row, row ∈ kept ↔ row ∈ rows ∧ keep row = true) :
    kept.insertionSort r = (rows.insertionSort r).filter keep := by
  have perm : (kept.insertionSort r).Perm ((rows.insertionSort r).filter keep) := by
    apply (List.perm_ext_iff_of_nodup ((List.perm_insertionSort r kept).nodup_iff.mpr nodup)
      (((List.perm_insertionSort r rows).nodup_iff.mpr keys.of_map).filter _)).mpr
    intro row
    rw [List.mem_insertionSort, List.mem_filter, List.mem_insertionSort]
    exact members row
  apply List.Perm.eq_of_pairwise _ (List.pairwise_insertionSort r kept)
    ((List.pairwise_insertionSort r rows).filter _) perm
  intro a b left right forward back
  have inA : a ∈ rows := ((members a).mp ((List.mem_insertionSort r).mp left)).1
  have inB : b ∈ rows := (List.mem_insertionSort r).mp (List.mem_filter.mp right).1
  exact List.inj_on_of_nodup_map keys inA inB (antisymm a b forward back)

/-- A row that a listing showed is still shown when others are left out. -/
theorem mem_limitRows_filter {limit : Int} {row : β} (listed : row ∈ limitRows limit rows)
    (kept : keep row = true) : row ∈ limitRows limit (rows.filter keep) := by
  unfold limitRows at *
  by_cases all : limit < 0
  · rw [if_pos all] at *
    exact List.mem_filter.mpr ⟨listed, kept⟩
  · rw [if_neg all] at *
    have front : (rows.take limit.toNat).filter keep <+: rows.filter keep :=
      (List.take_prefix limit.toNat rows).filter keep
    have short : ((rows.take limit.toNat).filter keep).length ≤ limit.toNat :=
      (List.length_filter_le _ _).trans (List.length_take_le _ _)
    exact (List.prefix_take_iff.mpr ⟨front, short⟩).subset (List.mem_filter.mpr ⟨listed, kept⟩)

theorem filter_eq_singleton_iff {α : Type} {items : List α} {item : α} {p : α → Bool} (nodup : items.Nodup)
    (listed : item ∈ items) (holds : p item = true) :
    items.filter p = [item] ↔ ∀ other ∈ items, p other = true → other = item := by
  constructor
  · intro only other member same
    have inside := List.mem_filter.mpr ⟨member, same⟩
    rw [only] at inside
    exact List.mem_singleton.mp inside
  · intro only
    rw [← List.perm_singleton, List.perm_ext_iff_of_nodup (nodup.filter p) (List.nodup_singleton item)]
    intro other
    rw [List.mem_filter, List.mem_singleton]
    constructor
    · intro ⟨member, same⟩
      exact only other member same
    · intro same
      rw [same]
      exact ⟨listed, holds⟩

end Foundations
