import Rustory.Foundations.Cursor

namespace Foundations

theorem length_le_of_ascending {l : List Int} (ascending : l.Pairwise (· < ·)) {low high : Int}
    (start : low ≤ high) (bounded : ∀ x ∈ l, low < x ∧ x ≤ high) : low + l.length ≤ high := by
  induction l generalizing low with
  | nil => simpa using start
  | cons x rest ih =>
    obtain ⟨least, order⟩ := List.pairwise_cons.mp ascending
    obtain ⟨above, below⟩ := bounded x List.mem_cons_self
    have rest_bounded : ∀ y ∈ rest, x < y ∧ y ≤ high :=
      fun y member => ⟨least y member, (bounded y (List.mem_cons_of_mem x member)).2⟩
    have := ih order below rest_bounded
    rw [List.length_cons]
    omega

/-- Rows left out of a listing do not change it exactly when it did not show them. -/
theorem limitRows_filter {β : Type*} {limit : Int} {rows : List β} {keep : β → Bool} :
    limitRows limit (rows.filter keep) = limitRows limit rows ↔
      ∀ row ∈ limitRows limit rows, keep row = true := by
  constructor
  · intro same row listed
    rw [← same] at listed
    exact (List.mem_filter.mp ((limitRows_initial limit _).subset listed)).2
  · intro kept
    unfold limitRows at kept ⊢
    split at kept
    · rename_i all
      rw [if_pos all, if_pos all]
      exact List.filter_eq_self.mpr kept
    · rename_i some
      rw [if_neg some, if_neg some]
      have split := List.take_append_drop limit.toNat rows
      have front := List.filter_eq_self.mpr kept
      conv_lhs => rw [← split]
      rw [List.filter_append, front]
      rcases Nat.lt_or_ge limit.toNat rows.length with less | more
      · have full : (rows.take limit.toNat).length = limit.toNat := List.length_take_of_le less.le
        exact List.take_left' full
      · rw [List.drop_of_length_le more, List.filter_nil, List.append_nil, List.take_take, Nat.min_self]

/-- In a descending list, the minimum of the first `n` elements tells which elements are not
    among them. -/
theorem lt_min_take {l : List Int} (descending : l.Pairwise (fun a b => b < a)) {n : Nat}
    {floor x : Int} (found : (l.take n).min? = some floor) (member : x ∈ l) :
    x < floor ↔ n ≤ (l.filter (fun y => decide (x < y))).length := by
  obtain ⟨front, back, rfl⟩ := List.append_of_mem member
  obtain ⟨-, order, across⟩ := List.pairwise_append.mp descending
  have above : front.filter (fun y => decide (x < y)) = front := by
    rw [List.filter_eq_self]
    intro y listed
    exact decide_eq_true (across y listed x List.mem_cons_self)
  have below : (x :: back).filter (fun y => decide (x < y)) = [] := by
    rw [List.filter_eq_nil_iff]
    intro y listed
    rcases List.mem_cons.mp listed with rfl | later
    · simp
    · have := (List.pairwise_cons.mp order).1 y later
      simp only [decide_eq_true_eq]
      omega
  rw [List.filter_append, above, below, List.append_nil]
  obtain ⟨taken, least⟩ := List.min?_eq_some_iff.mp found
  constructor
  · intro under
    by_contra short
    have inside : x ∈ (front ++ x :: back).take n := by
      rw [List.take_append]
      apply List.mem_append_right
      obtain ⟨more, left⟩ : ∃ more, n - front.length = more + 1 := ⟨n - front.length - 1, by omega⟩
      rw [left, List.take_succ_cons]
      exact List.mem_cons_self
    have := least x inside
    omega
  · intro long
    rw [List.take_append_of_le_length long] at taken
    exact across floor (List.mem_of_mem_take taken) x List.mem_cons_self

namespace NumberedTable

variable {α κ : Type*} {key : α → κ}

theorem length_le_sequence (table : NumberedTable key) : (table.rows.length : Int) ≤ table.sequence := by
  have ascending : (table.rows.map Numbered.seq).Pairwise (· < ·) := List.pairwise_map.mpr table.ascending
  have bounded : ∀ x ∈ table.rows.map Numbered.seq, 0 < x ∧ x ≤ table.sequence := by
    intro x listed
    obtain ⟨row, member, rfl⟩ := List.mem_map.mp listed
    exact table.numbered row member
  have bound := length_le_of_ascending ascending table.nonneg bounded
  rw [List.length_map] at bound
  omega

/-- How many rows have a larger number. -/
def newer (table : NumberedTable key) (row : Numbered α) : Nat :=
  (table.rows.filter (fun other => decide (row.seq < other.seq))).length

theorem newer_lt_length {table : NumberedTable key} {row : Numbered α} (member : row ∈ table.rows) :
    table.newer row < table.rows.length := by
  apply List.length_filter_lt_length_iff_exists.mpr
  exact ⟨row, member, by simp⟩

/-- The smallest number among the `limit` largest ones; a negative limit takes them all. -/
def newestFloor (table : NumberedTable key) (limit : Int) : Option Int :=
  (limitRows limit (table.rows.map Numbered.seq).reverse).min?

theorem lt_newestFloor {table : NumberedTable key} {row : Numbered α} (member : row ∈ table.rows)
    {limit : Int} (nonzero : limit ≠ 0) :
    ∃ floor, table.newestFloor limit = some floor ∧
      (row.seq < floor ↔ 0 ≤ limit ∧ limit.toNat ≤ table.newer row) := by
  have listed : row.seq ∈ (table.rows.map Numbered.seq).reverse :=
    List.mem_reverse.mpr (List.mem_map_of_mem member)
  have some_row : limitRows limit (table.rows.map Numbered.seq).reverse ≠ [] := by
    rw [Ne, limitRows_eq_nil nonzero]
    exact List.ne_nil_of_mem listed
  obtain ⟨floor, found⟩ : ∃ floor, table.newestFloor limit = some floor := by
    rw [← Option.isSome_iff_exists, newestFloor, List.isSome_min?_iff]
    exact some_row
  refine ⟨floor, found, ?_⟩
  unfold newestFloor limitRows at found
  split at found
  · rename_i all
    have least := (List.min?_eq_some_iff.mp found).2 row.seq listed
    constructor <;> omega
  · have descending : (table.rows.map Numbered.seq).reverse.Pairwise (fun a b => b < a) :=
      List.pairwise_reverse.mpr (List.pairwise_map.mpr table.ascending)
    rw [lt_min_take descending found listed, List.filter_reverse, List.length_reverse, List.filter_map,
      List.length_map]
    have same : (0 ≤ limit ∧ limit.toNat ≤ table.newer row) ↔ limit.toNat ≤ table.newer row := by
      omega
    rw [same]
    rfl

end NumberedTable

end Foundations
