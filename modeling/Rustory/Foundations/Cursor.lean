import Rustory.Foundations.NumberedTable

namespace Foundations

/-- An SQL `LIMIT`: a negative limit sets no bound. -/
def limitRows {β : Type*} (limit : Int) (rows : List β) : List β :=
  if limit < 0 then rows else rows.take limit.toNat

theorem limitRows_initial {β : Type*} (limit : Int) (rows : List β) :
    limitRows limit rows <+: rows := by
  unfold limitRows
  split
  · exact List.prefix_refl rows
  · exact List.take_prefix _ rows

theorem limitRows_eq_nil {β : Type*} {limit : Int} (nonzero : limit ≠ 0) {rows : List β} :
    limitRows limit rows = [] ↔ rows = [] := by
  unfold limitRows
  split
  · rfl
  · have positive : limit.toNat ≠ 0 := by omega
    rw [List.take_eq_nil_iff]
    simp only [positive, false_or]

namespace NumberedTable

variable {α κ : Type*} {key : α → κ}

def after (table : NumberedTable key) (p : α → Bool) (cursor : Int) : List (Numbered α) :=
  table.rows.filter (fun row => decide (cursor < row.seq) && p row.val)

theorem mem_after {table : NumberedTable key} {p : α → Bool} {cursor : Int} {row : Numbered α} :
    row ∈ table.after p cursor ↔ row ∈ table.rows ∧ cursor < row.seq ∧ p row.val = true := by
  simp [after]

theorem after_ascending (table : NumberedTable key) (p : α → Bool) (cursor : Int) :
    (table.after p cursor).Pairwise (fun a b => a.seq < b.seq) := table.ascending.filter _

/-- One page: the first rows above `cursor`, at most `limit` of them. -/
def page (table : NumberedTable key) (p : α → Bool) (cursor limit : Int) : List (Numbered α) :=
  limitRows limit (table.after p cursor)

theorem mem_page {table : NumberedTable key} {p : α → Bool} {cursor limit : Int} {row : Numbered α}
    (member : row ∈ table.page p cursor limit) :
    row ∈ table.rows ∧ cursor < row.seq ∧ p row.val = true :=
  mem_after.mp ((limitRows_initial _ _).subset member)

theorem page_eq_nil {table : NumberedTable key} {p : α → Bool} {cursor limit : Int}
    (nonzero : limit ≠ 0) (none : table.page p cursor limit = []) {row : Numbered α}
    (member : row ∈ table.rows) (selected : p row.val = true) : row.seq ≤ cursor := by
  have empty := (limitRows_eq_nil nonzero).mp none
  by_contra above
  have : row ∈ table.after p cursor := mem_after.mpr ⟨member, by omega, selected⟩
  rw [empty] at this
  exact List.not_mem_nil this

theorem page_complete {table : NumberedTable key} {p : α → Bool} {cursor limit : Int}
    {last row : Numbered α} (ends : (table.page p cursor limit).getLast? = some last)
    (member : row ∈ table.rows) (selected : p row.val = true) (above : cursor < row.seq)
    (below : row.seq ≤ last.seq) : row ∈ table.page p cursor limit := by
  obtain ⟨skipped, split⟩ := limitRows_initial limit (table.after p cursor)
  have found : row ∈ table.after p cursor := mem_after.mpr ⟨member, above, selected⟩
  have order := table.after_ascending p cursor
  rw [← split] at found order
  rcases List.mem_append.mp found with inside | outside
  · exact inside
  · have least : last.seq < row.seq :=
      (List.pairwise_append.mp order).2.2 last (List.mem_of_getLast? ends) row outside
    omega

theorem after_last {table : NumberedTable key} {p : α → Bool} {cursor limit : Int} {last : Numbered α}
    (ends : (table.page p cursor limit).getLast? = some last) :
    table.after p cursor = table.page p cursor limit ++ table.after p last.seq := by
  obtain ⟨skipped, split⟩ := limitRows_initial limit (table.after p cursor)
  have order := table.after_ascending p cursor
  rw [← split] at order
  obtain ⟨front, -, across⟩ := List.pairwise_append.mp order
  have member := List.mem_of_getLast? ends
  have above := (mem_page member).2.1
  have later : table.after p last.seq = (table.after p cursor).filter (fun row => last.seq < row.seq) := by
    unfold after
    rw [List.filter_filter]
    apply List.filter_congr
    intro row _
    by_cases beyond : last.seq < row.seq
    · have : cursor < row.seq := by omega
      simp [beyond, this]
    · simp [beyond]
  have gone : (table.page p cursor limit).filter (fun row => last.seq < row.seq) = [] := by
    rw [List.filter_eq_nil_iff]
    intro row listed
    obtain ⟨rest, same⟩ := List.getLast?_eq_some_iff.mp ends
    have before := front
    rw [page] at same
    rw [same] at before
    rw [page, same] at listed
    rcases List.mem_append.mp listed with earlier | final
    · have := (List.pairwise_append.mp before).2.2 row earlier last List.mem_cons_self
      simp only [decide_eq_true_eq]
      omega
    · rw [List.mem_singleton.mp final]
      simp
  have kept : skipped.filter (fun row => last.seq < row.seq) = skipped := by
    rw [List.filter_eq_self]
    intro row listed
    simpa using across last member row listed
  rw [later]
  conv_rhs => rw [← split]
  rw [List.filter_append, kept]
  rw [page] at gone ⊢
  rw [gone, List.nil_append, split]

theorem forall_after_last {table : NumberedTable key} {p : α → Bool} {cursor limit : Int}
    {last : Numbered α} (ends : (table.page p cursor limit).getLast? = some last)
    {P : Numbered α → Prop} :
    (∀ row ∈ table.after p cursor, P row) ↔
      (∀ row ∈ table.page p cursor limit, P row) ∧ ∀ row ∈ table.after p last.seq, P row := by
  rw [after_last ends]
  exact List.forall_mem_append

theorem after_end {table : NumberedTable key} {p : α → Bool} {cursor : Int} {last : Numbered α}
    (ends : (table.after p cursor).getLast? = some last) : table.after p last.seq = [] := by
  have whole : table.page p cursor (-1) = table.after p cursor := rfl
  rw [← whole] at ends
  have split := after_last ends
  rw [whole] at split
  exact List.self_eq_append_right.mp split

/-- The cursors at which a walk from `start`, page by page, asks for the next page. -/
inductive PageStart (table : NumberedTable key) (p : α → Bool) (limit start : Int) : Int → Prop
  | first : PageStart table p limit start start
  | next {cursor : Int} {last : Numbered α} :
      PageStart table p limit start cursor → (table.page p cursor limit).getLast? = some last →
      PageStart table p limit start last.seq

theorem PageStart.after_first {table : NumberedTable key} {p : α → Bool} {limit start cursor : Int}
    {last : Numbered α} (ends : (table.page p start limit).getLast? = some last)
    (later : table.PageStart p limit last.seq cursor) : table.PageStart p limit start cursor := by
  induction later with
  | first => exact .next .first ends
  | next _ found ih => exact .next ih found

theorem PageStart.cases_first {table : NumberedTable key} {p : α → Bool} {limit start cursor : Int}
    (h : table.PageStart p limit start cursor) :
    cursor = start ∨ ∃ last, (table.page p start limit).getLast? = some last ∧
      table.PageStart p limit last.seq cursor := by
  induction h with
  | first => exact Or.inl rfl
  | next _ found ih =>
    rcases ih with rfl | ⟨last, ends, later⟩
    · exact Or.inr ⟨_, found, .first⟩
    · exact Or.inr ⟨last, ends, .next later found⟩

/-! Following a table through a cursor. -/

/-- Every row up to `cursor` that satisfies `p` has been seen. -/
def Covers (table : NumberedTable key) (p : α → Bool) (seen : α → Prop) (cursor : Int) : Prop :=
  ∀ row ∈ table.rows, p row.val = true → row.seq ≤ cursor → seen row.val

theorem covers_zero (table : NumberedTable key) (p : α → Bool) (seen : α → Prop) {cursor : Int}
    (start : cursor ≤ 0) : table.Covers p seen cursor := by
  intro row member _ below
  have := (table.numbered row member).1
  omega

theorem Covers.mono {table : NumberedTable key} {p : α → Bool} {seen seen' : α → Prop} {cursor : Int}
    (covers : table.Covers p seen cursor) (grows : ∀ a, seen a → seen' a) :
    table.Covers p seen' cursor :=
  fun row member selected below => grows _ (covers row member selected below)

theorem Covers.evolve {before now : NumberedTable key} {p : α → Bool} {seen : α → Prop}
    {cursor : Int} (covers : before.Covers p seen cursor) (evolves : before.Evolves now)
    (bound : cursor ≤ before.sequence) : now.Covers p seen cursor := by
  intro row member selected below
  rcases evolves.rows row member with old | fresh
  · exact covers row old selected below
  · omega

theorem Covers.page {table : NumberedTable key} {p : α → Bool} {seen : α → Prop}
    {cursor limit : Int} {last : Numbered α} (covers : table.Covers p seen cursor)
    (ends : (table.page p cursor limit).getLast? = some last)
    (read : ∀ row ∈ table.page p cursor limit, seen row.val) : table.Covers p seen last.seq := by
  intro row member selected below
  by_cases above : cursor < row.seq
  · exact read row (page_complete ends member selected above below)
  · exact covers row member selected (by omega)

/-- A page that was read some time ago carries the cursor just as far. -/
theorem Covers.page_past {past now : NumberedTable key} {p : α → Bool} {seen : α → Prop}
    {cursor limit : Int} {last : Numbered α} (covers : now.Covers p seen cursor) (evolves : past.Evolves now)
    (ends : (past.page p cursor limit).getLast? = some last)
    (read : ∀ row ∈ past.page p cursor limit, seen row.val) : now.Covers p seen last.seq := by
  intro row member selected below
  by_cases above : cursor < row.seq
  · have listed := (mem_page (List.mem_of_getLast? ends)).1
    have bound := (past.numbered last listed).2
    rcases evolves.rows row member with old | fresh
    · exact read row (page_complete ends old selected above below)
    · omega
  · exact covers row member selected (by omega)

theorem Covers.complete {table : NumberedTable key} {p : α → Bool} {seen : α → Prop}
    {cursor limit : Int} (covers : table.Covers p seen cursor) (nonzero : limit ≠ 0)
    (none : table.page p cursor limit = []) {row : Numbered α} (member : row ∈ table.rows)
    (selected : p row.val = true) : seen row.val :=
  covers row member selected (page_eq_nil nonzero none member selected)

end NumberedTable

end Foundations
