import Mathlib.Data.List.Basic

namespace Foundations

variable {α : Type*}

/-- Fields that each end in a separator, and a last one that does not. -/
def joinFields (sep : α) : List (List α) → List α → List α
  | [], last => last
  | field :: rest, last => field ++ sep :: joinFields sep rest last

theorem append_sep_inj {sep : α} {a b rest rest' : List α} (free : sep ∉ a) (free' : sep ∉ b)
    (same : a ++ sep :: rest = b ++ sep :: rest') : a = b ∧ rest = rest' := by
  induction a generalizing b with
  | nil =>
    cases b with
    | nil => exact ⟨rfl, (List.cons.inj same).2⟩
    | cons y b =>
      obtain ⟨rfl, -⟩ := List.cons.inj same
      exact absurd List.mem_cons_self free'
  | cons x a ih =>
    cases b with
    | nil =>
      obtain ⟨rfl, -⟩ := List.cons.inj same
      exact absurd List.mem_cons_self free
    | cons y b =>
      obtain ⟨rfl, later⟩ := List.cons.inj same
      have tail : sep ∉ a := fun member => free (List.mem_cons_of_mem x member)
      have tail' : sep ∉ b := fun member => free' (List.mem_cons_of_mem x member)
      obtain ⟨rfl, rests⟩ := ih tail tail' later
      exact ⟨rfl, rests⟩

/-- Only the last field may hold the separator. -/
theorem joinFields_inj {sep : α} {fields fields' : List (List α)} {last last' : List α}
    (count : fields.length = fields'.length) (free : ∀ field ∈ fields, sep ∉ field)
    (free' : ∀ field ∈ fields', sep ∉ field)
    (same : joinFields sep fields last = joinFields sep fields' last') :
    fields = fields' ∧ last = last' := by
  induction fields generalizing fields' with
  | nil =>
    obtain rfl := List.length_eq_zero_iff.mp count.symm
    exact ⟨rfl, same⟩
  | cons field rest ih =>
    cases fields' with
    | nil => cases count
    | cons field' rest' =>
      obtain ⟨here, there⟩ := List.forall_mem_cons.mp free
      obtain ⟨here', there'⟩ := List.forall_mem_cons.mp free'
      obtain ⟨rfl, tail⟩ := append_sep_inj here here' same
      obtain ⟨rfl, lasts⟩ := ih (Nat.succ.inj count) there there' tail
      exact ⟨rfl, lasts⟩

/-! Numbers in decimal. -/

theorem not_mem_natRepr {c : Char} (other : c.isDigit = false) (n : Nat) : c ∉ (Nat.repr n).toList := by
  intro member
  rw [Nat.toList_repr] at member
  have digit := Nat.isDigit_of_mem_toDigits (by decide) (by decide) member
  rw [other] at digit
  cases digit

theorem not_mem_intRepr {c : Char} (other : c.isDigit = false) (unsigned : c ≠ '-') (n : Int) :
    c ∉ (Int.repr n).toList := by
  rw [Int.repr_eq_if]
  split
  · exact not_mem_natRepr other _
  · rw [String.toList_append, List.mem_append, not_or]
    exact ⟨by simpa using unsigned, not_mem_natRepr other _⟩

end Foundations
