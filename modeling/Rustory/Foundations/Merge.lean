import Mathlib.Data.List.AList
import Mathlib.Data.List.Induction

namespace Foundations

/-! Items written to a table one after the other, where the first or the last of a key stays. -/

section

variable {γ κ ν : Type*} [DecidableEq κ] (key : γ → κ) (value : γ → ν)

def firstAt (items : List γ) (k : κ) : Option γ := items.find? fun item => decide (key item = k)

def lastAt (items : List γ) (k : κ) : Option γ := firstAt key items.reverse k

def keepFirst (table : AList fun _ : κ => ν) (item : γ) : AList fun _ : κ => ν :=
  if key item ∈ table then table else table.insert (key item) (value item)

def keepLast (table : AList fun _ : κ => ν) (item : γ) : AList fun _ : κ => ν :=
  table.insert (key item) (value item)

variable {key value} {items : List γ} {item : γ} {k : κ}

theorem firstAt_some (found : firstAt key items k = some item) : item ∈ items ∧ key item = k :=
  ⟨List.mem_of_find?_eq_some found, by simpa using List.find?_some found⟩

theorem firstAt_isSome : (firstAt key items k).isSome ↔ ∃ item ∈ items, key item = k := by
  simp [firstAt]

theorem lookup_keepFirst (table : AList fun _ : κ => ν) (items : List γ) (k : κ) :
    (items.foldl (keepFirst key value) table).lookup k =
      (table.lookup k).or ((firstAt key items k).map value) := by
  induction items generalizing table with
  | nil => simp [firstAt]
  | cons item rest ih =>
    rw [List.foldl_cons, ih]
    unfold keepFirst firstAt
    rw [List.find?_cons]
    by_cases same : key item = k
    · rw [decide_eq_true same, same]
      split
      · rename_i present
        obtain ⟨row, found⟩ := Option.isSome_iff_exists.mp (AList.lookup_isSome.mpr present)
        rw [found, Option.some_or, Option.some_or]
      · rename_i absent
        rw [AList.lookup_insert, AList.lookup_eq_none.mpr absent, Option.some_or, Option.none_or, Option.map_some]
    · rw [decide_eq_false same]
      split
      · rfl
      · rw [AList.lookup_insert_ne (Ne.symm same)]

theorem lookup_keepLast (table : AList fun _ : κ => ν) (items : List γ) (k : κ) :
    (items.foldl (keepLast key value) table).lookup k =
      ((lastAt key items k).map value).or (table.lookup k) := by
  induction items generalizing table with
  | nil => simp [lastAt, firstAt]
  | cons item rest ih =>
    rw [List.foldl_cons, ih]
    unfold lastAt firstAt
    rw [List.reverse_cons, List.find?_append, List.find?_singleton]
    cases List.find? (fun item => decide (key item = k)) rest.reverse with
    | some last => rfl
    | none =>
      unfold keepLast
      by_cases same : key item = k
      · rw [same, AList.lookup_insert]
        simp
      · rw [AList.lookup_insert_ne (Ne.symm same)]
        simp [same]

theorem firstAt_flatMap {β : Type*} (parts : List β) (part : β → List γ) (k : κ) :
    firstAt key (parts.flatMap part) k = parts.findSome? fun p => firstAt key (part p) k := by
  unfold firstAt
  rw [List.find?_flatMap]

theorem lastAt_flatMap {β : Type*} (parts : List β) (part : β → List γ) (k : κ) :
    lastAt key (parts.flatMap part) k = parts.reverse.findSome? fun p => lastAt key (part p) k := by
  unfold lastAt
  rw [List.reverse_flatMap, firstAt_flatMap]
  rfl

end

/-! Which orders of the parts give the same value. -/

section

variable {β ν : Type*} {f : β → Option ν} {parts order : List β}

theorem findSome?_perm_isSome (perm : order.Perm parts) :
    (order.findSome? f).isSome = (parts.findSome? f).isSome := by
  rw [Bool.eq_iff_iff, List.findSome?_isSome_iff, List.findSome?_isSome_iff]
  constructor
  · intro ⟨part, member, found⟩
    exact ⟨part, perm.subset member, found⟩
  · intro ⟨part, member, found⟩
    exact ⟨part, perm.symm.subset member, found⟩

/-- The first value is the same in every order of the parts exactly when no two parts differ. -/
theorem findSome?_perm_iff :
    (∀ order : List β, order.Perm parts → order.findSome? f = parts.findSome? f) ↔
      ∀ a ∈ parts, ∀ b ∈ parts, ∀ x y, f a = some x → f b = some y → x = y := by
  constructor
  · intro same a inA b inB x y atA atB
    have front : ∀ part ∈ parts, ∀ z, f part = some z → parts.findSome? f = some z := by
      intro part member z found
      obtain ⟨before, after, split⟩ := List.append_of_mem member
      have perm : (part :: (before ++ after)).Perm parts := split ▸ List.perm_middle.symm
      rw [← same _ perm, List.findSome?_cons, found]
    exact Option.some.inj ((front a inA x atA).symm.trans (front b inB y atB))
  · intro agree order perm
    cases found : order.findSome? f with
    | none =>
      have none := @findSome?_perm_isSome _ _ f _ _ perm
      rw [found, Option.isSome_none, eq_comm, Option.isSome_eq_false_iff, Option.isNone_iff_eq_none] at none
      exact none.symm
    | some x =>
      have some := @findSome?_perm_isSome _ _ f _ _ perm
      rw [found, Option.isSome_some, eq_comm] at some
      obtain ⟨y, found'⟩ := Option.isSome_iff_exists.mp some
      obtain ⟨a, inA, atA⟩ := List.exists_of_findSome?_eq_some found
      obtain ⟨b, inB, atB⟩ := List.exists_of_findSome?_eq_some found'
      rw [found', agree a (perm.subset inA) b inB x y atA atB]

theorem findSome?_reverse_perm_iff :
    (∀ order : List β, order.Perm parts → order.reverse.findSome? f = parts.reverse.findSome? f) ↔
      ∀ a ∈ parts, ∀ b ∈ parts, ∀ x y, f a = some x → f b = some y → x = y := by
  have reversed := @findSome?_perm_iff _ _ f parts.reverse
  simp only [List.mem_reverse] at reversed
  rw [← reversed]
  constructor
  · intro same order perm
    have given := same order.reverse (List.reverse_perm'.mpr (perm.trans (List.reverse_perm parts)))
    rwa [List.reverse_reverse] at given
  · intro same order perm
    exact same order.reverse (List.reverse_perm'.mpr (perm.trans (List.reverse_perm parts).symm))

end

/-! Texts read one after the other, where what was read before is left out. -/

section

variable {σ α κ : Type*} [BEq σ] [LawfulBEq σ] (decode : σ → Option α) (key : α → κ) (encode : α → σ)

/-- The values found so far and their keys: all values are there, each once, in the order in which their
    texts first occur. -/
structure Collected (raws : List σ) (found : List α × List κ) : Prop where
  keys : ∀ k, k ∈ found.2 ↔ ∃ value ∈ found.1, key value = k
  exact : ∀ value, value ∈ found.1 ↔ ∃ raw ∈ raws, decode raw = some value
  ordered : found.1.Pairwise fun a b => raws.idxOf (encode a) < raws.idxOf (encode b)

variable {decode key encode} {raws : List σ} {found : List α × List κ} {raw : σ}

theorem Collected.kept (collected : Collected decode key encode raws found)
    (texts : ∀ text ∈ raws, ∀ value, decode text = some value → encode value = text) (raw : σ) :
    found.1.Pairwise fun a b => (raws ++ [raw]).idxOf (encode a) < (raws ++ [raw]).idxOf (encode b) := by
  apply collected.ordered.imp_of_mem
  intro a b inA inB earlier
  obtain ⟨textA, listedA, readA⟩ := (collected.exact a).mp inA
  obtain ⟨textB, listedB, readB⟩ := (collected.exact b).mp inB
  rw [← texts textA listedA a readA] at listedA
  rw [← texts textB listedB b readB] at listedB
  rwa [List.idxOf_append, List.idxOf_append, if_pos listedA, if_pos listedB]

/-- A text that cannot be read, or whose value is there already. -/
theorem Collected.skip (collected : Collected decode key encode raws found)
    (texts : ∀ text ∈ raws, ∀ value, decode text = some value → encode value = text)
    (known : ∀ value, decode raw = some value → value ∈ found.1) :
    Collected decode key encode (raws ++ [raw]) found := by
  refine ⟨collected.keys, ?_, collected.kept texts raw⟩
  intro value
  rw [collected.exact]
  constructor
  · intro ⟨text, listed, read⟩
    exact ⟨text, List.mem_append_left _ listed, read⟩
  · intro ⟨text, listed, read⟩
    rcases List.mem_append.mp listed with earlier | last
    · exact ⟨text, earlier, read⟩
    · rw [List.mem_singleton.mp last] at read
      exact (collected.exact value).mp (known value read)

theorem Collected.new (collected : Collected decode key encode raws found)
    (texts : ∀ text ∈ raws ++ [raw], ∀ value, decode text = some value → encode value = text) {value : α}
    (read : decode raw = some value) (new : key value ∉ found.2) :
    Collected decode key encode (raws ++ [raw]) (found.1 ++ [value], key value :: found.2) := by
  have earlier : ∀ text ∈ raws, ∀ value, decode text = some value → encode value = text :=
    fun text listed => texts text (List.mem_append_left _ listed)
  have fresh : raw ∉ raws := by
    intro listed
    exact new ((collected.keys _).mpr ⟨value, (collected.exact value).mpr ⟨raw, listed, read⟩, rfl⟩)
  constructor
  · intro k
    simp only [List.mem_append, List.mem_singleton, or_and_right, exists_or, exists_eq_left]
    rw [List.mem_cons, collected.keys, or_comm, @eq_comm _ k]
  · intro other
    simp only [List.mem_append, List.mem_singleton, or_and_right, exists_or, exists_eq_left]
    rw [collected.exact, read, Option.some.injEq, @eq_comm _ other]
  · rw [List.pairwise_append]
    refine ⟨collected.kept earlier raw, List.pairwise_singleton _ _, ?_⟩
    intro a inA b inB
    obtain ⟨text, listed, readA⟩ := (collected.exact a).mp inA
    rw [← earlier text listed a readA] at listed
    rw [List.mem_singleton.mp inB, texts raw (by simp) value read, List.idxOf_append, List.idxOf_append,
      if_pos listed, if_neg fresh]
    have inside := List.idxOf_lt_length_of_mem listed
    omega

variable [DecidableEq κ]

variable (decode key) in
def collectNew (found : List α × List κ) (raw : σ) : List α × List κ :=
  match decode raw with
  | none => found
  | some value => if key value ∈ found.2 then found else (found.1 ++ [value], key value :: found.2)

/-- Where every text that can be read is the text of its value, and no two values share a key. -/
theorem collected_run (raws : List σ)
    (texts : ∀ text ∈ raws, ∀ value, decode text = some value → encode value = text)
    (apart : ∀ text ∈ raws, ∀ other ∈ raws, ∀ a b, decode text = some a → decode other = some b →
      key a = key b → a = b) :
    Collected decode key encode raws (raws.foldl (collectNew decode key) ([], [])) := by
  induction raws using List.reverseRecOn with
  | nil => exact ⟨by simp, by simp, List.Pairwise.nil⟩
  | append_singleton raws raw ih =>
    have before := ih (fun text listed => texts text (List.mem_append_left _ listed))
      fun text listed other listed' => apart text (List.mem_append_left _ listed) other (List.mem_append_left _ listed')
    have earlier : ∀ text ∈ raws, ∀ value, decode text = some value → encode value = text :=
      fun text listed => texts text (List.mem_append_left _ listed)
    rw [List.foldl_append, List.foldl_cons, List.foldl_nil]
    generalize raws.foldl (collectNew decode key) ([], []) = found at before
    unfold collectNew
    split
    · rename_i unread
      exact before.skip earlier fun value read => by rw [unread] at read; cases read
    · rename_i value read
      split
      · rename_i again
        obtain ⟨same, member, equal⟩ := (before.keys (key value)).mp again
        obtain ⟨text, listed, readSame⟩ := (before.exact same).mp member
        apply before.skip earlier
        intro other readOther
        rw [read] at readOther
        have equals := apart text (List.mem_append_left _ listed) raw (by simp) same value readSame read equal
        rwa [← Option.some.inj readOther, ← equals]
      · rename_i new
        exact before.new texts read new

end

end Foundations
