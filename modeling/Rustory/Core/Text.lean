import Mathlib.Data.List.Infix
import Mathlib.Data.List.TakeWhile
import Rustory.Foundations.Fields

namespace Rustory

open Foundations

/-! Rust's `str` methods, on the characters. -/

/-- `char::is_whitespace`, the Unicode property White_Space. -/
def isWhitespace (c : Char) : Bool :=
  (0x9 ≤ c.toNat && c.toNat ≤ 0xD) || c.toNat == 0x20 || c.toNat == 0x85 || c.toNat == 0xA0 ||
    c.toNat == 0x1680 || (0x2000 ≤ c.toNat && c.toNat ≤ 0x200A) || c.toNat == 0x2028 ||
    c.toNat == 0x2029 || c.toNat == 0x202F || c.toNat == 0x205F || c.toNat == 0x3000

theorem digit_not_space {c : Char} (digit : c.isDigit = true) : isWhitespace c = false := by
  obtain ⟨low, high⟩ := Char.isDigit_iff_toNat.mp digit
  have zero : '0'.toNat = 48 := rfl
  have nine : '9'.toNat = 57 := rfl
  unfold isWhitespace
  simp only [Bool.or_eq_false_iff, Bool.and_eq_false_iff, decide_eq_false_iff_not, beq_eq_false_iff_ne]
  omega

/-- `str::trim` -/
def trim (text : String) : String :=
  .ofList ((text.toList.dropWhile isWhitespace).reverse.dropWhile isWhitespace).reverse

/-- `str::trim_end` -/
def trimEnd (text : String) : String := .ofList (text.toList.reverse.dropWhile isWhitespace).reverse

/-- `str::trim_end_matches` -/
def trimEndMatches (p : Char → Bool) (text : String) : String := .ofList (text.toList.reverse.dropWhile p).reverse

theorem trimEndMatches_of_last {p : Char → Bool} {text : String} (kept : ∀ c ∈ text.toList.getLast?, p c = false) :
    trimEndMatches p text = text := by
  have stays : text.toList.reverse.dropWhile p = text.toList.reverse := by
    cases shape : text.toList.reverse with
    | nil => rfl
    | cons c rest =>
      have last : text.toList.getLast? = some c := by rw [← List.head?_reverse, shape, List.head?_cons]
      rw [List.dropWhile_cons_of_neg]
      simp [kept c last]
  rw [trimEndMatches, stays, List.reverse_reverse, String.ofList_toList]

theorem trimEndMatches_last (p : Char → Bool) (text : String) :
    ∀ c ∈ (trimEndMatches p text).toList.getLast?, p c = false := by
  intro c last
  unfold trimEndMatches at last
  rw [String.toList_ofList, List.getLast?_reverse] at last
  have first := List.head?_dropWhile_not p text.toList.reverse
  rw [last] at first
  exact first

theorem trimEndMatches_concat {p : Char → Bool} {c : Char} (dropped : p c = true) (line : List Char) :
    trimEndMatches p (.ofList (line ++ [c])) = trimEndMatches p (.ofList line) := by
  unfold trimEndMatches
  rw [String.toList_ofList, String.toList_ofList, List.reverse_append, List.reverse_singleton,
    List.singleton_append, List.dropWhile_cons_of_pos dropped]

theorem mem_dropWhile {c : Char} {chars : List Char} {p : Char → Bool} (member : c ∈ chars) (stays : p c = false) :
    c ∈ chars.dropWhile p := by
  induction chars with
  | nil => cases member
  | cons d rest ih =>
    rw [List.dropWhile_cons]
    split
    · rename_i dropped
      rcases List.mem_cons.mp member with rfl | later
      · rw [stays] at dropped
        cases dropped
      · exact ih later
    · exact member

def Visible (text : String) : Prop := ∃ c ∈ text.toList, isWhitespace c = false

theorem Visible.append {first : String} (visible : Visible first) (second : String) : Visible (first ++ second) := by
  obtain ⟨c, member, shown⟩ := visible
  rw [Visible, String.toList_append]
  exact ⟨c, List.mem_append_left _ member, shown⟩

theorem Visible.trim {text : String} (visible : Visible text) : (trim text).isEmpty = false := by
  obtain ⟨c, member, shown⟩ := visible
  have kept : c ∈ (Rustory.trim text).toList := by
    unfold Rustory.trim
    rw [String.toList_ofList, List.mem_reverse]
    exact mem_dropWhile (List.mem_reverse.mpr (mem_dropWhile member shown)) shown
  rw [← Bool.not_eq_true, String.isEmpty_iff]
  intro empty
  rw [empty] at kept
  cases kept

/-- Only the line end of a line without white space is trimmed. -/
theorem trim_line {text : String} (solid : ∀ c ∈ text.toList, isWhitespace c = false) :
    trim (text ++ "\n") = text := by
  have line : (text ++ "\n").toList = text.toList ++ ['\n'] := by
    rw [String.toList_append]
    rfl
  have kept : ∀ {chars : List Char}, (∀ c ∈ chars, isWhitespace c = false) → chars.dropWhile isWhitespace = chars := by
    intro chars solid
    rw [List.dropWhile_eq_self_iff]
    intro pos
    simp [solid _ (List.getElem_mem pos)]
  unfold trim
  rw [line]
  cases shape : text.toList with
  | nil =>
    rw [← String.toList_inj, String.toList_ofList, shape]
    rfl
  | cons c rest =>
    have first : isWhitespace c = false := solid c (shape ▸ List.mem_cons_self)
    rw [List.cons_append, List.dropWhile_cons_of_neg (by simp [first]), ← List.cons_append, ← shape,
      List.reverse_append, List.reverse_singleton, List.singleton_append,
      List.dropWhile_cons_of_pos (by decide), kept, List.reverse_reverse, String.ofList_toList]
    intro d member
    exact solid d (List.mem_reverse.mp member)

def normalizeOptString (value : Option String) : Option String :=
  match value with
  | none => none
  | some value => if (trim value).isEmpty then none else some (trim value)

/-- `str::split_whitespace().next()` -/
def splitWhitespaceNext (text : String) : Option String :=
  let word := (text.toList.dropWhile isWhitespace).takeWhile (fun c => !isWhitespace c)
  if word.isEmpty then none else some (.ofList word)

/-- `str::strip_prefix`, with the pattern first. -/
def stripStart (pattern text : String) : Option String :=
  if pattern.toList.isPrefixOf text.toList then
    some (.ofList (text.toList.drop pattern.toList.length))
  else
    none

/-- `str::split_once` at a character. -/
def splitOnce (delimiter : Char) (text : String) : Option (String × String) :=
  if delimiter ∈ text.toList then
    some (.ofList (text.toList.takeWhile (· != delimiter)),
      .ofList ((text.toList.dropWhile (· != delimiter)).drop 1))
  else
    none

theorem splitOnce_of_toList {delimiter : Char} {text : String} {before after : List Char}
    (split : text.toList = before ++ delimiter :: after) (free : delimiter ∉ before) :
    splitOnce delimiter text = some (.ofList before, .ofList after) := by
  have passes : ∀ c ∈ before, (c != delimiter) = true := by
    intro c member
    simp only [bne_iff_ne]
    rintro rfl
    exact free member
  unfold splitOnce
  rw [split, if_pos (by simp), List.takeWhile_append_of_pos passes, List.dropWhile_append_of_pos passes,
    List.takeWhile_cons_of_neg (by simp), List.dropWhile_cons_of_neg (by simp),
    List.append_nil, List.drop_one, List.tail_cons]

theorem stripStart_some {pattern text rest : String} :
    stripStart pattern text = some rest ↔ text = pattern ++ rest := by
  unfold stripStart
  rw [← String.toList_inj, String.toList_append]
  split
  · rename_i starts
    obtain ⟨tail, split⟩ := List.isPrefixOf_iff_prefix.mp starts
    rw [← split, List.drop_left, Option.some.injEq, ← String.toList_inj, String.toList_ofList,
      List.append_cancel_left_eq]
  · rename_i other
    simp only [reduceCtorEq, false_iff]
    intro same
    exact other (List.isPrefixOf_iff_prefix.mpr ⟨rest.toList, same.symm⟩)

theorem splitOnce_some {delimiter : Char} {text before after : String} :
    splitOnce delimiter text = some (before, after) ↔
      text.toList = before.toList ++ delimiter :: after.toList ∧ delimiter ∉ before.toList := by
  constructor
  · intro split
    have occurs : delimiter ∈ text.toList := by
      unfold splitOnce at split
      split at split
      · assumption
      · cases split
    obtain ⟨first, rest, shape, free⟩ := List.eq_append_cons_of_mem occurs
    rw [splitOnce_of_toList shape free] at split
    cases split
    rw [String.toList_ofList, String.toList_ofList]
    exact ⟨shape, free⟩
  · intro ⟨shape, free⟩
    rw [splitOnce_of_toList shape free, String.ofList_toList, String.ofList_toList]

/-- A line that was ended by a line feed, without the carriage return before it. -/
def stripCarriage (line : List Char) : List Char :=
  if line.getLast? = some '\r' then line.dropLast else line

def linesFrom (line : List Char) : List Char → List String
  | [] => if line.isEmpty then [] else [.ofList line]
  | c :: rest =>
    if c = '\n' then
      .ofList (stripCarriage line) :: linesFrom [] rest
    else
      linesFrom (line ++ [c]) rest

/-- `str::lines` -/
def lines (text : String) : List String := linesFrom [] text.toList

/-- `str::ends_with` for a line feed, or no text at all. -/
def EndsLine (text : String) : Prop := text = "" ∨ text.toList.getLast? = some '\n'

instance (text : String) : Decidable (EndsLine text) := inferInstanceAs (Decidable (_ ∨ _))

theorem linesFrom_append {first : List Char} (ends : first.getLast? = some '\n') (line second : List Char) :
    linesFrom line (first ++ second) = linesFrom line first ++ linesFrom [] second := by
  induction first generalizing line with
  | nil => cases ends
  | cons c rest ih =>
    rw [List.cons_append, linesFrom, linesFrom]
    cases rest with
    | nil =>
      cases ends
      rfl
    | cons d rest =>
      rw [List.getLast?_cons_cons] at ends
      split
      · rw [ih ends, List.cons_append]
      · exact ih ends _

theorem lines_append {first : String} (ends : EndsLine first) (second : String) :
    lines (first ++ second) = lines first ++ lines second := by
  unfold lines
  rw [String.toList_append]
  rcases ends with rfl | newline
  · rfl
  · exact linesFrom_append newline [] second.toList

/-! `str::parse::<i64>` -/

def minI64 : Int := -0x8000000000000000
def maxI64 : Int := 0x7FFFFFFFFFFFFFFF

def parseDigits (digits : List Char) : Option Nat :=
  if digits.isEmpty || !digits.all Char.isDigit then
    none
  else
    some (digits.foldl (fun value c => value * 10 + (c.toNat - '0'.toNat)) 0)

def parseI64 (text : String) : Option Int :=
  let value : Option Int :=
    match text.toList with
    | '-' :: digits => (parseDigits digits).map fun n => -n
    | '+' :: digits => (parseDigits digits).map fun n => n
    | digits => (parseDigits digits).map fun n => n
  value.filter fun n => decide (minI64 ≤ n ∧ n ≤ maxI64)

theorem parseDigits_some {digits : List Char} {n : Nat} (read : parseDigits digits = some n) {c : Char}
    (member : c ∈ digits) : c.isDigit = true := by
  unfold parseDigits at read
  split at read
  · cases read
  · rename_i wellFormed
    rw [Bool.not_eq_true, Bool.or_eq_false_iff, Bool.not_eq_false'] at wellFormed
    exact List.all_eq_true.mp wellFormed.2 c member

theorem parseDigits_map {digits : List Char} {f : Int → Int} {n : Int}
    (read : Option.map f (parseDigits digits) = some n) {c : Char} (member : c ∈ digits) :
    c.isDigit = true := by
  cases found : parseDigits digits with
  | none =>
    rw [found] at read
    cases read
  | some value => exact parseDigits_some found member

/-- A number is written with digits and at most a sign. -/
theorem parseI64_some {text : String} {n : Int} (read : parseI64 text = some n) {c : Char}
    (member : c ∈ text.toList) : c.isDigit = true ∨ c = '-' ∨ c = '+' := by
  unfold parseI64 at read
  dsimp only at read
  obtain ⟨value, -⟩ := Option.filter_eq_some_iff.mp read
  split at value
  · rename_i digits shape
    rw [shape] at member
    rcases List.mem_cons.mp member with rfl | later
    · exact Or.inr (Or.inl rfl)
    · exact Or.inl (parseDigits_map value later)
  · rename_i digits shape
    rw [shape] at member
    rcases List.mem_cons.mp member with rfl | later
    · exact Or.inr (Or.inr rfl)
    · exact Or.inl (parseDigits_map value later)
  · exact Or.inl (parseDigits_map value member)

theorem parseI64_solid {text : String} {n : Int} (read : parseI64 text = some n) {c : Char}
    (member : c ∈ text.toList) : isWhitespace c = false := by
  rcases parseI64_some read member with digit | rfl | rfl
  · exact digit_not_space digit
  · rfl
  · rfl

/-! A number that is written in decimal is read back. -/

theorem parseDigits_repr (n : Nat) : parseDigits (Nat.repr n).toList = some n := by
  have digits : (Nat.repr n).toList.all Char.isDigit = true := by
    rw [List.all_eq_true, Nat.toList_repr]
    intro c member
    exact Nat.isDigit_of_mem_toDigits (by decide) (by decide) member
  have some_digit : (Nat.repr n).toList.isEmpty = false := by
    rw [Nat.toList_repr, List.isEmpty_eq_false_iff]
    exact Nat.toDigits_ne_nil
  have value := @Nat.ofDigitChars_ten_toDigits n
  rw [Nat.ofDigitChars_eq_foldl] at value
  unfold parseDigits
  rw [digits, some_digit, Nat.toList_repr]
  simp only [Bool.not_true, Bool.or_self, Bool.false_eq_true, if_false, Nat.mul_comm _ 10]
  rw [value]

theorem parseI64_repr {n : Int} (range : minI64 ≤ n ∧ n ≤ maxI64) : parseI64 (Int.repr n) = some n := by
  by_cases nonneg : 0 ≤ n
  · have written : Int.repr n = Nat.repr n.toNat := by rw [Int.repr_eq_if, if_pos nonneg]
    have value : (n.toNat : Int) = n := Int.toNat_of_nonneg nonneg
    unfold parseI64
    rw [written]
    dsimp only
    split
    · rename_i digits shape
      exact absurd (shape ▸ List.mem_cons_self) (not_mem_natRepr (by decide) n.toNat)
    · rename_i digits shape
      exact absurd (shape ▸ List.mem_cons_self) (not_mem_natRepr (by decide) n.toNat)
    · simp [parseDigits_repr, -Nat.toList_repr, value, range, Option.filter]
  · have written : (Int.repr n).toList = '-' :: (Nat.repr (-n).toNat).toList := by
      rw [Int.repr_eq_if, if_neg nonneg, String.toList_append]
      rfl
    have value : -((-n).toNat : Int) = n := by omega
    unfold parseI64
    rw [written]
    simp [parseDigits_repr, -Nat.toList_repr, -Int.ofNat_toNat, value, range, Option.filter]

end Rustory
