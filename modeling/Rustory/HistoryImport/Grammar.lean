import Mathlib.Data.List.Forall2
import Rustory.HistoryImport.Parse

namespace Rustory

/-! What the head of `parse_zsh_history` says of a line. -/

/-- `: <i64>:<i64>;rest` -/
def ExtendedLine (line : String) (ts dur : Int) (rest : String) : Prop :=
  ∃ tsText durText, line = ": " ++ tsText ++ ":" ++ durText ++ ";" ++ rest ∧
    parseI64 tsText = some ts ∧ parseI64 durText = some dur

inductive Documented (index : Nat) (line : String) : HistoryRecord → Prop
  | extended (ts dur : Int) (rest : String) :
      ExtendedLine line ts dur rest →
      Documented index line ⟨index, some ts, saturatingMillis dur, rest⟩
  | plain : (∀ ts dur rest, ¬ ExtendedLine line ts dur rest) → Documented index line ⟨index, none, 0, line⟩

def nonBlankLines (content : String) : List String :=
  ((lines content).map trimEnd).filter fun line => !line.isEmpty

/-- One record for each line that is not blank, in order, numbered from 0. -/
def DocumentedHistory (content : String) (records : List HistoryRecord) : Prop :=
  List.Forall₂ (fun numbered record => Documented numbered.2 numbered.1 record)
    (nonBlankLines content).zipIdx records

/-! Where the code cuts a line: at its first `;`, and before that at the first `:`. -/

structure Cut (line tsText durText rest : String) : Prop where
  line : line = ": " ++ tsText ++ ":" ++ durText ++ ";" ++ rest
  tsText : ':' ∉ tsText.toList ∧ ';' ∉ tsText.toList
  durText : ';' ∉ durText.toList

/-- The line is cut, and one of the two parts is no number. -/
def Garbled (line : String) : Prop :=
  ∃ tsText durText rest, Cut line tsText durText rest ∧
    (parseI64 tsText = none ∨ parseI64 durText = none)

def extendedParts (line : String) : Option (String × String × String) := do
  let rest ← stripStart ": " line
  let (header, after) ← splitOnce ';' rest
  let (ts, dur) ← splitOnce ':' header
  return (ts, dur, after)

theorem extendedParts_some {line tsText durText rest : String} :
    extendedParts line = some (tsText, durText, rest) ↔ Cut line tsText durText rest := by
  unfold extendedParts
  simp only [Option.bind_eq_bind, Option.bind_eq_some_iff, stripStart_some, splitOnce_some, Option.pure_def,
    Option.some.injEq, Prod.exists, Prod.mk.injEq]
  constructor
  · rintro ⟨tail, rfl, header, after, ⟨headerEnd, noSemicolon⟩, ts, dur, ⟨tsEnd, noColon⟩, rfl, rfl, rfl⟩
    rw [tsEnd, List.mem_append, List.mem_cons, not_or, not_or] at noSemicolon
    obtain ⟨tsFree, -, durFree⟩ := noSemicolon
    apply Cut.mk _ ⟨noColon, tsFree⟩ durFree
    rw [← String.toList_inj]
    simp only [String.toList_append, headerEnd, tsEnd]
    simp
  · rintro ⟨rfl, ⟨noColon, noSemicolon⟩, durFree⟩
    refine ⟨tsText ++ ":" ++ durText ++ ";" ++ rest, by simp only [String.append_assoc],
      tsText ++ ":" ++ durText, rest, ⟨by simp, ?_⟩, tsText, durText, ⟨by simp, noColon⟩, rfl, rfl, rfl⟩
    simp [noSemicolon, durFree]

theorem Cut.unique {line tsText tsText' durText durText' rest rest' : String}
    (cut : Cut line tsText durText rest) (cut' : Cut line tsText' durText' rest') :
    tsText = tsText' ∧ durText = durText' ∧ rest = rest' := by
  have same := (extendedParts_some.mpr cut).symm.trans (extendedParts_some.mpr cut')
  simpa using same

theorem Cut.shorter {line tsText durText rest : String} (cut : Cut line tsText durText rest) :
    rest ≠ line := by
  intro same
  have length := congrArg (fun text => text.toList.length) (same.trans cut.line)
  simp at length
  omega

theorem ExtendedLine.cut {line rest : String} {ts dur : Int} (extended : ExtendedLine line ts dur rest) :
    ∃ tsText durText, Cut line tsText durText rest ∧ parseI64 tsText = some ts ∧ parseI64 durText = some dur := by
  obtain ⟨tsText, durText, shape, tsRead, durRead⟩ := extended
  have separators : ∀ {text : String} {n : Int}, parseI64 text = some n → ∀ c, c = ':' ∨ c = ';' → c ∉ text.toList := by
    intro text n read c separator member
    rcases parseI64_some read member with digit | rfl | rfl
    · rcases separator with rfl | rfl <;> cases digit
    · simp at separator
    · simp at separator
  exact ⟨tsText, durText, ⟨shape, ⟨separators tsRead _ (Or.inl rfl), separators tsRead _ (Or.inr rfl)⟩,
    separators durRead _ (Or.inr rfl)⟩, tsRead, durRead⟩

/-! What the code makes of a line. -/

def recordOfParts (index : Nat) (line : String) : Option (String × String × String) → HistoryRecord
  | none => ⟨index, none, 0, line⟩
  | some (ts, dur, after) =>
    ⟨index, parseI64 ts, ((parseI64 dur).map saturatingMillis).getD 0, after⟩

theorem zshRecord_eq (index : Nat) (line : String) :
    zshRecord index line = recordOfParts index line (extendedParts line) := rfl

theorem zshRecord_cut {line tsText durText rest : String} (cut : Cut line tsText durText rest) (index : Nat) :
    zshRecord index line =
      ⟨index, parseI64 tsText, ((parseI64 durText).map saturatingMillis).getD 0, rest⟩ := by
  rw [zshRecord_eq, extendedParts_some.mpr cut, recordOfParts]

theorem zshRecord_uncut {line : String} (uncut : ∀ tsText durText rest, ¬ Cut line tsText durText rest)
    (index : Nat) : zshRecord index line = ⟨index, none, 0, line⟩ := by
  have whole : extendedParts line = none := by
    rw [Option.eq_none_iff_forall_ne_some]
    intro parts found
    exact uncut _ _ _ (extendedParts_some.mp found)
  rw [zshRecord_eq, whole, recordOfParts]

/-- A line that is cut and not of the documented form keeps only what follows its `;`. -/
theorem Cut.documented_iff {line tsText durText rest : String} (cut : Cut line tsText durText rest) (index : Nat) :
    Documented index line (zshRecord index line) ↔
      (parseI64 tsText).isSome ∧ (parseI64 durText).isSome := by
  rw [zshRecord_cut cut]
  constructor
  · intro documented
    generalize record : (⟨index, parseI64 tsText, ((parseI64 durText).map saturatingMillis).getD 0, rest⟩ :
      HistoryRecord) = documentedRecord at documented
    cases documented with
    | extended ts dur rest' extended =>
      obtain ⟨tsText', durText', cut', tsRead, durRead⟩ := extended.cut
      obtain ⟨rfl, rfl, -⟩ := cut.unique cut'
      rw [tsRead, durRead]
      exact ⟨rfl, rfl⟩
    | plain => exact absurd (congrArg HistoryRecord.cmd record) cut.shorter
  · intro ⟨tsNumber, durNumber⟩
    obtain ⟨ts, tsRead⟩ := Option.isSome_iff_exists.mp tsNumber
    obtain ⟨dur, durRead⟩ := Option.isSome_iff_exists.mp durNumber
    rw [tsRead, durRead]
    exact .extended ts dur rest ⟨tsText, durText, cut.line, tsRead, durRead⟩

theorem zshRecord_documented_iff (index : Nat) (line : String) :
    Documented index line (zshRecord index line) ↔ ¬ Garbled line := by
  by_cases cuts : ∃ tsText durText rest, Cut line tsText durText rest
  · obtain ⟨tsText, durText, rest, cut⟩ := cuts
    rw [cut.documented_iff, Option.isSome_iff_ne_none, Option.isSome_iff_ne_none, ← not_or, not_iff_not]
    constructor
    · intro noNumber
      exact ⟨tsText, durText, rest, cut, noNumber⟩
    · intro garbled
      obtain ⟨tsText', durText', rest', cut', noNumber⟩ := garbled
      obtain ⟨rfl, rfl, -⟩ := cut.unique cut'
      exact noNumber
  · push Not at cuts
    rw [zshRecord_uncut cuts]
    apply iff_of_true
    · apply Documented.plain
      intro ts dur rest extended
      obtain ⟨tsText, durText, cut, -⟩ := extended.cut
      exact cuts _ _ _ cut
    · intro garbled
      obtain ⟨tsText, durText, rest, cut, -⟩ := garbled
      exact cuts _ _ _ cut

/-! The whole history. -/

theorem zshRecords_eq (cmdIndex : Nat) (source : List String) :
    zshRecords cmdIndex source =
      (((source.map trimEnd).filter fun line => !line.isEmpty).zipIdx cmdIndex).map
        fun numbered => zshRecord numbered.2 numbered.1 := by
  induction source generalizing cmdIndex with
  | nil => rfl
  | cons raw rest ih =>
    rw [zshRecords, List.map_cons, List.filter_cons]
    by_cases blank : (trimEnd raw).isEmpty = true
    · simp only [blank, if_true, Bool.not_true, Bool.false_eq_true, if_false]
      exact ih cmdIndex
    · rw [Bool.not_eq_true] at blank
      simp only [blank, Bool.false_eq_true, if_false, Bool.not_false, if_true, List.zipIdx_cons, List.map_cons]
      rw [ih]

/-- `parse_zsh_history` follows its documentation on the contents without a garbled line. -/
theorem zsh_history_documented_iff (content : String) :
    DocumentedHistory content (parseZshHistory content) ↔ ∀ line ∈ nonBlankLines content, ¬ Garbled line := by
  have records : parseZshHistory content =
      (nonBlankLines content).zipIdx.map fun numbered => zshRecord numbered.2 numbered.1 :=
    zshRecords_eq 0 (lines content)
  unfold DocumentedHistory
  rw [records, List.forall₂_map_right_iff, List.forall₂_same]
  simp only [zshRecord_documented_iff]
  constructor
  · intro all line member
    rw [← List.zipIdx_map_fst 0 (nonBlankLines content)] at member
    obtain ⟨numbered, listed, rfl⟩ := List.mem_map.mp member
    exact all numbered listed
  · intro all numbered member
    exact all numbered.1 (List.fst_mem_of_mem_zipIdx member)

def noOpLine : String := ": $\x7bEDITOR:=vim\x7d; export EDITOR"

/-- A shell no-op with a command after it: the record holds the command alone. -/
theorem no_op_line_is_cut : ¬ ∀ content, DocumentedHistory content (parseZshHistory content) := by
  intro documented
  have history := documented noOpLine
  have line : nonBlankLines noOpLine = [noOpLine] := by decide
  have record : parseZshHistory noOpLine = [zshRecord 0 noOpLine] := by decide
  rw [DocumentedHistory, line, record] at history
  have cut : Cut noOpLine "$\x7bEDITOR" "=vim\x7d" " export EDITOR" := ⟨by decide, by decide, by decide⟩
  cases history with
  | cons first _ => exact (zshRecord_documented_iff 0 noOpLine).mp first ⟨_, _, _, cut, Or.inl (by decide)⟩

end Rustory
