import Rustory.Core.Error
import Rustory.Core.Text
import Rustory.Storage.Store

namespace Rustory

open LocalStore

def isLineBreak (c : Char) : Bool := c == '\n' || c == '\r'

def sanitizeOneLine (value : String) : String :=
  .ofList (value.toList.map fun c => if isLineBreak c then ' ' else c)

def formatFzfLine (e : Entry) : String := e.entryId ++ "\t" ++ sanitizeOneLine e.cmd

def formatFzfLines (entries : List Entry) : List String := entries.map formatFzfLine

def parseSelectedCmd (selectedLine : String) : Option String :=
  let line := trimEndMatches isLineBreak selectedLine
  if line.isEmpty then
    none
  else
    let cmd :=
      match splitOnce '\t' line with
      | some (_, cmd) => cmd
      | none => line
    if cmd.isEmpty then none else some cmd

/-! `run_fzf` -/

/-- What fzf leaves when it has ended; a process that a signal ended has no code. -/
structure FzfOutput where
  code : Option Int
  stdout : String

/-- What is written to fzf: every line with a line feed. -/
def fzfStdin (lines : List String) : String := .ofList (lines.flatMap fun line => line.toList ++ ['\n'])

def runFzf (fzf : String → Except Error FzfOutput) (lines : List String) : Except Error (Option String) :=
  match fzf (fzfStdin lines) with
  | .error err => .error err
  | .ok out =>
    match out.code with
    | some code =>
      if code = 0 then
        let selected := trimEndMatches isLineBreak out.stdout
        if selected.isEmpty then .ok none else .ok (some selected)
      else if code = 1 ∨ code = 130 then
        .ok none
      else
        .error (bail ("fzf exited with status code " ++ Int.repr code))
    | none => .error (bail "fzf terminated by signal")

def selectCommand (fzf : String → Except Error FzfOutput) (entries : List Entry) : Except Error (Option String) :=
  if entries.isEmpty then
    .ok none
  else
    match runFzf fzf (formatFzfLines entries) with
    | .error err => .error err
    | .ok none => .ok none
    | .ok (some selectedLine) => .ok (parseSelectedCmd selectedLine)

/-- The items that fzf offers, one for each line feed of its input. -/
def fzfItems (stdin : String) : List String := (stdin.toList.splitOn '\n').dropLast.map String.ofList

/-- The item at this place is selected, which fzf writes with a line feed. -/
def SelectsItem (fzf : String → Except Error FzfOutput) (place : Nat) : Prop :=
  ∀ stdin item, (fzfItems stdin)[place]? = some item → fzf stdin = .ok ⟨some 0, item ++ "\n"⟩

/-- The line of an entry, by itself and among the others, gives its command back. -/
structure PicksCommands (entries : List Entry) : Prop where
  lines : ∀ e ∈ entries, (∀ c ∈ (formatFzfLine e).toList, isLineBreak c = false) ∧
    parseSelectedCmd (formatFzfLine e) = some (sanitizeOneLine e.cmd)
  selects : ∀ fzf place e, entries[place]? = some e → SelectsItem fzf place →
    selectCommand fzf entries = .ok (some (sanitizeOneLine e.cmd))

/-- The id holds neither the separator nor a line break. -/
def PlainId (entryId : EntryId) : Prop :=
  '\t' ∉ entryId.toList ∧ '\n' ∉ entryId.toList ∧ '\r' ∉ entryId.toList

instance (entryId : EntryId) : Decidable (PlainId entryId) := inferInstanceAs (Decidable (_ ∧ _))

theorem lineBreak_free_iff {chars : List Char} :
    (∀ c ∈ chars, isLineBreak c = false) ↔ '\n' ∉ chars ∧ '\r' ∉ chars := by
  constructor
  · intro free
    exact ⟨fun newline => absurd (free _ newline) (by decide), fun carriage => absurd (free _ carriage) (by decide)⟩
  · intro ⟨newline, carriage⟩ c member
    unfold isLineBreak
    rw [Bool.or_eq_false_iff, beq_eq_false_iff_ne, beq_eq_false_iff_ne]
    exact ⟨ne_of_mem_of_not_mem member newline, ne_of_mem_of_not_mem member carriage⟩

theorem sanitizeOneLine_free {value : String} {c : Char} (member : c ∈ (sanitizeOneLine value).toList) :
    isLineBreak c = false := by
  rw [sanitizeOneLine, String.toList_ofList, List.mem_map] at member
  obtain ⟨d, -, same⟩ := member
  rw [← same]
  split
  · rfl
  · rename_i other
    simpa using other

theorem sanitizeOneLine_nonempty {value : String} (nonempty : value ≠ "") :
    (sanitizeOneLine value).toList ≠ [] := by
  rw [sanitizeOneLine, String.toList_ofList, Ne, List.map_eq_nil_iff]
  intro empty
  exact nonempty (String.toList_inj.mp empty)

theorem formatFzfLine_toList (e : Entry) :
    (formatFzfLine e).toList = e.entryId.toList ++ '\t' :: (sanitizeOneLine e.cmd).toList := by
  rw [formatFzfLine, String.toList_append, String.toList_append, List.append_assoc]
  rfl

theorem formatFzfLine_free_iff {e : Entry} :
    (∀ c ∈ (formatFzfLine e).toList, isLineBreak c = false) ↔
      ∀ c ∈ e.entryId.toList, isLineBreak c = false := by
  rw [formatFzfLine_toList, List.forall_mem_append, and_iff_left]
  intro c member
  rcases List.mem_cons.mp member with rfl | inside
  · rfl
  · exact sanitizeOneLine_free inside

/-- The line ends with the last character of the command, so nothing is trimmed. -/
theorem formatFzfLine_trimmed {e : Entry} (nonempty : e.cmd ≠ "") :
    trimEndMatches isLineBreak (formatFzfLine e) = formatFzfLine e := by
  apply trimEndMatches_of_last
  intro c last
  have cmd := sanitizeOneLine_nonempty nonempty
  rw [formatFzfLine_toList, List.getLast?_append_of_ne_nil _ (by simp), List.getLast?_cons_of_ne_nil cmd] at last
  exact sanitizeOneLine_free (List.mem_of_getLast? last)

theorem trimEndMatches_item {p : Char → Bool} (newline : p '\n' = true) (item : String) :
    trimEndMatches p (item ++ "\n") = trimEndMatches p item := by
  have line : item ++ "\n" = .ofList (item.toList ++ ['\n']) := by simp
  rw [line, trimEndMatches_concat newline, String.ofList_toList]

/-- Without a tab in the id the first tab of the line is the separator. -/
theorem parseSelectedCmd_plain {e : Entry} (nonempty : e.cmd ≠ "") (noTab : '\t' ∉ e.entryId.toList) :
    parseSelectedCmd (formatFzfLine e) = some (sanitizeOneLine e.cmd) := by
  have filled : (formatFzfLine e).isEmpty = false := by
    rw [← Bool.not_eq_true, String.isEmpty_iff, ← String.toList_inj, formatFzfLine_toList]
    simp
  have cmd : (sanitizeOneLine e.cmd).isEmpty = false := by
    rw [← Bool.not_eq_true, String.isEmpty_iff, ← String.toList_inj]
    exact sanitizeOneLine_nonempty nonempty
  have parts := splitOnce_of_toList (formatFzfLine_toList e) noTab
  rw [String.ofList_toList, String.ofList_toList] at parts
  simp only [parseSelectedCmd, formatFzfLine_trimmed nonempty, filled, parts, cmd, Bool.false_eq_true, if_false]

/-- With a tab in the id the rest of the id is taken for the start of the command. -/
theorem parseSelectedCmd_tab {e : Entry} (nonempty : e.cmd ≠ "") (tab : '\t' ∈ e.entryId.toList) :
    parseSelectedCmd (formatFzfLine e) ≠ some (sanitizeOneLine e.cmd) := by
  obtain ⟨before, after, id, free⟩ := List.eq_append_cons_of_mem tab
  have line : (formatFzfLine e).toList = before ++ '\t' :: (after ++ '\t' :: (sanitizeOneLine e.cmd).toList) := by
    rw [formatFzfLine_toList, id, List.append_assoc, List.cons_append]
  have parts := splitOnce_of_toList line free
  intro picked
  unfold parseSelectedCmd at picked
  simp only [formatFzfLine_trimmed nonempty, parts] at picked
  split at picked
  · cases picked
  · split at picked
    · cases picked
    · have length := congrArg (fun cmd => cmd.toList.length) (Option.some.inj picked)
      simp at length
      omega

/-! The whole list, as fzf sees it. -/

theorem fzfItems_stdin {lines : List String} (single : ∀ line ∈ lines, '\n' ∉ line.toList) :
    fzfItems (fzfStdin lines) = lines := by
  have split : (lines.flatMap fun line => line.toList ++ ['\n']).splitOn '\n' = lines.map String.toList ++ [[]] := by
    induction lines with
    | nil => rfl
    | cons line rest ih =>
      have here : '\n' ∉ line.toList := single line List.mem_cons_self
      have later := ih fun other member => single other (List.mem_cons_of_mem line member)
      rw [List.flatMap_cons, List.append_assoc, List.singleton_append,
        List.splitOn_append_cons_self_of_not_mem here, later, List.map_cons, List.cons_append]
  unfold fzfItems fzfStdin
  rw [String.toList_ofList, split, List.dropLast_concat, List.map_map]
  have back : String.ofList ∘ String.toList = id := funext fun text => String.ofList_toList
  rw [back, List.map_id]

theorem runFzf_selects {fzf : String → Except Error FzfOutput} {place : Nat} {lines : List String} {line : String}
    (selects : SelectsItem fzf place) (item : (fzfItems (fzfStdin lines))[place]? = some line)
    (trimmed : trimEndMatches isLineBreak line = line) (filled : line ≠ "") :
    runFzf fzf lines = .ok (some line) := by
  have visible : line.isEmpty = false := by
    rw [← Bool.not_eq_true, String.isEmpty_iff]
    exact filled
  unfold runFzf
  rw [selects _ _ item]
  simp only [if_true, trimEndMatches_item (p := isLineBreak) rfl, trimmed, visible, Bool.false_eq_true, if_false]

/-- The picker returns the command of the chosen entry exactly when no id holds a tab or a line break. -/
theorem picks_commands_iff {entries : List Entry} (nonempty : ∀ e ∈ entries, e.cmd ≠ "") :
    PicksCommands entries ↔ ∀ e ∈ entries, PlainId e.entryId := by
  constructor
  · intro picks e member
    obtain ⟨free, parsed⟩ := picks.lines e member
    have noBreak := lineBreak_free_iff.mp (formatFzfLine_free_iff.mp free)
    exact ⟨fun tab => parseSelectedCmd_tab (nonempty e member) tab parsed, noBreak⟩
  · intro plain
    have free : ∀ e ∈ entries, ∀ c ∈ (formatFzfLine e).toList, isLineBreak c = false := by
      intro e member
      exact formatFzfLine_free_iff.mpr (lineBreak_free_iff.mpr (plain e member).2)
    have parsed : ∀ e ∈ entries, parseSelectedCmd (formatFzfLine e) = some (sanitizeOneLine e.cmd) := by
      intro e member
      exact parseSelectedCmd_plain (nonempty e member) (plain e member).1
    refine ⟨fun e member => ⟨free e member, parsed e member⟩, ?_⟩
    intro fzf place e chosen selects
    have member := List.mem_of_getElem? chosen
    have items : fzfItems (fzfStdin (formatFzfLines entries)) = formatFzfLines entries := by
      apply fzfItems_stdin
      intro line listed newline
      obtain ⟨other, inside, rfl⟩ := List.mem_map.mp listed
      exact (lineBreak_free_iff.mp (free other inside)).1 newline
    have item : (fzfItems (fzfStdin (formatFzfLines entries)))[place]? = some (formatFzfLine e) := by
      rw [items, formatFzfLines, List.getElem?_map, chosen, Option.map_some]
    have filled : formatFzfLine e ≠ "" := by
      rw [Ne, ← String.toList_inj, formatFzfLine_toList]
      simp
    have some_entry : entries.isEmpty = false := by
      rw [List.isEmpty_eq_false_iff]
      exact List.ne_nil_of_mem member
    unfold selectCommand
    rw [some_entry, runFzf_selects selects item (formatFzfLine_trimmed (nonempty e member)) filled]
    simp only [parsed e member, Bool.false_eq_true, if_false]

theorem picks_commands_echo : PicksCommands [firstEcho, secondEcho] :=
  (picks_commands_iff (by decide)).mpr (by decide)

def tabbedEcho : Entry := { firstEcho with entryId := "id\t1" }

/-- An id with a tab comes in through `insert_entries` and is listed; the picker returns part of it. -/
theorem tabbed_id_is_picked :
    (opened.insertEntriesWithStats [tabbedEcho]).1 = .ok ⟨1, 0⟩ ∧
      (opened.insertEntriesWithStats [tabbedEcho]).2.listRecent 1 = .ok [tabbedEcho] ∧
      parseSelectedCmd (formatFzfLine tabbedEcho) = some "1\techo 1" ∧ ¬ PicksCommands [tabbedEcho] := by
  have picked : parseSelectedCmd (formatFzfLine tabbedEcho) = some "1\techo 1" := by decide
  refine ⟨by decide, by decide, picked, ?_⟩
  intro picks
  have wanted := (picks.lines tabbedEcho List.mem_cons_self).2
  rw [picked] at wanted
  exact absurd wanted (by decide)

end Rustory
