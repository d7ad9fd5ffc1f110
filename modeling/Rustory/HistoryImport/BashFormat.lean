import Rustory.HistoryImport.Grammar

namespace Rustory

/-! What bash writes when `HISTTIMEFORMAT` is set. -/

def timestampLine (tsUnix : Int) : String := "#" ++ Int.repr tsUnix

/-- The lines of the commands, each after the line of its timestamp if it has one. -/
def bashLines (commands : List (Option Int × String)) : List String :=
  commands.flatMap fun command => (command.1.map timestampLine).toList ++ [command.2]

inductive LineEnd
  | lf
  | crlf
  deriving DecidableEq

def LineEnd.text : LineEnd → List Char
  | .lf => ['\n']
  | .crlf => ['\r', '\n']

def writeLines (file : List (String × LineEnd)) : String :=
  .ofList (file.flatMap fun line => line.1.toList ++ line.2.text)

structure BashCommand (command : Option Int × String) : Prop where
  tsUnix : ∀ ts ∈ command.1, minI64 ≤ ts ∧ ts ≤ maxI64
  singleLine : '\n' ∉ command.2.toList
  nonEmpty : command.2 ≠ ""
  trailing : ∀ c ∈ command.2.toList.getLast?, isWhitespace c = false
  noTimestamp : ∀ rest, command.2 = "#" ++ rest → parseI64 rest = none

/-- Blank lines stand anywhere between the lines of the commands. -/
structure BashFile (commands : List (Option Int × String)) (file : List (String × LineEnd)) : Prop where
  lines : (file.map Prod.fst).filter (fun line => !line.toList.all isWhitespace) = bashLines commands
  singleLine : ∀ line ∈ file, '\n' ∉ line.1.toList

/-! Trimming a line. -/

theorem trimEnd_empty_iff (line : String) : (trimEnd line).isEmpty = line.toList.all isWhitespace := by
  rw [Bool.eq_iff_iff, String.isEmpty_iff, ← String.toList_inj, List.all_eq_true]
  unfold trimEnd
  rw [String.toList_ofList]
  simp [List.dropWhile_eq_nil_iff]

theorem trimEnd_of_trailing {line : String} (trailing : ∀ c ∈ line.toList.getLast?, isWhitespace c = false) :
    trimEnd line = line := trimEndMatches_of_last trailing

theorem trimEnd_carriage (line : List Char) : trimEnd (.ofList (stripCarriage line)) = trimEnd (.ofList line) := by
  unfold stripCarriage
  split
  · rename_i last
    obtain ⟨before, shape⟩ := List.getLast?_eq_some_iff.mp last
    rw [shape, List.dropLast_concat]
    exact (trimEndMatches_concat (by decide) before).symm
  · rfl

theorem trimEnd_crlf (line : String) :
    trimEnd (.ofList (stripCarriage (line.toList ++ ['\r']))) = trimEnd line := by
  rw [trimEnd_carriage]
  have trimmed : trimEnd (.ofList (line.toList ++ ['\r'])) = trimEnd (.ofList line.toList) :=
    trimEndMatches_concat (by decide) line.toList
  rw [trimmed, String.ofList_toList]

/-! Reading the lines back. -/

theorem linesFrom_line {text : List Char} (single : '\n' ∉ text) (line rest : List Char) :
    linesFrom line (text ++ '\n' :: rest) = .ofList (stripCarriage (line ++ text)) :: linesFrom [] rest := by
  induction text generalizing line with
  | nil =>
    rw [List.nil_append, linesFrom, if_pos rfl, List.append_nil]
  | cons c text ih =>
    rw [List.mem_cons, not_or] at single
    rw [List.cons_append, linesFrom, if_neg (Ne.symm single.1), ih single.2, List.append_assoc, List.singleton_append]

theorem writeLines_read {file : List (String × LineEnd)} (single : ∀ line ∈ file, '\n' ∉ line.1.toList) :
    (lines (writeLines file)).map trimEnd = (file.map Prod.fst).map trimEnd := by
  unfold lines writeLines
  rw [String.toList_ofList]
  induction file with
  | nil => rfl
  | cons line rest ih =>
    have here : '\n' ∉ line.1.toList := single line List.mem_cons_self
    have later := ih fun other member => single other (List.mem_cons_of_mem line member)
    obtain ⟨text, lineEnd⟩ := line
    cases lineEnd with
    | lf =>
      rw [List.flatMap_cons, List.append_assoc, LineEnd.text, List.singleton_append, linesFrom_line here,
        List.nil_append, List.map_cons, later, trimEnd_carriage, String.ofList_toList, List.map_cons, List.map_cons]
    | crlf =>
      have joined : '\n' ∉ text.toList ++ ['\r'] := by simp [here]
      have shape : text.toList ++ LineEnd.crlf.text = (text.toList ++ ['\r']) ++ ['\n'] := by
        rw [List.append_assoc]
        rfl
      rw [List.flatMap_cons, shape, List.append_assoc, List.singleton_append, linesFrom_line joined,
        List.nil_append, List.map_cons, later, trimEnd_crlf, List.map_cons, List.map_cons]

theorem bashRecords_nonBlank (nextTs : Option Int) (cmdIndex : Nat) (source : List String) :
    bashRecords nextTs cmdIndex source =
      bashRecords nextTs cmdIndex ((source.map trimEnd).filter fun line => !line.isEmpty) := by
  induction source generalizing nextTs cmdIndex with
  | nil => rfl
  | cons raw rest ih =>
    rw [bashRecords, List.map_cons, List.filter_cons]
    by_cases blank : (trimEnd raw).isEmpty = true
    · simp only [blank, if_true, Bool.not_true, Bool.false_eq_true, if_false]
      exact ih nextTs cmdIndex
    · have again : trimEnd (trimEnd raw) = trimEnd raw := trimEnd_of_trailing (trimEndMatches_last _ raw)
      simp only [blank, Bool.false_eq_true, if_false, Bool.not_false, if_true, bashRecords, again]
      split
      · exact ih _ cmdIndex
      · rw [ih]

/-! The lines that bash writes. -/

theorem timestampLine_solid {tsUnix : Int} (range : minI64 ≤ tsUnix ∧ tsUnix ≤ maxI64) :
    ∀ c ∈ (timestampLine tsUnix).toList, isWhitespace c = false := by
  intro c member
  rw [timestampLine, String.toList_append, List.mem_append] at member
  rcases member with hash | digit
  · have same : c = '#' := List.mem_singleton.mp hash
    rw [same]
    rfl
  · exact parseI64_solid (parseI64_repr range) digit

theorem timestampLine_trimmed {tsUnix : Int} (range : minI64 ≤ tsUnix ∧ tsUnix ≤ maxI64) :
    trimEnd (timestampLine tsUnix) = timestampLine tsUnix := by
  apply trimEnd_of_trailing
  intro c last
  exact timestampLine_solid range c (List.mem_of_getLast? last)

theorem timestampLine_read {tsUnix : Int} (range : minI64 ≤ tsUnix ∧ tsUnix ≤ maxI64) :
    bashTimestamp (timestampLine tsUnix) = some tsUnix := by
  have rest : stripStart "#" (timestampLine tsUnix) = some (Int.repr tsUnix) := stripStart_some.mpr rfl
  rw [bashTimestamp, rest, Option.bind_some, parseI64_repr range]

theorem BashCommand.noTimestampLine {command : Option Int × String} (written : BashCommand command) :
    bashTimestamp command.2 = none := by
  unfold bashTimestamp
  cases found : stripStart "#" command.2 with
  | none => rfl
  | some rest => exact written.noTimestamp rest (stripStart_some.mp found)

theorem bashLines_trimmed {commands : List (Option Int × String)}
    (written : ∀ command ∈ commands, BashCommand command) :
    (bashLines commands).map trimEnd = bashLines commands := by
  have same : ∀ line ∈ bashLines commands, trimEnd line = id line := by
    intro line member
    obtain ⟨command, listed, inside⟩ := List.mem_flatMap.mp member
    rcases List.mem_append.mp inside with stamp | text
    · obtain ⟨ts, stamped, rfl⟩ := Option.map_eq_some_iff.mp (Option.mem_toList.mp stamp)
      exact timestampLine_trimmed ((written command listed).tsUnix ts stamped)
    · rw [List.mem_singleton.mp text]
      exact trimEnd_of_trailing (written command listed).trailing
  rw [List.map_congr_left same, List.map_id]

/-- Inserted blank lines and the line ends leave no trace in what is read. -/
theorem BashFile.nonBlank {commands : List (Option Int × String)} {file : List (String × LineEnd)}
    (written : ∀ command ∈ commands, BashCommand command) (inserted : BashFile commands file) :
    nonBlankLines (writeLines file) = bashLines commands := by
  have blank : (fun line => !(trimEnd line).isEmpty) = fun line : String => !line.toList.all isWhitespace := by
    funext line
    rw [trimEnd_empty_iff]
  rw [nonBlankLines, writeLines_read inserted.singleLine, List.filter_map, Function.comp_def, blank, inserted.lines,
    bashLines_trimmed written]

theorem bashRecords_command {command : Option Int × String} (written : BashCommand command) (nextTs : Option Int)
    (cmdIndex : Nat) (rest : List String) :
    bashRecords nextTs cmdIndex (command.2 :: rest) =
      ⟨cmdIndex, nextTs, 0, command.2⟩ :: bashRecords none (cmdIndex + 1) rest := by
  have visible : command.2.isEmpty = false := by
    rw [← Bool.not_eq_true, String.isEmpty_iff]
    exact written.nonEmpty
  rw [bashRecords, trimEnd_of_trailing written.trailing]
  simp only [visible, Bool.false_eq_true, if_false, written.noTimestampLine]

theorem bashRecords_timestamp {tsUnix : Int} (range : minI64 ≤ tsUnix ∧ tsUnix ≤ maxI64) (nextTs : Option Int)
    (cmdIndex : Nat) (rest : List String) :
    bashRecords nextTs cmdIndex (timestampLine tsUnix :: rest) = bashRecords (some tsUnix) cmdIndex rest := by
  have visible : (timestampLine tsUnix).isEmpty = false := by
    rw [← Bool.not_eq_true, String.isEmpty_iff, timestampLine]
    simp
  rw [bashRecords, timestampLine_trimmed range]
  simp only [visible, Bool.false_eq_true, if_false, timestampLine_read range]

def bashRecord (numbered : (Option Int × String) × Nat) : HistoryRecord :=
  ⟨numbered.2, numbered.1.1, 0, numbered.1.2⟩

/-- A timestamp is pending only between its own line and the line of its command. -/
theorem bashRecords_bashLines {commands : List (Option Int × String)}
    (written : ∀ command ∈ commands, BashCommand command) (cmdIndex : Nat) :
    bashRecords none cmdIndex (bashLines commands) = (commands.zipIdx cmdIndex).map bashRecord := by
  induction commands generalizing cmdIndex with
  | nil => rfl
  | cons command rest ih =>
    have here : BashCommand command := written command List.mem_cons_self
    have later := ih (fun other member => written other (List.mem_cons_of_mem command member)) (cmdIndex + 1)
    have shape : bashLines (command :: rest) =
        (command.1.map timestampLine).toList ++ command.2 :: bashLines rest := by
      simp [bashLines]
    rw [shape, List.zipIdx_cons, List.map_cons, ← later]
    cases stamp : command.1 with
    | none =>
      rw [Option.map_none, Option.toList_none, List.nil_append, bashRecords_command here, bashRecord, stamp]
    | some ts =>
      rw [Option.map_some, Option.toList_some, List.singleton_append, bashRecords_timestamp (here.tsUnix ts stamp),
        bashRecords_command here, bashRecord, stamp]

/-- `parse_bash_history` reads back every command with its own timestamp, in order. -/
theorem bash_history_read_back {commands : List (Option Int × String)}
    (written : ∀ command ∈ commands, BashCommand command) {file : List (String × LineEnd)}
    (inserted : BashFile commands file) :
    parseBashHistory (writeLines file) = commands.zipIdx.map bashRecord := by
  have source := inserted.nonBlank written
  unfold nonBlankLines at source
  rw [parseBashHistory, bashRecords_nonBlank, source, bashRecords_bashLines written]

def stampedHistory : List (Option Int × String) :=
  [(some 1700000000, "echo first"), (none, "#no timestamp"), (some (-5), "ls\r -l")]

def stampedFile : List (String × LineEnd) :=
  [("  ", .crlf), ("#1700000000", .crlf), ("\t", .lf), ("", .lf), ("echo first", .crlf), ("#no timestamp", .lf),
    ("#-5", .lf), ("ls\r -l", .lf), ("\r", .lf)]

theorem bash_history_read_back_stamped :
    (∀ command ∈ stampedHistory, BashCommand command) ∧ BashFile stampedHistory stampedFile ∧
      parseBashHistory (writeLines stampedFile) = stampedHistory.zipIdx.map bashRecord := by
  have plain : ∀ {command : String}, bashTimestamp command = none →
      ∀ rest, command = "#" ++ rest → parseI64 rest = none := by
    intro command noTimestamp rest shape
    rwa [bashTimestamp, stripStart_some.mpr shape, Option.bind_some] at noTimestamp
  have trimmed : ∀ {command : String}, command.toList.getLast?.any isWhitespace = false →
      ∀ c ∈ command.toList.getLast?, isWhitespace c = false := by
    intro command solid c last
    rwa [Option.mem_def.mp last, Option.any_some] at solid
  have written : ∀ command ∈ stampedHistory, BashCommand command := by
    intro command member
    simp only [stampedHistory, List.mem_cons, List.not_mem_nil, or_false] at member
    rcases member with rfl | rfl | rfl
    · exact ⟨by decide, by decide, by decide, trimmed (by decide), plain (by decide)⟩
    · exact ⟨by decide, by decide, by decide, trimmed (by decide), plain (by decide)⟩
    · exact ⟨by decide, by decide, by decide, trimmed (by decide), plain (by decide)⟩
  have inserted : BashFile stampedHistory stampedFile := ⟨by decide, by decide⟩
  exact ⟨written, inserted, bash_history_read_back written inserted⟩

end Rustory
