import Rustory.Core.Error
import Rustory.Core.Text

namespace Rustory

structure HistoryRecord where
  sourceIndex : Nat
  tsUnix : Option Int
  durationMs : Int64
  cmd : String
  deriving DecidableEq

inductive HistoryShell
  | bash
  | zsh
  deriving DecidableEq, Repr

def HistoryShell.parse (value : String) : Except Error HistoryShell :=
  if value = "bash" then
    .ok .bash
  else if value = "zsh" then
    .ok .zsh
  else
    .error (bail ("unsupported shell: " ++ value ++ " (expected: bash|zsh)"))

def HistoryShell.asStr : HistoryShell → String
  | .bash => "bash"
  | .zsh => "zsh"

/-- `i64::saturating_mul(1000)` -/
def saturatingMillis (seconds : Int) : Int64 := .ofInt (max minI64 (min maxI64 (seconds * 1000)))

/-- `: <epoch>:<duration>;command`, or the whole line as a command without a timestamp. -/
def zshRecord (cmdIndex : Nat) (line : String) : HistoryRecord :=
  let extended : Option (String × String × String) := do
    let rest ← stripStart ": " line
    let (header, after) ← splitOnce ';' rest
    let (ts, dur) ← splitOnce ':' header
    return (ts, dur, after)
  match extended with
  | none => ⟨cmdIndex, none, 0, line⟩
  | some (ts, dur, after) =>
    ⟨cmdIndex, parseI64 ts, ((parseI64 dur).map saturatingMillis).getD 0, after⟩

def zshRecords (cmdIndex : Nat) : List String → List HistoryRecord
  | [] => []
  | raw :: rest =>
    let line := trimEnd raw
    if line.isEmpty then
      zshRecords cmdIndex rest
    else
      zshRecord cmdIndex line :: zshRecords (cmdIndex + 1) rest

def parseZshHistory (content : String) : List HistoryRecord := zshRecords 0 (lines content)

/-- `#<epoch>`, the timestamp of the command on a later line. -/
def bashTimestamp (line : String) : Option Int := (stripStart "#" line).bind parseI64

def bashRecords (nextTs : Option Int) (cmdIndex : Nat) : List String → List HistoryRecord
  | [] => []
  | raw :: rest =>
    let line := trimEnd raw
    if line.isEmpty then
      bashRecords nextTs cmdIndex rest
    else
      match bashTimestamp line with
      | some ts => bashRecords (some ts) cmdIndex rest
      | none => ⟨cmdIndex, nextTs, 0, line⟩ :: bashRecords none (cmdIndex + 1) rest

def parseBashHistory (content : String) : List HistoryRecord := bashRecords none 0 (lines content)

def parseHistory (shell : HistoryShell) (content : String) : List HistoryRecord :=
  match shell with
  | .bash => parseBashHistory content
  | .zsh => parseZshHistory content

/-! Text added at the end of a history changes none of the records before it. -/

theorem zshRecords_append (cmdIndex : Nat) (first second : List String) :
    ∃ later, zshRecords cmdIndex (first ++ second) = zshRecords cmdIndex first ++ later := by
  induction first generalizing cmdIndex with
  | nil => exact ⟨_, rfl⟩
  | cons raw rest ih =>
    simp only [List.cons_append, zshRecords]
    split
    · exact ih cmdIndex
    · obtain ⟨later, same⟩ := ih (cmdIndex + 1)
      exact ⟨later, by rw [same, List.cons_append]⟩

theorem bashRecords_append (nextTs : Option Int) (cmdIndex : Nat) (first second : List String) :
    ∃ later, bashRecords nextTs cmdIndex (first ++ second) = bashRecords nextTs cmdIndex first ++ later := by
  induction first generalizing nextTs cmdIndex with
  | nil => exact ⟨_, rfl⟩
  | cons raw rest ih =>
    simp only [List.cons_append, bashRecords]
    split
    · exact ih nextTs cmdIndex
    · split
      · exact ih _ cmdIndex
      · obtain ⟨later, same⟩ := ih none (cmdIndex + 1)
        exact ⟨later, by rw [same, List.cons_append]⟩

theorem parseHistory_append (shell : HistoryShell) {content : String} (ends : EndsLine content)
    (continuation : String) :
    ∃ later, parseHistory shell (content ++ continuation) = parseHistory shell content ++ later := by
  cases shell with
  | bash =>
    show ∃ later, bashRecords none 0 (lines (content ++ continuation)) = _ ++ later
    rw [lines_append ends]
    exact bashRecords_append none 0 (lines content) (lines continuation)
  | zsh =>
    show ∃ later, zshRecords 0 (lines (content ++ continuation)) = _ ++ later
    rw [lines_append ends]
    exact zshRecords_append 0 (lines content) (lines continuation)

/-! Every record is numbered by its place. -/

theorem zshRecords_indices (cmdIndex : Nat) (source : List String) :
    (zshRecords cmdIndex source).map HistoryRecord.sourceIndex =
      List.range' cmdIndex (zshRecords cmdIndex source).length := by
  induction source generalizing cmdIndex with
  | nil => rfl
  | cons raw rest ih =>
    simp only [zshRecords]
    split
    · exact ih cmdIndex
    · have index : (zshRecord cmdIndex (trimEnd raw)).sourceIndex = cmdIndex := by
        unfold zshRecord
        dsimp only
        split <;> rfl
      rw [List.map_cons, List.length_cons, List.range'_succ, ih, index]

theorem bashRecords_indices (nextTs : Option Int) (cmdIndex : Nat) (source : List String) :
    (bashRecords nextTs cmdIndex source).map HistoryRecord.sourceIndex =
      List.range' cmdIndex (bashRecords nextTs cmdIndex source).length := by
  induction source generalizing nextTs cmdIndex with
  | nil => rfl
  | cons raw rest ih =>
    simp only [bashRecords]
    split
    · exact ih nextTs cmdIndex
    · split
      · exact ih _ cmdIndex
      · rw [List.map_cons, List.length_cons, List.range'_succ, ih]

theorem parseHistory_indices_nodup (shell : HistoryShell) (content : String) :
    ((parseHistory shell content).map HistoryRecord.sourceIndex).Nodup := by
  cases shell with
  | bash =>
    show ((bashRecords none 0 (lines content)).map HistoryRecord.sourceIndex).Nodup
    rw [bashRecords_indices]
    exact List.nodup_range'
  | zsh =>
    show ((zshRecords 0 (lines content)).map HistoryRecord.sourceIndex).Nodup
    rw [zshRecords_indices]
    exact List.nodup_range'

end Rustory
